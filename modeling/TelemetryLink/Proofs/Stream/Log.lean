import TelemetryLink.Frame
import TelemetryLink.Stream

/-!
# Reading logs

What the log of a stream tells about the exchanges made on it, read off the events alone: which
messages were offered, which of them were answered and how, and which data frames were begun and
confirmed. Nothing here knows of sessions or clients.

- `Log.answers` pairs every message that was taken whole with the octets read after it.
- `Log.begun` and `Log.confirmed` are the data frames among the messages, recognised by
  `Frame.parse` and without regard to who wrote them.
-/

namespace TelemetryLink

/-- What was done to a stream, oldest first. -/
abbrev Log := List StreamEvent

/-- The payload of a data frame, if the octets are exactly one. -/
def Frame.dataPayload? (message : Bytes) : Option Bytes :=
  match Frame.parse message with
  | .ok (frame, size) =>
    if frame.type = .data ∧ size = message.length then some frame.payload else none
  | .error _ => none

namespace Log

/-- The octets that were accepted. -/
def written (log : Log) : Bytes := log.flatMap Stream.sentBy

/-- The octets that were read. -/
def received (log : Log) : Bytes := log.flatMap Stream.receivedBy

/-- The message that an event offers to the stream. -/
def offeredBy : StreamEvent → Option Bytes
  | .wrote offered _ => some offered
  | _ => none

/-- The messages offered to the stream, whether or not it accepted them. -/
def offers (log : Log) : List Bytes := log.filterMap offeredBy

/-- The messages accepted as a whole, each with the octets read before the next message, where
`pending` was accepted before the log begins. A flush that fails ends the wait. -/
def answersAfter : (pending : Option Bytes) → Log → List (Bytes × Bytes)
  | _, [] => []
  | _, .wrote offered taken :: log =>
    answersAfter (if taken = offered then some offered else none) log
  | pending, .flushed done :: log => answersAfter (if done then pending else none) log
  | some message, .received reply :: log => (message, reply) :: answersAfter none log
  | none, .received _ :: log => answersAfter none log
  | _, .released :: log => answersAfter none log

/-- The messages accepted as a whole, each with the octets read before the next message. -/
def answers (log : Log) : List (Bytes × Bytes) := answersAfter none log

/-- The code of a confirmation. -/
def confirmationCode? : Bytes → Option UInt8
  | [marker, code] => if marker = 0x03 then some code else none
  | _ => none

/-- The payload and the code of an answer that confirms a data frame. -/
def confirmation? (answer : Bytes × Bytes) : Option (Bytes × UInt8) :=
  match Frame.dataPayload? answer.1, confirmationCode? answer.2 with
  | some payload, some code => some (payload, code)
  | _, _ => none

/-- The payloads of the data frames offered to the stream. -/
def begun (log : Log) : List Bytes := log.offers.filterMap Frame.dataPayload?

/-- The payloads of the data frames that were confirmed, each with the code of its
confirmation. -/
def confirmed (log : Log) : List (Bytes × UInt8) := log.answers.filterMap confirmation?

/-- The codes of confirmations that do not name data. -/
def unexpectedCodes (log : Log) : List UInt8 :=
  (log.confirmed.map Prod.snd).filter (· ≠ 0x01)

/-- Whether an answer is a whole reply to a ping. -/
def isPingReply (answer : Bytes × Bytes) : Bool :=
  answer.1 = [0x00, 0x00, 0x00, 0x01, 0x02] ∧ answer.2.length = 2

/-- How many pings were answered by a whole reply. -/
def pingReplies (log : Log) : Nat := log.answers.countP isPingReply

/-! ## Logs one after the other -/

@[simp]
theorem written_append (log rest : Log) :
    written (log ++ rest) = written log ++ written rest := List.flatMap_append

@[simp]
theorem received_append (log rest : Log) :
    received (log ++ rest) = received log ++ received rest := List.flatMap_append

@[simp]
theorem offers_append (log rest : Log) : offers (log ++ rest) = offers log ++ offers rest :=
  List.filterMap_append

/-- A message that was accepted, flushed and answered is one answer, whatever stands before it. -/
theorem answersAfter_exchange (pending : Option Bytes) (message reply : Bytes) (log : Log) :
    answersAfter pending (.wrote message message :: .flushed true :: .received reply :: log) =
      (message, reply) :: answersAfter none log := by
  simp [answersAfter]

/-! ## Logs without an exchange -/

/-- Nothing was exchanged; at most the stream was given up. -/
def Silent (log : Log) : Prop := log = [] ∨ log = [.released]

namespace Silent

variable {log : Log}

theorem offers_eq_nil (h : log.Silent) : log.offers = [] := by
  rcases h with rfl | rfl <;> rfl

theorem written_eq_nil (h : log.Silent) : log.written = [] := by
  rcases h with rfl | rfl <;> rfl

theorem received_eq_nil (h : log.Silent) : log.received = [] := by
  rcases h with rfl | rfl <;> rfl

theorem answersAfter_eq_nil (h : log.Silent) (pending : Option Bytes) :
    answersAfter pending log = [] := by
  rcases h with rfl | rfl <;> cases pending <;> rfl

end Silent

end Log

end TelemetryLink
