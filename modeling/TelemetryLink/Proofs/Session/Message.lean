import TelemetryLink.Proofs.Frame.RoundTrip
import TelemetryLink.Proofs.Handshake.RoundTrip
import TelemetryLink.Proofs.Record.Codec
import TelemetryLink.Proofs.Session.Equations

/-!
# The messages of a session

A session sends a handshake, a ping and data frames, and goes on after each as long as the answer
is the right one. This module says what each message is on the wire, how a reader of a log
recognises it, and what its exchange leaves in the log of a scripted stream.

- `dataPayload?_bytes`: of all messages exactly the data frames parse as data frames.
- `Message.exchanged`, `Message.Broken`: the events of an exchange that was answered, and of one
  that ends the session.
-/

namespace TelemetryLink

/-- What a session sends. -/
inductive Message where
  /-- The handshake under a nonce. -/
  | handshake (nonce : Nonce)
  /-- The ping. -/
  | ping
  /-- The data frame of a record. -/
  | data (record : Record)
  deriving DecidableEq

namespace Message

/-- The octets of a message of someone with these credentials. -/
def bytes (credentials : Credentials) : Message → Bytes
  | handshake nonce =>
    (Handshake.build credentials.key credentials.deviceId credentials.flags nonce).toBytes
  | ping => [0x00, 0x00, 0x00, 0x01, 0x02]
  | data record => [0x00, 0x00, 0x00, 0x1A, 0x01] ++ record.encodePresent

/-- Octets in a message. -/
def size : Message → Nat
  | handshake _ => 52
  | ping => 5
  | data _ => 30

/-- Octets in the answer to a message. -/
def answerSize : Message → Nat
  | handshake _ => 1
  | _ => 2

/-- Whether a session goes on after this answer. -/
def Continues : Message → Bytes → Prop
  | handshake _, answer => answer = [0x01]
  | ping, answer => answer.length = 2
  | data _, answer => ∃ code, answer = [0x03, code]

/-- The record of a data frame. -/
def record? : Message → Option Record
  | data record => some record
  | _ => none

/-- Whether a message is a handshake. -/
def isHandshake : Message → Bool
  | handshake _ => true
  | _ => false

theorem length_of_continues {message : Message} {answer : Bytes}
    (h : message.Continues answer) : answer.length = message.answerSize := by
  cases message with
  | handshake nonce => simp [show answer = [0x01] from h, answerSize]
  | ping => exact h
  | data record =>
    obtain ⟨code, rfl⟩ := h
    rfl

end Message

/-! ## Messages on the wire -/

namespace Message

variable (credentials : Credentials)

theorem length_bytes (message : Message) : (message.bytes credentials).length = message.size := by
  cases message with
  | handshake nonce => exact Handshake.length_toBytes _
  | ping => rfl
  | data record => simp [bytes, size, record.length_encodePresent, Record.optionalSize, Record.size]

/-- The frame of a ping is the one that sessions build. -/
theorem build_ping : Frame.build .ping [] = .ok (ping.bytes credentials) := rfl

/-- The frame of a record is the one that sessions build. -/
theorem build_data (record : Record) :
    Frame.build .data record.encodePresent = .ok ((data record).bytes credentials) := by
  have hlen : record.encodePresent.length = 25 := record.length_encodePresent
  simp [Frame.build, Frame.checkLength, hlen, Frame.maxLength, bytes, FrameType.toByte]
  rfl

/-- The magic of a handshake, read as the length of a frame, is out of range. -/
theorem parse_handshake (nonce : Nonce) :
    ∃ error, Frame.parse ((handshake nonce).bytes credentials) = .error error := by
  have hmagic : ((handshake nonce).bytes credentials).take Frame.lengthSize =
      [0x52, 0x47, 0x57, 0x31] := rfl
  have hlen : ¬ ((handshake nonce).bytes credentials).length < Frame.lengthSize := by
    rw [length_bytes, size]
    decide
  have hbig : Frame.maxLength < Bytes.ofBe [0x52, 0x47, 0x57, 0x31] := by decide
  refine ⟨.invalidFrameLength (Bytes.ofBe [0x52, 0x47, 0x57, 0x31]), ?_⟩
  simp only [Frame.parse, if_neg hlen, hmagic, Frame.checkLength, if_pos (Or.inr hbig)]
  rfl

theorem parse_data (record : Record) :
    Frame.parse ((data record).bytes credentials) =
      .ok (⟨.data, record.encodePresent⟩, 30) := by
  obtain ⟨hshort, hbytes⟩ := Frame.build_eq_ok_iff.1 (build_data credentials record)
  have hparse := @Frame.parse_octets 0x01 _ hshort []
  rw [List.append_nil, record.length_encodePresent] at hparse
  rw [← hbytes]
  exact hparse

/-- Of all messages exactly the data frames are read as data frames. -/
theorem dataPayload?_bytes (message : Message) :
    Frame.dataPayload? (message.bytes credentials) =
      message.record?.map Record.encodePresent := by
  cases message with
  | handshake nonce =>
    obtain ⟨error, herror⟩ := parse_handshake credentials nonce
    simp only [Frame.dataPayload?, herror]
    rfl
  | ping =>
    have hping : Frame.dataPayload? [0x00, 0x00, 0x00, 0x01, 0x02] = none := by decide
    exact hping
  | data record =>
    have hlen : 30 = ((data record).bytes credentials).length :=
      (length_bytes credentials (data record)).symm
    simp only [Frame.dataPayload?, parse_data]
    exact if_pos ⟨trivial, hlen⟩

/-! ## Exchanging a message -/

/-- The events of a message that was accepted as a whole, flushed, and answered. -/
def exchanged (message : Message) (answer : Bytes) : Log :=
  [.wrote (message.bytes credentials) (message.bytes credentials), .flushed true,
    .received answer]

/-- The events of a message whose exchange ends the session: a part of it was accepted, or the
flush failed, or the answer is incomplete or not the right one. -/
inductive Broken (message : Message) : Log → Prop
  | unsent {taken} (h : taken <+: message.bytes credentials) :
    Broken message [.wrote (message.bytes credentials) taken]
  | unflushed :
    Broken message [.wrote (message.bytes credentials) (message.bytes credentials),
      .flushed false]
  | unanswered {answer} (hsize : answer.length ≤ message.answerSize)
      (hnot : ¬ message.Continues answer) :
    Broken message (message.exchanged credentials answer)

variable {credentials} in
/-- An exchange that fails breaks off. -/
theorem broken_of_outcome {message : Message} {error : ProtocolError} {events : Log}
    (h : Exchange.Outcome (message.bytes credentials) message.answerSize (.error error) events) :
    message.Broken credentials events := by
  cases h with
  | unsent htaken => exact .unsent htaken
  | unflushed => exact .unflushed
  | unanswered hlen =>
    refine .unanswered (Nat.le_of_lt hlen) fun hcont => ?_
    have := length_of_continues hcont
    omega

end Message

end TelemetryLink
