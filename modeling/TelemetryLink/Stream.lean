import TelemetryLink.Link

/-!
# Scripted streams

A stream whose behaviour is written down beforehand: what each read finds, how much each write
takes, and how each flush ends. Every script is finite, so every operation ends; past the end of
its script a read finds the end of the stream, a write takes everything and a flush succeeds.

A stream keeps a log of what was done to it. The log is its only memory, and `written`,
`flushCount` and `releaseCount` are read off it.
-/

namespace TelemetryLink

/-- What one or more reads find. -/
inductive ReadStep where
  /-- Octets that arrive together. A read takes at most these. -/
  | chunk (bytes : Bytes)
  /-- One read that finds the end of the stream. -/
  | eof
  /-- One read that fails. -/
  | fault (fault : Fault)
  deriving DecidableEq, Repr

/-- How one write ends. -/
inductive WriteStep where
  /-- It takes at most so many octets. -/
  | take (limit : Nat)
  /-- It fails. -/
  | fault (fault : Fault)
  deriving DecidableEq, Repr

/-- What was done to a stream. -/
inductive StreamEvent where
  /-- A read of an exact size took these octets. -/
  | received (bytes : Bytes)
  /-- Of the octets offered, these were taken. -/
  | wrote (offered taken : Bytes)
  /-- A flush ended, well or not. -/
  | flushed (done : Bool)
  /-- The stream was given up. -/
  | released
  deriving DecidableEq, Repr

/-- A stream that follows scripts. -/
structure Stream where
  /-- What the next reads find. -/
  reads : List ReadStep
  /-- How the next writes end. -/
  writes : List WriteStep := []
  /-- How the next flushes end; `none` is success. -/
  flushes : List (Option Fault) := []
  /-- What was done so far, oldest first. -/
  log : List StreamEvent := []
  deriving DecidableEq, Repr

namespace Stream

/-- The stream with one more event in its log. -/
def record (stream : Stream) (event : StreamEvent) : Stream :=
  { stream with log := stream.log ++ [event] }

/-! ## Reading -/

/-- What a read of an exact size does to the script. -/
structure Intake where
  /-- The octets read, or why there are none. -/
  result : Except ProtocolError Bytes
  /-- The octets taken from the script, also those lost to a failure. -/
  taken : Bytes
  /-- What is left of the script. -/
  rest : List ReadStep

/-- Reads until `n` octets are there, of which `taken` are already. Interrupted reads are made
again; a read that finds the end closes the connection; any other fault ends the reading. -/
def intake (n : Nat) (taken : Bytes) (reads : List ReadStep) : Intake :=
  if n ≤ taken.length then ⟨.ok taken, taken, reads⟩
  else match reads with
    | [] => ⟨.error (.connectionClosed (.byPeer taken.length n)), taken, []⟩
    | .eof :: rest => ⟨.error (.connectionClosed (.byPeer taken.length n)), taken, rest⟩
    | .fault fault :: rest =>
      if fault.kind = .interrupted then intake n taken rest
      else ⟨.error (.ofFault fault), taken, rest⟩
    | .chunk bytes :: rest =>
      -- What a chunk holds beyond the request stays for the next read.
      let missing := n - taken.length
      if missing ≤ bytes.length then
        ⟨.ok (taken ++ bytes.take missing), taken ++ bytes.take missing,
          .chunk (bytes.drop missing) :: rest⟩
      else intake n (taken ++ bytes) rest

/-- Reads exactly `n` octets. -/
def readExact (n : Nat) (stream : Stream) : Except ProtocolError Bytes × Stream :=
  let intake := intake n [] stream.reads
  (intake.result, { stream with reads := intake.rest }.record (.received intake.taken))

/-! ## Writing -/

/-- What a complete write does to the script. -/
structure Outlet where
  /-- Whether everything was taken. -/
  result : Except Fault Unit
  /-- The octets taken, all of them or those before a failure. -/
  taken : Bytes
  /-- What is left of the script. -/
  rest : List WriteStep

/-- Writes until nothing is left. Interrupted writes are made again; a write that takes nothing,
or any other fault, ends the writing. -/
def outlet (bytes : Bytes) (taken : Bytes) (writes : List WriteStep) : Outlet :=
  if bytes = [] then ⟨.ok (), taken, writes⟩
  else match writes with
    | [] => ⟨.ok (), taken ++ bytes, []⟩
    -- Offered octets of which none is taken would be offered forever.
    | .take 0 :: rest => ⟨.error .nothingWritten, taken, rest⟩
    | .take limit :: rest => outlet (bytes.drop limit) (taken ++ bytes.take limit) rest
    | .fault fault :: rest =>
      if fault.kind = .interrupted then outlet bytes taken rest
      else ⟨.error fault, taken, rest⟩

/-- Writes all octets. -/
def writeAll (bytes : Bytes) (stream : Stream) : Except Fault Unit × Stream :=
  let outlet := outlet bytes [] stream.writes
  (outlet.result, { stream with writes := outlet.rest }.record (.wrote bytes outlet.taken))

/-- Flushes. A flush is never made again, whatever its fault. -/
def flush (stream : Stream) : Except Fault Unit × Stream :=
  match stream.flushes with
  | some fault :: rest =>
    (.error fault, { stream with flushes := rest }.record (.flushed false))
  | none :: rest => (.ok (), { stream with flushes := rest }.record (.flushed true))
  | [] => (.ok (), stream.record (.flushed true))

/-- Gives the stream up. -/
def release (stream : Stream) : Stream :=
  stream.record .released

instance {m : Type → Type} [Monad m] : Link Stream m where
  readExact n stream := pure (stream.readExact n)
  writeAll bytes stream := pure (stream.writeAll bytes)
  flush stream := pure stream.flush
  release stream := pure stream.release
  pause _ := pure ()

/-! ## Views -/

/-- The octets that an event put on the wire. -/
def sentBy : StreamEvent → Bytes
  | .wrote _ taken => taken
  | _ => []

/-- The octets that an event took from the wire. -/
def receivedBy : StreamEvent → Bytes
  | .received bytes => bytes
  | _ => []

/-- All octets written so far. -/
def written (stream : Stream) : Bytes :=
  stream.log.flatMap sentBy

/-- All octets read so far. -/
def received (stream : Stream) : Bytes :=
  stream.log.flatMap receivedBy

/-- How often the stream was flushed, well or not. -/
def flushCount (stream : Stream) : Nat :=
  stream.log.countP fun event => event matches .flushed _

/-- How often the stream was given up. -/
def releaseCount (stream : Stream) : Nat :=
  stream.log.count .released

/-- Octets in a step of a read script. -/
def stepSize : ReadStep → Nat
  | .chunk bytes => bytes.length
  | _ => 0

/-- How many octets the read script still holds, wherever it ends. -/
def unread (stream : Stream) : Nat :=
  stream.reads.foldr (fun step n => stepSize step + n) 0

end Stream

end TelemetryLink
