import TelemetryLink.Link

/-!
# Collectors

The other end of a connection: a collector that reads the handshake and frames of a client and
answers as its script says. `Visit` is one connection, and a link for the client that makes it.
-/

namespace TelemetryLink.Collector

/-- How a collector treats one connection. -/
structure Script where
  /-- Closes after the handshake. -/
  hangup : Bool := false
  /-- Never answers. -/
  silent : Bool := false
  /-- The verdict; `none` is acceptance if the tag verifies, and a rejection else. -/
  reply : Option UInt8 := none
  /-- The answers to frames. After one with fewer than two octets, and instead of one more, the
  collector closes. -/
  acks : List Bytes := []
  deriving DecidableEq, Repr

/-- What a collector waits for. -/
inductive Phase where
  /-- The handshake. -/
  | handshake
  /-- The next frame, with the answers that are left. -/
  | frame (acks : List Bytes)
  /-- That the client closes. -/
  | ending
  /-- Nothing: it has closed. -/
  | closed
  deriving DecidableEq, Repr

/-- One connection, seen from the collector. -/
structure Visit where
  /-- How to treat the client. -/
  script : Script
  /-- The key that handshakes are verified with. -/
  key : AuthKey
  /-- What the collector waits for. -/
  phase : Phase := .handshake
  /-- Octets received and not read yet. -/
  inbox : Bytes := []
  /-- Octets sent that the client has not read yet. -/
  outbox : Bytes := []
  /-- The handshake, once it is there. -/
  greeting : Option Handshake := none
  /-- The frames read so far. -/
  frames : List Frame := []
  /-- Whether the client closed before the collector did. -/
  clientClosed : Bool := false

namespace Visit

/-- Whether the client proved that it knows the key. -/
def authenticated (visit : Visit) : Bool :=
  visit.greeting.any (·.verify visit.key)

/-- What the collector does about a handshake. -/
def greet (visit : Visit) (message : Handshake) : Visit :=
  let visit := { visit with greeting := some message }
  if visit.script.hangup then { visit with phase := .closed }
  else if visit.script.silent then { visit with phase := .ending }
  else
    -- A scripted verdict stands whether the tag verifies or not.
    let verdict := visit.script.reply.getD
      (if message.verify visit.key then Verdict.acceptance
        else Rejection.badAuthentication.code)
    let phase := if verdict = Verdict.acceptance then .frame visit.script.acks else .ending
    { visit with outbox := visit.outbox ++ [verdict], phase }

/-- What the collector does about a frame, with the answers that are left. -/
def answer (visit : Visit) (frame : Frame) (acks : List Bytes) : Visit :=
  let visit := { visit with frames := visit.frames ++ [frame] }
  match acks with
  | [] => { visit with phase := .closed }
  | ack :: acks =>
    -- Fewer octets than a reply has are the last that the client gets.
    let phase := if ack.length < Reply.size then .closed else .frame acks
    { visit with outbox := visit.outbox ++ ack, phase }

/-- Reads what has arrived, up to `n` messages. -/
def advance : Nat → Visit → Visit
  | 0, visit => visit
  | n + 1, visit =>
    match visit.phase with
    | .handshake =>
      match Handshake.ofBytes (visit.inbox.take Handshake.size) with
      | .ok message =>
        advance n ({ visit with inbox := visit.inbox.drop Handshake.size }.greet message)
      | .error _ => visit
    | .frame acks =>
      match Frame.parse visit.inbox with
      | .ok (frame, size) =>
        advance n ({ visit with inbox := visit.inbox.drop size }.answer frame acks)
      | .error _ => visit
    | .ending | .closed => visit

/-- The client writes. -/
def writeAll (bytes : Bytes) (visit : Visit) : Except Fault Unit × Visit :=
  let inbox := visit.inbox ++ bytes
  (.ok (), { visit with inbox }.advance (inbox.length + 1))

/-- The client reads. It waits in vain for octets that a collector which has not closed does not
send. -/
def readExact (n : Nat) (visit : Visit) : Except ProtocolError Bytes × Visit :=
  if n ≤ visit.outbox.length then
    (.ok (visit.outbox.take n), { visit with outbox := visit.outbox.drop n })
  else if visit.phase = .closed then
    (.error (.connectionClosed (.byPeer visit.outbox.length n)), { visit with outbox := [] })
  else (.error (.ofFault .readTimedOut), { visit with outbox := [] })

/-- The client closes. -/
def release (visit : Visit) : Visit :=
  { visit with clientClosed := visit.clientClosed || visit.phase != .closed }

instance : Link Visit Id where
  readExact n visit := pure (visit.readExact n)
  writeAll bytes visit := pure (visit.writeAll bytes)
  flush visit := pure (.ok (), visit)
  release visit := pure visit.release
  pause _ := pure ()

end Visit

end TelemetryLink.Collector
