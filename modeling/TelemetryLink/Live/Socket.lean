import Std.Async.DNS
import Std.Async.TCP
import TelemetryLink.Live.Errno
import TelemetryLink.Net.Dialer

/-!
# Sockets

Connections over the network of the machine. Waiting is bounded: an operation that is not done in
time is given up.
-/

namespace TelemetryLink.Live

open Std.Async Std.Net TelemetryLink.Net

/-- A duration in milliseconds, at most about three weeks. -/
def millis (d : Duration) : UInt32 :=
  UInt32.ofNat (min (d.toNanos / 1000000) 2000000000)

/-- The outcome of a task, unless it takes longer than a number of milliseconds. -/
partial def awaitFor {α : Type} (task : AsyncTask α) (left : UInt32) :
    IO (Option (Except IO.Error α)) := do
  if ← IO.hasFinished task then return some task.get
  else if left = 0 then return none
  else
    IO.sleep 1
    awaitFor task (left - 1)

/-- The result of an operation that is given up after a duration. -/
def within {α : Type} (bound : Duration) (late : Fault) (operation : Async α) :
    IO (Except Fault α) := do
  match ← (do awaitFor (← operation.toIO) (millis bound) : IO _).toBaseIO with
  | .ok (some (.ok value)) => return .ok value
  | .ok (some (.error e)) => return .error (faultOf e)
  | .ok none => return .error late
  | .error e => return .error (faultOf e)

/-- A connection. -/
structure Socket where
  /-- The connection of the system. -/
  client : TCP.Socket.Client
  /-- The bound on every read. -/
  readTimeout : Duration
  /-- The bound on every write. -/
  writeTimeout : Duration

namespace Socket

/-- Reads until `n` octets are there, of which `taken` are already. -/
partial def receive (socket : Socket) (n : Nat) (taken : Bytes) :
    IO (Except ProtocolError Bytes) := do
  if n ≤ taken.length then return .ok taken
  let missing := UInt64.ofNat (n - taken.length)
  match ← within socket.readTimeout .readTimedOut (socket.client.recv? missing) with
  | .error fault =>
    if fault.kind = .interrupted then receive socket n taken else return .error (.ofFault fault)
  | .ok none => return .error (.connectionClosed (.byPeer taken.length n))
  | .ok (some bytes) => receive socket n (taken ++ bytes.data.toList)

instance : Link Socket IO where
  readExact n socket := return (← socket.receive n [], socket)
  writeAll bytes socket := do
    let data : ByteArray := ⟨bytes.toArray⟩
    return (← within socket.writeTimeout .readTimedOut (socket.client.send data), socket)
  flush socket := return (.ok (), socket)
  release socket := do
    let _ ← within socket.writeTimeout .readTimedOut socket.client.shutdown
    return socket
  pause d := IO.sleep (millis d)

end Socket

/-- The network of the machine. It keeps its own state. -/
structure Internet where

namespace Internet

/-- An endpoint as the system knows it. -/
def socketAddress (endpoint : Endpoint) : SocketAddress :=
  match endpoint.ip with
  | .v4 a b c d => .v4 ⟨.ofParts a b c d, endpoint.port⟩
  | .v6 ⟨groups, size⟩ => .v6 ⟨⟨⟨groups.toArray, size⟩⟩, endpoint.port⟩

/-- An address that the system found. -/
def ipAddress : IPAddr → IpAddress
  | .v4 ip => .v4 (ip.octets[0]) (ip.octets[1]) (ip.octets[2]) (ip.octets[3])
  | .v6 ip => .v6 ⟨ip.segments.toList, by simp⟩

instance : Dialer Internet Socket IO where
  lookup host network := do
    match ← (DNS.getAddrInfo host "").block.toBaseIO with
    | .ok ips => return (.ok (ips.toList.map ipAddress), network)
    | .error _ => return (.error .unknownHost, network)
  dial endpoint bound network := do
    let client ← TCP.Socket.Client.mk
    match ← within bound .connectTimedOut (client.connect (socketAddress endpoint)) with
    | .ok () => return (.ok ⟨client, bound, bound⟩, network)
    | .error fault => return (.error fault, network)
  setOption option socket network := do
    match option with
    | .readTimeout bound => return (.ok { socket with readTimeout := bound }, network)
    | .writeTimeout bound => return (.ok { socket with writeTimeout := bound }, network)
    | .noDelay =>
      match ← socket.client.noDelay.toBaseIO with
      | .ok () => return (.ok socket, network)
      | .error e => return (.error (faultOf e), network)
  retire _ network := return network
  nonce network := do
    let bytes ← IO.getRandomBytes 8
    let octets := bytes.data.toList
    if h : octets.length = 8 then return (⟨octets, h⟩, network)
    else throw (IO.userError "no random octets")

end Internet

end TelemetryLink.Live
