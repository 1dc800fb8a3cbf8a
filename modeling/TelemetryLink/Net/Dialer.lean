import TelemetryLink.Net.Address
import TelemetryLink.Session

/-!
# Opening connections

A dialer is what a client needs of a network: addresses for names, connections to addresses, and
fresh nonces. `Dialer.connect` tries the addresses of a host in order. The first connection made
is the only one: when one of its options cannot be set, no further address is tried.
-/

namespace TelemetryLink

/-- Bounds on waiting. -/
structure ConnectOptions where
  /-- The bound on making a connection. -/
  connectTimeout : Duration := .ofSecs 5
  /-- The bound on every read and write. -/
  ioTimeout : Duration := .ofSecs 5
  deriving DecidableEq, Repr

namespace Net

/-- What is set on a new connection. -/
inductive SocketOption where
  /-- The bound on every read. -/
  | readTimeout (bound : Duration)
  /-- The bound on every write. -/
  | writeTimeout (bound : Duration)
  /-- What is written is sent at once. -/
  | noDelay
  deriving DecidableEq, Repr

/-- The bound that an option sets, if it sets one. -/
def SocketOption.bound? : SocketOption → Option Duration
  | readTimeout bound => some bound
  | writeTimeout bound => some bound
  | noDelay => none

/-- The options of every connection, in the order in which they are set. -/
def socketOptions (options : ConnectOptions) : List SocketOption :=
  [.readTimeout options.ioTimeout, .writeTimeout options.ioTimeout, .noDelay]

/-- The operations of a network with state `ν`, whose connections are links of type `σ`. -/
class Dialer (ν : Type) (σ : outParam Type) (m : Type → Type) where
  /-- The addresses of a name. -/
  lookup : String → ν → m (Except Fault (List IpAddress) × ν)
  /-- Makes a connection within the bound. -/
  dial : Endpoint → Duration → ν → m (Except Fault σ × ν)
  /-- The connection with an option, in which no bound is zero. -/
  setOption : SocketOption → σ → ν → m (Except Fault σ × ν)
  /-- Takes back a connection that was released. -/
  retire : σ → ν → m ν
  /-- A nonce that was not used before. -/
  nonce : ν → m (Nonce × ν)

namespace Dialer

variable {ν σ : Type} {m : Type → Type} [Monad m] [Link σ m] [Dialer ν σ m]

/-- The addresses of a host: the host itself if it is the text of an address, else what the name
stands for. -/
def addresses (host : String) : ExceptT ProtocolError (StateT ν m) (List IpAddress) :=
  match IpAddress.parse host with
  | some ip => return [ip]
  | none =>
    if host.toList.contains (Char.ofNat 0) then throw (.ofFault .nulInHost)
    else ExceptT.mk fun network => do
      let (result, network) ← Dialer.lookup host network
      return (result.mapError ProtocolError.ofFault, network)

/-- The connection with an option. A bound of zero is refused before the network is asked. -/
def withOption (option : SocketOption) (link : σ) : ExceptT Fault (StateT ν m) σ :=
  if option.bound? = some .zero then throw .zeroTimeout
  else ExceptT.mk fun network => Dialer.setOption option link network

/-- The connection with options, set one after the other up to the first that cannot be set. -/
def withOptions : List SocketOption → σ → ExceptT Fault (StateT ν m) σ
  | [], link => return link
  | option :: rest, link => do withOptions rest (← withOption option link)

/-- Sets up a new connection. One that cannot be set up is released. -/
def setUp (options : ConnectOptions) (link : σ) : ExceptT ProtocolError (StateT ν m) σ :=
  ExceptT.mk fun network => do
    let (result, network) ← (withOptions (socketOptions options) link).run.run network
    match result with
    | .ok link => return (.ok link, network)
    -- The connection exists, so that it has to be given up before the failure is told.
    | .error fault =>
      let network ← Dialer.retire (← Link.release link) network
      return (.error (.ofFault fault), network)

/-- Connects to the first endpoint that accepts. When none does, the last fault counts, and
`otherwise` when there was none. -/
def connectFirst (options : ConnectOptions) :
    (otherwise : ProtocolError) → List Endpoint → ExceptT ProtocolError (StateT ν m) σ
  | otherwise, [] => throw otherwise
  | _, endpoint :: rest => do
    let dialed ← ExceptT.lift (fun network =>
      Dialer.dial endpoint options.connectTimeout network)
    match dialed with
    | .ok link => setUp options link
    | .error fault => connectFirst options (.ofFault fault) rest

/-- Connects to a host. -/
def connect (host : String) (port : UInt16) (options : ConnectOptions) :
    ExceptT ProtocolError (StateT ν m) σ := do
  let ips ← addresses host
  connectFirst options (.transport (.noAddress host port)) (ips.map fun ip => ⟨ip, port⟩)

/-- Opens a session with a host. -/
def openSession (host : String) (port : UInt16) (credentials : Credentials)
    (options : ConnectOptions) : ExceptT SessionError (StateT ν m) (Session σ) :=
  ExceptT.adapt (fun error => ⟨.connect, error⟩) do
    return Session.new (← connect host port options) credentials

end Dialer

end Net

end TelemetryLink
