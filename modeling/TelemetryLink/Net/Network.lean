import TelemetryLink.Net.Dialer

/-!
# Scripted networks

A network whose behaviour is written down beforehand: how each name lookup, each connection
attempt and each setting of an option ends, and the connections that are made, each a link of type
`σ`. Past the end of a script, names stand for what `hosts` says, attempts end as `afterDials` says,
options can be set, and a connection is a `spare` one.
-/

namespace TelemetryLink.Net

/-- A network that follows scripts. -/
structure Network (σ : Type) where
  /-- How the next lookups end, whatever the name. -/
  lookups : List (Except Fault (List IpAddress)) := []
  /-- What names stand for after that. -/
  hosts : String → Except Fault (List IpAddress)
  /-- How the next connection attempts end; `none` is success. -/
  dials : List (Option Fault) := []
  /-- How attempts end after that. -/
  afterDials : Option Fault := none
  /-- How setting the next options ends, whatever the option; `none` is success. -/
  settings : List (Option Fault) := []
  /-- The next connections. -/
  links : List σ
  /-- Every connection after that. -/
  spare : σ
  /-- The next nonces. -/
  nonces : List Nonce := []
  /-- Every nonce after that. -/
  spareNonce : Nonce
  /-- The names looked up so far, in order. -/
  lookedUp : List String := []
  /-- The endpoints tried so far, in order. -/
  tried : List Endpoint := []
  /-- The connections that were released, in order. -/
  retired : List σ := []

namespace Network

variable {σ : Type}

/-- Looks a name up. -/
def lookup (host : String) (network : Network σ) :
    Except Fault (List IpAddress) × Network σ :=
  (network.lookups.headD (network.hosts host), { network with
    lookups := network.lookups.tail, lookedUp := network.lookedUp ++ [host] })

/-- Tries an endpoint. -/
def dial (endpoint : Endpoint) (network : Network σ) : Except Fault σ × Network σ :=
  let outcome := network.dials.headD network.afterDials
  let network := { network with
    dials := network.dials.tail, tried := network.tried ++ [endpoint] }
  match outcome with
  | some fault => (.error fault, network)
  | none => (.ok (network.links.headD network.spare), { network with links := network.links.tail })

/-- Sets an option of a connection. -/
def setOption (link : σ) (network : Network σ) : Except Fault σ × Network σ :=
  let outcome := network.settings.headD none
  let network := { network with settings := network.settings.tail }
  match outcome with
  | some fault => (.error fault, network)
  | none => (.ok link, network)

instance : Dialer (Network σ) σ Id where
  lookup host network := pure (network.lookup host)
  dial endpoint _ network := pure (network.dial endpoint)
  setOption _ link network := pure (network.setOption link)
  retire link network := pure { network with retired := network.retired ++ [link] }
  nonce network :=
    pure (network.nonces.headD network.spareNonce, { network with nonces := network.nonces.tail })

end Network

end TelemetryLink.Net
