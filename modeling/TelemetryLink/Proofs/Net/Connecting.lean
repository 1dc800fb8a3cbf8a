import TelemetryLink.Proofs.Client.Opening

/-!
# Connecting in order

A session is opened over the first address of its host that accepts. No address is left out on the
way there, none is tried twice, and none behind it is tried at all, even if the connection cannot be
used. When there is no session, the error says why: the host stands for nothing, an option of the
connection could not be set, or the last address did not accept.

- `Net.Dialer.InOrder`: this, with what becomes of the network.
- `Net.Dialer.openSession_inOrder`: it holds of every host and every network.
-/

namespace TelemetryLink

namespace Net

namespace Dialer

open Stateful

/-- A session with a host was opened, or not, by going through the addresses of the host in order:
from this network to the one after it, with this result. -/
structure InOrder (host : String) (port : UInt16) (credentials : Credentials)
    (options : ConnectOptions) (network after : Network Stream)
    (result : Except SessionError (Session Stream)) : Prop where
  /-- Why the host stands for nothing is the error, and nothing is tried. -/
  unresolved : ∀ fault, network.resolve host = .error fault →
    result = .error ⟨.connect, .ofFault fault⟩ ∧
      after.tried = network.tried ∧ after.retired = network.retired
  /-- That there is no address is an error of its own, and nothing is tried, either. -/
  nowhere : network.resolve host = .ok [] →
    result = .error ⟨.connect, .transport (.noAddress host port)⟩ ∧
      (Breakdown.noAddress host port).message =
        host ++ ":" ++ toString port.toNat ++ " resolved to no addresses" ∧
      after.tried = network.tried ∧ after.retired = network.retired
  /-- If no address accepts, each was tried once, and the fault of the last is the error. -/
  refused : ∀ before last fault, network.resolve host = .ok (before ++ [last]) →
    network.Refuses before.length → network.dialOutcome before.length = some fault →
    result = .error ⟨.connect, .ofFault fault⟩ ∧
      after.tried = network.tried ++ endpoints port (before ++ [last]) ∧
      after.retired = network.retired
  /-- The first address that accepts is the last that is tried. Its connection is that of the
  session, or it is released, and the first fault of an option is the error. -/
  accepted : ∀ before ip later, network.resolve host = .ok (before ++ ip :: later) →
    network.Refuses before.length → network.dialOutcome before.length = none →
    after.tried = network.tried ++ endpoints port (before ++ [ip]) ∧
      (network.optionFault? (socketOptions options) = none →
        result = .ok (Session.new network.nextLink credentials) ∧
          after.retired = network.retired) ∧
      ∀ fault, network.optionFault? (socketOptions options) = some fault →
        result = .error ⟨.connect, .ofFault fault⟩ ∧
          after.retired = network.retired ++ [network.nextLink.release]
  /-- It fails exactly if the host stands for nothing, no address accepts, or some option cannot be
  set of the first connection that is made. -/
  failed_iff : (∃ error, result = .error error) ↔ Fails network host options
  /-- Every error is one of connecting. -/
  stage : ∀ error, result = .error error → error.stage = .connect
  /-- A session that was opened is a new one, over the connection as it was made. -/
  opened : ∀ session, result = .ok session →
    session.state = .connecting ∧ session.framesSent = 0 ∧ session.link = network.nextLink ∧
      (network.Unused → session.link.written = [] ∧ session.link.received = [])

/-- Opening a session tries the addresses of its host in order, up to the first that accepts. -/
theorem openSession_inOrder (host : String) (port : UInt16) (credentials : Credentials)
    (options : ConnectOptions) (network : Network Stream) :
    let outcome := on (openSession host port credentials options) network
    InOrder host port credentials options network outcome.2 outcome.1 := by
  intro outcome
  have hresult := openSession_result port credentials options network host
  exact {
    unresolved := fun fault hhost => by
      have hopen := openSession_of_unresolved port credentials options hhost
      rw [show outcome = _ from hopen]
      exact ⟨rfl, rfl, rfl⟩
    nowhere := fun hhost => by
      have hopen := openSession_of_nowhere port credentials options hhost
      rw [show outcome = _ from hopen]
      exact ⟨rfl, rfl, rfl, rfl⟩
    refused := fun before last fault hhost hrefused hlast => by
      have hopen := openSession_of_refused port credentials options hhost hrefused hlast
      rw [show outcome = _ from hopen]
      exact ⟨rfl, rfl, rfl⟩
    accepted := fun before ip later hhost hrefused haccepted => by
      cases hoption : network.optionFault? (socketOptions options) with
      | none =>
        obtain ⟨_, hopen⟩ :=
          openSession_of_accepted port credentials options hhost hrefused haccepted hoption
        rw [show outcome = _ from hopen]
        exact ⟨rfl, fun _ => ⟨rfl, rfl⟩, nofun⟩
      | some fault =>
        obtain ⟨_, hopen⟩ :=
          openSession_of_unset port credentials options hhost hrefused haccepted hoption
        rw [show outcome = _ from hopen]
        refine ⟨rfl, nofun, ?_⟩
        rintro _ ⟨⟩
        exact ⟨rfl, rfl⟩
    failed_iff := by
      rcases hresult with ⟨hfails, error, herror⟩ | ⟨hfails, hsession⟩
      · exact iff_of_true ⟨_, herror⟩ hfails
      · refine iff_of_false ?_ hfails
        rw [hsession]
        exact nofun
    stage := fun error herror => by
      rcases hresult with ⟨-, _, h⟩ | ⟨-, h⟩
      · rw [← Except.error.inj (h.symm.trans herror)]
      · cases h.symm.trans herror
    opened := fun session hsession => by
      rcases hresult with ⟨-, _, h⟩ | ⟨-, h⟩
      · cases h.symm.trans hsession
      · obtain rfl := Except.ok.inj (h.symm.trans hsession)
        refine ⟨rfl, rfl, rfl, fun hunused => ?_⟩
        simp [Session.new, Stream.written, Stream.received, hunused.log_nextLink] }

/-- A collector with three addresses, of which the first refuses. The second gives a session; if the
last option cannot be set there, or if the others do not answer, there is an error; and so there is
if the name stands for no address, or for nothing. -/
theorem openSession_inOrder_second :
    let credentials : Credentials :=
      { key := ⟨[0x73], by decide⟩, deviceId := ⟨⟨[0xDE, 0xAD, 0xBE, 0xEF, 0, 1], rfl⟩⟩ }
    let first : List IpAddress := [.v4 10 0 0 1]
    let network : Network Stream :=
      { hosts := fun _ => .ok (first ++ [.v4 10 0 0 2, .v4 10 0 0 3]), dials := [some .refused]
        links := [{ reads := [.chunk [0x01]] }], spare := { reads := [] }
        spareNonce := ⟨[0, 0, 0, 0, 0, 0, 0, 1], rfl⟩ }
    let stiff : Network Stream :=
      { network with settings := [none, none, some (.bare .invalidInput)] }
    let silent : Network Stream := { network with afterDials := some .connectTimedOut }
    let bare : Network Stream := { network with hosts := fun _ => .ok [] }
    let nameless : Network Stream := { network with hosts := fun _ => .error .unknownHost }
    let opened := fun network : Network Stream =>
      on (openSession "collector" 9090 credentials {}) network
    (network.Refuses first.length ∧ network.dialOutcome first.length = none ∧
      (opened network).1 = .ok (Session.new { reads := [.chunk [0x01]] } credentials) ∧
      (opened network).2.tried = [⟨.v4 10 0 0 1, 9090⟩, ⟨.v4 10 0 0 2, 9090⟩]) ∧
    ((opened stiff).1 =
        .error ⟨.connect, .transport (.reported "invalid input parameter")⟩ ∧
      (opened stiff).2.tried = [⟨.v4 10 0 0 1, 9090⟩, ⟨.v4 10 0 0 2, 9090⟩]) ∧
    ((opened silent).1 =
        .error ⟨.connect, .timeout "Connection timed out (os error 110)"⟩ ∧
      (opened silent).2.tried =
        [⟨.v4 10 0 0 1, 9090⟩, ⟨.v4 10 0 0 2, 9090⟩, ⟨.v4 10 0 0 3, 9090⟩]) ∧
    ((opened bare).1 = .error ⟨.connect, .transport (.noAddress "collector" 9090)⟩ ∧
      (opened bare).2.tried = []) ∧
    ((opened nameless).1 = .error ⟨.connect, .ofFault .unknownHost⟩ ∧
      (opened nameless).2.tried = []) := by
  intro credentials first network stiff silent bare nameless opened
  have hrefused : network.Refuses first.length := by
    intro i hi
    obtain rfl : i = 0 := Nat.lt_one_iff.1 hi
    exact nofun
  have hsilent : silent.Refuses (first ++ [IpAddress.v4 10 0 0 2]).length := by
    intro i hi
    match i, hi with
    | 0, _ => exact nofun
    | 1, _ => exact nofun
  have hname (network : Network Stream) :
      network.resolve "collector" = network.lookups.headD (network.hosts "collector") := by
    have hparse : IpAddress.parse "collector" = none := by decide +kernel
    rw [Network.resolve, hparse]
    rfl
  have hin (network : Network Stream) :
      InOrder "collector" 9090 credentials {} network (opened network).2 (opened network).1 :=
    openSession_inOrder "collector" 9090 credentials {} network
  -- What follows is read off this alone.
  clear_value opened
  obtain ⟨htried, hsession, -⟩ :=
    (hin network).accepted first (.v4 10 0 0 2) [.v4 10 0 0 3] (hname network) hrefused rfl
  obtain ⟨hstiff, -, herror⟩ :=
    (hin stiff).accepted first (.v4 10 0 0 2) [.v4 10 0 0 3] (hname stiff) hrefused rfl
  obtain ⟨hlast, hall, -⟩ :=
    (hin silent).refused (first ++ [IpAddress.v4 10 0 0 2]) (.v4 10 0 0 3) .connectTimedOut
      (hname silent) hsilent rfl
  obtain ⟨hbare, -, hnone, -⟩ := (hin bare).nowhere (hname bare)
  obtain ⟨hnameless, hnothing, -⟩ := (hin nameless).unresolved .unknownHost (hname nameless)
  exact ⟨⟨hrefused, rfl, (hsession rfl).1, htried⟩, ⟨(herror _ rfl).1, hstiff⟩, ⟨hlast, hall⟩,
    ⟨hbare, hnone⟩, hnameless, hnothing⟩

end Dialer

end Net

end TelemetryLink
