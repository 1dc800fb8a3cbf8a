import TelemetryLink.Proofs.Exchange
import TelemetryLink.Proofs.Net.Dialing

/-!
# Opening sessions on a scripted network

However a network behaves, opening a session either gives a session over a connection to which
nothing was done, or fails with an error of the connection; then at most one connection was made,
and it was released at once.

- `Net.Dialer.openSession_outcome`: this, with what becomes of the network.
-/

namespace TelemetryLink

namespace Net

/-- Nothing was done yet to the connections that the network will make. -/
structure Network.Unused (network : Network Stream) : Prop where
  links : ∀ link ∈ network.links, link.log = []
  spare : network.spare.log = []

/-- A network as it is before a run: moreover, no connection was released. -/
structure Network.Fresh (network : Network Stream) : Prop extends network.Unused where
  retired : network.retired = []

namespace Network.Unused

variable {network : Network Stream}

/-- The next connection is new. -/
theorem log_nextLink (h : network.Unused) : network.nextLink.log = [] := by
  unfold Network.nextLink
  cases hlinks : network.links with
  | nil => exact h.spare
  | cons link links => exact h.links link (by simp [hlinks])

/-- So are those after it. -/
theorem links_tail (h : network.Unused) : ∀ link ∈ network.links.tail, link.log = [] :=
  fun link hlink => h.links link (List.mem_of_mem_tail hlink)

end Network.Unused

namespace Dialer

open Stateful

/-- Opening a session gives a new session, or releases what it connected to. -/
theorem openSession_outcome (host : String) (port : UInt16) (credentials : Credentials)
    (options : ConnectOptions) {network : Network Stream} (hunused : network.Unused) :
    (∃ link after, on (openSession host port credentials options) network =
        (.ok (Session.new link credentials), after) ∧
        link.log = [] ∧ after.Unused ∧ after.retired = network.retired) ∨
      ∃ error after released,
        on (openSession host port credentials options) network =
          (.error ⟨.connect, error⟩, after) ∧
        error.OfLink ∧ after.Unused ∧ after.retired = network.retired ++ released ∧
        ∀ link ∈ released, link.log = [.released] := by
  have hnone : network.retired = network.retired ++ [] := (List.append_nil _).symm
  cases course network host options with
  | unresolved hhost =>
    have hopen := openSession_of_unresolved port credentials options hhost
    exact .inr ⟨_, _, [], hopen, ProtocolError.ofLink_ofFault _, ⟨hunused.links, hunused.spare⟩,
      hnone, nofun⟩
  | nowhere hhost =>
    have hopen := openSession_of_nowhere port credentials options hhost
    exact .inr ⟨_, _, [], hopen, trivial, ⟨hunused.links, hunused.spare⟩, hnone, nofun⟩
  | refused hhost hrefused hlast =>
    have hopen := openSession_of_refused port credentials options hhost hrefused hlast
    exact .inr ⟨_, _, [], hopen, ProtocolError.ofLink_ofFault _, ⟨hunused.links, hunused.spare⟩,
      hnone, nofun⟩
  | unset hhost hrefused haccepted hoption =>
    obtain ⟨_, hopen⟩ :=
      openSession_of_unset port credentials options hhost hrefused haccepted hoption
    refine .inr ⟨_, _, [network.nextLink.release], hopen, ProtocolError.ofLink_ofFault _,
      ⟨hunused.links_tail, hunused.spare⟩, rfl, ?_⟩
    simp [Stream.release, Stream.record, hunused.log_nextLink]
  | accepted hhost hrefused haccepted hoption =>
    obtain ⟨_, hopen⟩ :=
      openSession_of_accepted port credentials options hhost hrefused haccepted hoption
    exact .inl ⟨_, _, hopen, hunused.log_nextLink, ⟨hunused.links_tail, hunused.spare⟩, rfl⟩

end Dialer

end Net

end TelemetryLink
