import TelemetryLink.Net.Network
import TelemetryLink.Proofs.Stateful

/-!
# Dialing

What is written down in a network for the next attempts, and what connecting to a host makes of it,
whatever the connections are.

- `Network.dialOutcome`, `Network.optionOutcome`: how attempts and the setting of options end.
- `Dialer.course`: the ways in which connecting can go, and no other. For each there is a lemma that
  gives the result of opening a session and the network after it, `openSession_of_unresolved` up to
  `openSession_of_accepted`.
- `Dialer.connectFirst_append`: as long as no attempt succeeds, the next endpoint is tried.
- `Dialer.openSession_result`: when opening a session fails.
- `Dialer.openSession_recorded`: what it leaves on record.
-/

namespace TelemetryLink

namespace Net

/-- The endpoints with one port at these addresses. -/
def endpoints (port : UInt16) (ips : List IpAddress) : List Endpoint := ips.map fun ip => ⟨ip, port⟩

/-- The names that are looked up for a host: the host itself, unless it is the text of an address or
holds NUL. -/
def namesOf (host : String) : List String :=
  match IpAddress.parse host with
  | some _ => []
  | none => if host.toList.contains (Char.ofNat 0) then [] else [host]

theorem namesOf_address {host : String} {ip : IpAddress} (h : IpAddress.parse host = some ip) :
    namesOf host = [] := by
  rw [namesOf, h]

theorem namesOf_name {host : String} (h : IpAddress.parse host = none)
    (hnul : Char.ofNat 0 ∉ host.toList) : namesOf host = [host] := by
  simp [namesOf, h, hnul]

/-! ## What is written down for the next attempts -/

namespace Network

variable {σ : Type}

/-- What a host stands for, or why it stands for nothing. Only what is not the text of an address
is looked up, unless it holds NUL. -/
def resolve (network : Network σ) (host : String) : Except Fault (List IpAddress) :=
  match IpAddress.parse host with
  | some ip => .ok [ip]
  | none =>
    if host.toList.contains (Char.ofNat 0) then .error .nulInHost
    else network.lookups.headD (network.hosts host)

/-- The text of an address stands for it. -/
theorem resolve_address {network : Network σ} {host : String} {ip : IpAddress}
    (h : IpAddress.parse host = some ip) : network.resolve host = .ok [ip] := by
  rw [resolve, h]

/-- The network after it was asked what a host stands for. -/
def resolved (network : Network σ) (host : String) : Network σ :=
  { network with
    lookups := network.lookups.drop (namesOf host).length
    lookedUp := network.lookedUp ++ namesOf host }

/-- How the attempt after `i` others ends; `none` is success. -/
def dialOutcome (network : Network σ) (i : Nat) : Option Fault :=
  network.dials.getD i network.afterDials

/-- None of the next `n` attempts succeeds. -/
def Refuses (network : Network σ) (n : Nat) : Prop :=
  ∀ i < n, network.dialOutcome i ≠ none

/-- The connection that the next attempt to succeed makes. -/
def nextLink (network : Network σ) : σ := network.links.headD network.spare

/-- How setting this option ends after `i` others were set; `none` is success. A bound of zero is
refused in any case. -/
def optionOutcome (network : Network σ) (option : SocketOption) (i : Nat) : Option Fault :=
  if option.bound? = some .zero then some .zeroTimeout else network.settings.getD i none

/-- The fault of the first of these options that cannot be set, if there is one. -/
def optionFault? (network : Network σ) (options : List SocketOption) : Option Fault :=
  options.zipIdx.findSome? fun p => network.optionOutcome p.1 p.2

/-- The network after attempts at these endpoints, none of which succeeded. -/
def passed (network : Network σ) (endpoints : List Endpoint) : Network σ :=
  { network with
    dials := network.dials.drop endpoints.length, tried := network.tried ++ endpoints }

/-- The network after attempts at these endpoints, of which the last succeeded. -/
def connected (network : Network σ) (endpoints : List Endpoint) : Network σ :=
  { network.passed endpoints with links := network.links.tail }

variable {network : Network σ} {before rest : List Endpoint}

theorem passed_passed : (network.passed before).passed rest = network.passed (before ++ rest) := by
  simp [passed, List.drop_drop]

theorem dialOutcome_passed (i : Nat) :
    (network.passed before).dialOutcome i = network.dialOutcome (before.length + i) := by
  simp [dialOutcome, passed, List.getD_eq_getElem?_getD]

theorem Refuses.passed {n : Nat} (h : network.Refuses (before.length + n)) :
    (network.passed before).Refuses n := by
  intro i hi
  rw [dialOutcome_passed]
  exact h _ (Nat.add_lt_add_left hi _)

theorem Refuses.succ {n : Nat} {fault : Fault} (h : network.Refuses n)
    (hlast : network.dialOutcome n = some fault) : network.Refuses (n + 1) := by
  intro i hi
  rcases Nat.lt_succ_iff_lt_or_eq.1 hi with hi | rfl
  · exact h i hi
  · simp [hlast]

theorem not_refuses {k n : Nat} (hk : k < n) (h : network.dialOutcome k = none) :
    ¬ network.Refuses n :=
  fun hall => hall k hk h

/-- Either none of the next attempts succeeds, or one of them is the first that does. -/
theorem refuses_or_accepts (network : Network σ) (n : Nat) :
    network.Refuses n ∨ ∃ k < n, network.Refuses k ∧ network.dialOutcome k = none := by
  induction n with
  | zero => exact .inl nofun
  | succ n ih =>
    rcases ih with hrefused | ⟨k, hk, hfirst⟩
    · cases hlast : network.dialOutcome n with
      | none => exact .inr ⟨n, Nat.lt_succ_self n, hrefused, hlast⟩
      | some fault => exact .inl (hrefused.succ hlast)
    · exact .inr ⟨k, Nat.lt_succ_of_lt hk, hfirst⟩

/-- An attempt ends as it is written down. -/
theorem dial_eq (endpoint : Endpoint) :
    network.dial endpoint =
      match network.dialOutcome 0 with
      | some fault => (.error fault, network.passed [endpoint])
      | none => (.ok network.nextLink, network.connected [endpoint]) := by
  obtain ⟨lookups, hosts, dials, afterDials, settings⟩ := network
  rcases dials with _ | ⟨_ | fault, dials⟩
  · cases afterDials <;> rfl
  · rfl
  · rfl

theorem optionFault?_cons (option : SocketOption) (options : List SocketOption) :
    network.optionFault? (option :: options) =
      (network.optionOutcome option 0).or
        ({ network with settings := network.settings.tail }.optionFault? options) := by
  have hlater : ∀ (option : SocketOption) (i : Nat), network.optionOutcome option (i + 1) =
      { network with settings := network.settings.tail }.optionOutcome option i := by
    intro option i
    simp [optionOutcome, List.getD_eq_getElem?_getD]
  unfold optionFault?
  rw [List.zipIdx_cons, List.findSome?_cons, List.zipIdx_succ, List.findSome?_map]
  simp only [Function.comp_def, hlater]
  cases network.optionOutcome option 0 <;> rfl

end Network

namespace Dialer

open Stateful

variable {σ : Type} {network : Network σ}

/-! ## The ways in which it can go -/

/-- How connecting to a host can go, told from what is written down. -/
inductive Course (network : Network σ) (host : String) (options : ConnectOptions) : Prop
  /-- The host stands for nothing. -/
  | unresolved {fault : Fault} (hhost : network.resolve host = .error fault)
  /-- It has no address. -/
  | nowhere (hhost : network.resolve host = .ok [])
  /-- None of its addresses accepts. -/
  | refused {before : List IpAddress} {ip : IpAddress} {fault : Fault}
    (hhost : network.resolve host = .ok (before ++ [ip]))
    (hrefused : network.Refuses before.length)
    (hlast : network.dialOutcome before.length = some fault)
  /-- The first that accepts gives a connection of which some option cannot be set. -/
  | unset {before : List IpAddress} {ip : IpAddress} {later : List IpAddress} {fault : Fault}
    (hhost : network.resolve host = .ok (before ++ ip :: later))
    (hrefused : network.Refuses before.length)
    (haccepted : network.dialOutcome before.length = none)
    (hoption : network.optionFault? (socketOptions options) = some fault)
  /-- All options of this connection can be set. -/
  | accepted {before : List IpAddress} {ip : IpAddress} {later : List IpAddress}
    (hhost : network.resolve host = .ok (before ++ ip :: later))
    (hrefused : network.Refuses before.length)
    (haccepted : network.dialOutcome before.length = none)
    (hoption : network.optionFault? (socketOptions options) = none)

/-- There is no other way. -/
theorem course (network : Network σ) (host : String) (options : ConnectOptions) :
    Course network host options := by
  cases hhost : network.resolve host with
  | error fault => exact .unresolved hhost
  | ok ips =>
    rcases network.refuses_or_accepts ips.length with hall | ⟨k, hk, hrefused, haccepted⟩
    · rcases List.eq_nil_or_concat ips with rfl | ⟨before, ip, rfl⟩
      · exact .nowhere hhost
      · rw [List.concat_eq_append] at hhost hall
        rw [List.length_append, List.length_singleton] at hall
        obtain ⟨fault, hlast⟩ :=
          Option.ne_none_iff_exists'.1 (hall before.length (Nat.lt_succ_self _))
        exact .refused hhost (fun i hi => hall i (Nat.lt_succ_of_lt hi)) hlast
    · -- The addresses before the first that accepts, this one, and those that are left alone.
      have hlen : (ips.take k).length = k := List.length_take_of_le (Nat.le_of_lt hk)
      have hsplit : ips.take k ++ ips[k] :: ips.drop (k + 1) = ips := by
        rw [List.getElem_cons_drop, List.take_append_drop]
      rw [← hsplit] at hhost
      cases hoption : network.optionFault? (socketOptions options) with
      | none => exact .accepted hhost (hlen.symm ▸ hrefused) (hlen.symm ▸ haccepted) hoption
      | some fault => exact .unset hhost (hlen.symm ▸ hrefused) (hlen.symm ▸ haccepted) hoption

/-- A host stands for nothing, none of its addresses accepts, or some option cannot be set of the
connection that the first one to accept gives. -/
def Fails (network : Network σ) (host : String) (options : ConnectOptions) : Prop :=
  (∃ fault, network.resolve host = .error fault) ∨
    ∃ ips, network.resolve host = .ok ips ∧
      (network.Refuses ips.length ∨ ¬ network.Refuses ips.length ∧
        ∃ fault, network.optionFault? (socketOptions options) = some fault)

/-! ## Single steps -/

/-- A host stands for what it resolves to. -/
theorem addresses_on (host : String) (network : Network σ) :
    on (addresses host : ExceptT ProtocolError (StateT (Network σ) Id) _) network =
      ((network.resolve host).mapError .ofFault, network.resolved host) := by
  have hnone : { network with lookedUp := network.lookedUp ++ [] } = network := by
    rw [List.append_nil]
  unfold addresses Network.resolve Network.resolved namesOf
  cases IpAddress.parse host with
  | some ip => exact congrArg (Prod.mk _) hnone.symm
  | none =>
    dsimp only
    split
    · exact congrArg (Prod.mk _) hnone.symm
    · rw [List.length_singleton, List.drop_one]
      rfl

/-- An option is refused for its bound, or it is set as it is written down. -/
theorem withOption_on (option : SocketOption) (link : σ) (network : Network σ) :
    on (withOption option link : ExceptT Fault (StateT (Network σ) Id) σ) network =
      ((network.optionOutcome option 0).elim (.ok link) .error,
        if option.bound? = some .zero then network
        else { network with settings := network.settings.tail }) := by
  unfold withOption Network.optionOutcome
  split
  · rfl
  · obtain ⟨lookups, hosts, dials, afterDials, settings⟩ := network
    rcases settings with _ | ⟨_ | fault, settings⟩ <;> rfl

/-- Options are set up to the first that cannot be. -/
theorem withOptions_on (options : List SocketOption) (link : σ) (network : Network σ) :
    ∃ settings, on (withOptions options link : ExceptT Fault (StateT (Network σ) Id) σ) network =
      ((network.optionFault? options).elim (.ok link) .error, { network with settings }) := by
  induction options generalizing network with
  | nil => exact ⟨network.settings, rfl⟩
  | cons option options ih =>
    rw [withOptions, Network.optionFault?_cons]
    have hoption := withOption_on option link network
    cases houtcome : network.optionOutcome option 0 with
    | some fault =>
      rw [houtcome] at hoption
      rw [on_bind_error _ hoption]
      split
      · exact ⟨network.settings, rfl⟩
      · exact ⟨network.settings.tail, rfl⟩
    | none =>
      -- An option that is set was asked for, so that the next outcome is that of the next option.
      have hbound : option.bound? ≠ some .zero := by
        rintro hzero
        rw [Network.optionOutcome, if_pos hzero] at houtcome
        cases houtcome
      rw [houtcome, if_neg hbound] at hoption
      rw [on_bind_ok _ hoption]
      exact ih _

/-- An attempt as a part of connecting. -/
theorem dial_on (endpoint : Endpoint) (bound : Duration) (network : Network σ) :
    on (ExceptT.lift fun network => Dialer.dial endpoint bound network :
      ExceptT ProtocolError (StateT (Network σ) Id) (Except Fault σ)) network =
      (.ok (network.dial endpoint).1, (network.dial endpoint).2) := rfl

variable [Link σ Id]

/-- A connection whose options are set is returned, and any other is released. -/
theorem setUp_on (options : ConnectOptions) (link : σ) (network : Network σ) :
    on (setUp options link) network =
      match on (withOptions (socketOptions options) link) network with
      | (.ok link, after) => (.ok link, after)
      | (.error fault, after) => (.error (.ofFault fault),
          { after with retired := after.retired ++ [(Link.release link : Id σ).run] }) := by
  rcases h : on (withOptions (socketOptions options) link) network with ⟨result, after⟩
  have hrun : (withOptions (socketOptions options) link).run.run network =
    (pure (result, after) : Id _) := h
  change Id.run ((withOptions (socketOptions options) link).run.run network >>= _) = _
  rw [hrun]
  cases result <;> rfl

variable {host : String} {port : UInt16} {credentials : Credentials} {options : ConnectOptions}
  {otherwise : ProtocolError} {fault : Fault}

theorem setUp_of_none (link : σ) (network : Network σ)
    (h : network.optionFault? (socketOptions options) = none) :
    ∃ settings, on (setUp options link) network = (.ok link, { network with settings }) := by
  obtain ⟨settings, hset⟩ := withOptions_on (socketOptions options) link network
  rw [h] at hset
  exact ⟨settings, by rw [setUp_on, hset]; rfl⟩

theorem setUp_of_some (link : σ) (network : Network σ)
    (h : network.optionFault? (socketOptions options) = some fault) :
    ∃ settings, on (setUp options link) network = (.error (.ofFault fault),
      { network with
        settings, retired := network.retired ++ [(Link.release link : Id σ).run] }) := by
  obtain ⟨settings, hset⟩ := withOptions_on (socketOptions options) link network
  rw [h] at hset
  exact ⟨settings, by rw [setUp_on, hset]; rfl⟩

/-! ## Going through the endpoints -/

/-- An attempt in vain is followed by the next, and its fault is remembered. -/
theorem connectFirst_of_refused (endpoint : Endpoint) (rest : List Endpoint)
    (h : network.dialOutcome 0 = some fault) :
    on (connectFirst options otherwise (endpoint :: rest)) network =
      on (connectFirst options (.ofFault fault) rest) (network.passed [endpoint]) := by
  rw [connectFirst, on_bind_ok _ (dial_on endpoint options.connectTimeout network),
    Network.dial_eq, h]

/-- An attempt that succeeds is the last, whatever becomes of the connection. -/
theorem connectFirst_of_accepted (endpoint : Endpoint) (rest : List Endpoint)
    (h : network.dialOutcome 0 = none) :
    on (connectFirst options otherwise (endpoint :: rest)) network =
      on (setUp options network.nextLink) (network.connected [endpoint]) := by
  rw [connectFirst, on_bind_ok _ (dial_on endpoint options.connectTimeout network),
    Network.dial_eq, h]

/-- As long as no attempt succeeds, the endpoints are tried one after the other. -/
theorem connectFirst_append (otherwise : ProtocolError) (before rest : List Endpoint)
    (h : network.Refuses before.length) :
    ∃ error, on (connectFirst options otherwise (before ++ rest)) network =
      on (connectFirst options error rest) (network.passed before) := by
  -- Each attempt replaces the error that is told in the end, so that it is that of the last.
  induction before generalizing otherwise network with
  | nil => exact ⟨otherwise, by simp [Network.passed]⟩
  | cons endpoint before ih =>
    obtain ⟨fault, hfault⟩ := Option.ne_none_iff_exists'.1 (h 0 (Nat.zero_lt_succ _))
    have hrest : (network.passed [endpoint]).Refuses before.length := by
      refine Network.Refuses.passed ?_
      rwa [List.length_singleton, Nat.add_comm]
    obtain ⟨error, hconnect⟩ := ih (.ofFault fault) hrest
    refine ⟨error, ?_⟩
    rw [List.cons_append, connectFirst_of_refused _ _ hfault, hconnect, Network.passed_passed]
    rfl

/-- If no attempt succeeds, all endpoints were tried, and the last fault is told. -/
theorem connectFirst_of_all_refused {before : List Endpoint} (endpoint : Endpoint)
    (hrefused : network.Refuses before.length)
    (hlast : network.dialOutcome before.length = some fault) :
    on (connectFirst options otherwise (before ++ [endpoint])) network =
      (.error (.ofFault fault), network.passed (before ++ [endpoint])) := by
  obtain ⟨error, hconnect⟩ := connectFirst_append otherwise before [endpoint] hrefused
  have hnext : (network.passed before).dialOutcome 0 = some fault := by
    rw [Network.dialOutcome_passed]
    exact hlast
  rw [hconnect, connectFirst_of_refused _ _ hnext, Network.passed_passed]
  rfl

/-- The first attempt to succeed is the last that is made. -/
theorem connectFirst_of_first_accepted {before : List Endpoint} (endpoint : Endpoint)
    (rest : List Endpoint) (hrefused : network.Refuses before.length)
    (haccepted : network.dialOutcome before.length = none) :
    on (connectFirst options otherwise (before ++ endpoint :: rest)) network =
      on (setUp options network.nextLink) (network.connected (before ++ [endpoint])) := by
  obtain ⟨error, hconnect⟩ := connectFirst_append otherwise before (endpoint :: rest) hrefused
  have hnext : (network.passed before).dialOutcome 0 = none := by
    rw [Network.dialOutcome_passed]
    exact haccepted
  rw [hconnect, connectFirst_of_accepted _ _ hnext, Network.connected, Network.passed_passed]
  rfl

/-! ## Opening sessions -/

variable (port credentials options)

/-- The addresses of a host are tried with its port. -/
theorem connect_on {ips : List IpAddress} (hhost : network.resolve host = .ok ips) :
    on (connect host port options) network =
      on (connectFirst options (.transport (.noAddress host port)) (endpoints port ips))
        (network.resolved host) := by
  have haddresses := addresses_on host network
  rw [hhost] at haddresses
  exact on_bind_ok _ haddresses

theorem openSession_of_error {error : ProtocolError} {after : Network σ}
    (h : on (connect host port options) network = (.error error, after)) :
    on (openSession host port credentials options) network =
      (.error ⟨.connect, error⟩, after) := by
  rw [openSession, on_adapt, on_bind_error _ h]
  rfl

theorem openSession_of_ok {link : σ} {after : Network σ}
    (h : on (connect host port options) network = (.ok link, after)) :
    on (openSession host port credentials options) network =
      (.ok (Session.new link credentials), after) := by
  rw [openSession, on_adapt, on_bind_ok _ h]
  rfl

/-- A host that stands for nothing: nothing is tried. -/
theorem openSession_of_unresolved (hhost : network.resolve host = .error fault) :
    on (openSession host port credentials options) network =
      (.error ⟨.connect, .ofFault fault⟩, network.resolved host) := by
  have haddresses := addresses_on host network
  rw [hhost] at haddresses
  exact openSession_of_error port credentials options (on_bind_error _ haddresses)

/-- A host without addresses: nothing is tried, either. -/
theorem openSession_of_nowhere (hhost : network.resolve host = .ok []) :
    on (openSession host port credentials options) network =
      (.error ⟨.connect, .transport (.noAddress host port)⟩, network.resolved host) :=
  openSession_of_error port credentials options (connect_on port options hhost)

variable {before later : List IpAddress} {ip : IpAddress}

/-- No address accepts: all were tried, and the last says why. -/
theorem openSession_of_refused (hhost : network.resolve host = .ok (before ++ [ip]))
    (hrefused : network.Refuses before.length)
    (hlast : network.dialOutcome before.length = some fault) :
    on (openSession host port credentials options) network =
      (.error ⟨.connect, .ofFault fault⟩,
        (network.resolved host).passed (endpoints port (before ++ [ip]))) := by
  refine openSession_of_error port credentials options ((connect_on port options hhost).trans ?_)
  rw [endpoints, List.map_append]
  exact connectFirst_of_all_refused _ (by rwa [List.length_map]) (by rwa [List.length_map])

/-- The first address that accepts gives the connection that is set up. -/
theorem connect_of_accepted (hhost : network.resolve host = .ok (before ++ ip :: later))
    (hrefused : network.Refuses before.length)
    (haccepted : network.dialOutcome before.length = none) :
    on (connect host port options) network =
      on (setUp options network.nextLink)
        ((network.resolved host).connected (endpoints port (before ++ [ip]))) := by
  refine (connect_on port options hhost).trans ?_
  rw [endpoints, endpoints, List.map_append, List.map_append]
  exact connectFirst_of_first_accepted _ _ (by rwa [List.length_map]) (by rwa [List.length_map])

/-- An option of that connection cannot be set: it is released, and nothing more is tried. -/
theorem openSession_of_unset (hhost : network.resolve host = .ok (before ++ ip :: later))
    (hrefused : network.Refuses before.length)
    (haccepted : network.dialOutcome before.length = none)
    (hoption : network.optionFault? (socketOptions options) = some fault) :
    ∃ settings, on (openSession host port credentials options) network =
      (.error ⟨.connect, .ofFault fault⟩,
        { (network.resolved host).connected (endpoints port (before ++ [ip])) with
          settings, retired := network.retired ++ [(Link.release network.nextLink : Id σ).run] }) := by
  have hconnect := connect_of_accepted port options hhost hrefused haccepted
  obtain ⟨settings, hset⟩ := setUp_of_some network.nextLink
    ((network.resolved host).connected (endpoints port (before ++ [ip]))) hoption
  exact ⟨settings, openSession_of_error port credentials options (hconnect.trans hset)⟩

/-- All options of that connection can be set: it is that of the session. -/
theorem openSession_of_accepted (hhost : network.resolve host = .ok (before ++ ip :: later))
    (hrefused : network.Refuses before.length)
    (haccepted : network.dialOutcome before.length = none)
    (hoption : network.optionFault? (socketOptions options) = none) :
    ∃ settings, on (openSession host port credentials options) network =
      (.ok (Session.new network.nextLink credentials),
        { (network.resolved host).connected (endpoints port (before ++ [ip])) with settings }) := by
  have hconnect := connect_of_accepted port options hhost hrefused haccepted
  obtain ⟨settings, hset⟩ := setUp_of_none network.nextLink
    ((network.resolved host).connected (endpoints port (before ++ [ip]))) hoption
  exact ⟨settings, openSession_of_ok port credentials options (hconnect.trans hset)⟩

/-- Opening a session fails in the cases of `Fails`, and else it gives a new session. -/
theorem openSession_result (network : Network σ) (host : String) :
    (Fails network host options ∧
      ∃ error, (on (openSession host port credentials options) network).1 =
        .error ⟨.connect, error⟩) ∨
    (¬ Fails network host options ∧
      (on (openSession host port credentials options) network).1 =
        .ok (Session.new network.nextLink credentials)) := by
  cases course network host options with
  | unresolved hhost =>
    have hopen := openSession_of_unresolved port credentials options hhost
    exact .inl ⟨.inl ⟨_, hhost⟩, _, congrArg Prod.fst hopen⟩
  | nowhere hhost =>
    have hopen := openSession_of_nowhere port credentials options hhost
    exact .inl ⟨.inr ⟨[], hhost, .inl nofun⟩, _, congrArg Prod.fst hopen⟩
  | refused hhost hrefused hlast =>
    have hopen := openSession_of_refused port credentials options hhost hrefused hlast
    refine .inl ⟨.inr ⟨_, hhost, .inl ?_⟩, _, congrArg Prod.fst hopen⟩
    rw [List.length_append, List.length_singleton]
    exact hrefused.succ hlast
  | unset hhost hrefused haccepted hoption =>
    obtain ⟨_, hopen⟩ :=
      openSession_of_unset port credentials options hhost hrefused haccepted hoption
    exact .inl ⟨.inr ⟨_, hhost, .inr ⟨Network.not_refuses (by simp) haccepted, _, hoption⟩⟩, _,
      congrArg Prod.fst hopen⟩
  | accepted hhost hrefused haccepted hoption =>
    obtain ⟨_, hopen⟩ :=
      openSession_of_accepted port credentials options hhost hrefused haccepted hoption
    refine .inr ⟨?_, congrArg Prod.fst hopen⟩
    rintro (⟨fault, h⟩ | ⟨ips, h, hcase⟩)
    · rw [hhost] at h
      cases h
    · obtain rfl := Except.ok.inj (hhost.symm.trans h)
      rcases hcase with hall | ⟨-, fault, h⟩
      · exact Network.not_refuses (by simp) haccepted hall
      · rw [hoption] at h
        cases h

/-- Opening a session leaves on record the names that are looked up for its host, and endpoints with
its port: that of the only address of the host, if there is just one. -/
theorem openSession_recorded (network : Network σ) (host : String) :
    let after := (on (openSession host port credentials options) network).2
    after.lookedUp = network.lookedUp ++ namesOf host ∧
      ∃ ips, after.tried = network.tried ++ endpoints port ips ∧
        ∀ ip, network.resolve host = .ok [ip] → ips = [ip] := by
  intro after
  have hnone : network.tried = network.tried ++ endpoints port [] := (List.append_nil _).symm
  -- An address that is the only one has no other before it.
  have hfirst {before later : List IpAddress} {first ip : IpAddress}
      (hhost : network.resolve host = .ok (before ++ first :: later))
      (honly : network.resolve host = .ok [ip]) : before ++ [first] = [ip] := by
    have hall := Except.ok.inj (hhost.symm.trans honly)
    cases before with
    | nil =>
      cases hall
      rfl
    | cons => simp at hall
  cases course network host options with
  | unresolved hhost =>
    have hopen := openSession_of_unresolved port credentials options hhost
    rw [show after = _ from congrArg Prod.snd hopen]
    exact ⟨rfl, [], hnone, fun ip honly => absurd (hhost.symm.trans honly) nofun⟩
  | nowhere hhost =>
    have hopen := openSession_of_nowhere port credentials options hhost
    rw [show after = _ from congrArg Prod.snd hopen]
    exact ⟨rfl, [], hnone, fun ip honly => Except.ok.inj (hhost.symm.trans honly)⟩
  | refused hhost hrefused hlast =>
    have hopen := openSession_of_refused port credentials options hhost hrefused hlast
    rw [show after = _ from congrArg Prod.snd hopen]
    exact ⟨rfl, _, rfl, fun ip honly => hfirst hhost honly⟩
  | unset hhost hrefused haccepted hoption =>
    obtain ⟨_, hopen⟩ :=
      openSession_of_unset port credentials options hhost hrefused haccepted hoption
    rw [show after = _ from congrArg Prod.snd hopen]
    exact ⟨rfl, _, rfl, fun ip honly => hfirst hhost honly⟩
  | accepted hhost hrefused haccepted hoption =>
    obtain ⟨_, hopen⟩ :=
      openSession_of_accepted port credentials options hhost hrefused haccepted hoption
    rw [show after = _ from congrArg Prod.snd hopen]
    exact ⟨rfl, _, rfl, fun ip honly => hfirst hhost honly⟩

end Dialer

end Net

end TelemetryLink
