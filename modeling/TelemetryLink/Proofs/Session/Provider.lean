import TelemetryLink.Proofs.Session.Script

/-!
# Providers of records

A run asks a provider for each record just before it is sent. A provider may have a state of its
own, in which it finds what it answers and keeps what it was asked; nothing else of a session knows
about that state. So a run with such a provider is the run with the records that it gives when it is
asked for the first indices in order, and it asks for no others.

- `Stateful.among` commutes with every operation of a session.
- `Provider.record`, `Provider.after`: what a provider gives and what becomes of it when it is asked
  in order.
- `Session.run_onWith`: a run asks in order, and is the run with these records.
-/

namespace TelemetryLink

variable {S α β : Type}

open Stateful (among among_bind among_get)

/-! ## Operations leave the provider alone -/

namespace Exchange

theorem among_handshake (message : Handshake) :
    among (handshake message) = (handshake message : Exchange Stream (StateM S) Verdict) := by
  apply among_bind rfl
  intro _
  apply among_bind rfl
  intro _
  exact among_bind rfl fun _ => rfl

theorem among_request (type : FrameType) (payload : Bytes) :
    among (request type payload) = (request type payload : Exchange Stream (StateM S) Reply) := by
  have hwrite : among (writeFrame type payload) =
      (writeFrame type payload : Exchange Stream (StateM S) Unit) := by
    apply among_bind rfl
    intro bytes
    exact among_bind rfl fun _ => rfl
  apply among_bind hwrite
  intro _
  exact among_bind rfl fun _ => rfl

end Exchange

namespace Session

theorem among_close : among close = (close : SessionM Stream (StateM S) Unit) := by
  refine ExceptT.ext (StateT.ext fun session => ?_)
  -- Whether the stream is released is the only thing that is decided here.
  obtain ⟨link, held, state, credentials, pinged, framesSent⟩ := session
  cases held
  · rfl
  · rfl

theorem among_fail (stage : Stage) (error : ProtocolError) :
    among (fail stage error) = (fail stage error : SessionM Stream (StateM S) α) := by
  apply among_bind among_close
  intro _
  rfl

theorem among_expect (expected : SessionState) (stage : Stage) :
    among (expect expected stage) = (expect expected stage : SessionM Stream (StateM S) Unit) := by
  apply among_bind among_get
  intro session
  dsimp only
  split
  · rfl
  · exact among_fail _ _

theorem among_exchange {stage : Stage} {step : Exchange Stream Id α}
    {step' : Exchange Stream (StateM S) α} (h : among step = step') :
    among (exchange stage step) = (exchange stage step' : SessionM Stream (StateM S) α) := by
  subst h
  apply among_bind among_get
  intro session
  dsimp only
  split
  · apply among_bind rfl
    intro outcome
    apply among_bind rfl
    intro _
    cases outcome.1 with
    | error error => exact among_fail stage error
    | ok value => rfl
  · exact among_fail _ _

theorem among_handshake (nonce : Nonce) :
    among (handshake nonce) = (handshake nonce : SessionM Stream (StateM S) Unit) := by
  apply among_bind (among_expect _ _)
  intro _
  apply among_bind among_get
  intro session
  apply among_bind rfl
  intro _
  apply among_bind (among_exchange (Exchange.among_handshake _))
  intro verdict
  cases verdict with
  | accepted => rfl
  | rejected reason => exact among_fail _ _

/-- A failure under a condition, and what follows where it does not hold. -/
private theorem among_guard {condition : Prop} [Decidable condition] {stage : Stage}
    {error : ProtocolError} {rest : SessionM Stream Id α}
    {rest' : SessionM Stream (StateM S) α} (h : among rest = rest') :
    among (if condition then (do let _ : PUnit ← fail stage error; rest) else rest) =
      if condition then (do let _ : PUnit ← fail stage error; rest') else rest' := by
  split
  · exact among_bind (among_fail _ _) fun _ => h
  · exact h

theorem among_ping : among ping = (ping : SessionM Stream (StateM S) PingOutcome) := by
  apply among_bind (among_expect _ _)
  intro _
  apply among_bind among_get
  intro session
  -- What follows the test for a second ping stands behind both of its branches.
  apply among_guard
  apply among_bind rfl
  intro _
  apply among_bind (among_exchange (Exchange.among_request _ _))
  intro reply
  apply among_bind rfl
  intro _
  apply among_bind rfl
  intro _
  split
  · rfl
  · rfl

theorem among_sendRecord (record : Record) :
    among (sendRecord record) = (sendRecord record : SessionM Stream (StateM S) AckCode) := by
  apply among_bind among_get
  intro session
  apply among_bind (among_expect _ _)
  intro _
  apply among_bind rfl
  intro _
  apply among_bind (among_exchange (Exchange.among_request _ _))
  intro reply
  cases reply with
  | ack code => rfl
  | serverError code => exact among_fail _ _
  | malformed marker code => exact among_fail _ _

/-- The part of a run before the first record. -/
def prologue {σ : Type} {m : Type → Type} [Monad m] [Link σ m] (plan : Plan) (nonce : Nonce) :
    SessionM σ m (Option PingOutcome) := do
  if (← get).state = .connecting then
    handshake nonce
  if plan.ping then some <$> ping else pure none

theorem among_prologue (plan : Plan) (nonce : Nonce) :
    among (prologue plan nonce) =
      (prologue plan nonce : SessionM Stream (StateM S) (Option PingOutcome)) := by
  have hping : among (if plan.ping then some <$> ping else pure none) =
      (if plan.ping then some <$> ping else pure none :
        SessionM Stream (StateM S) (Option PingOutcome)) := by
    split
    · rw [map_eq_pure_bind, map_eq_pure_bind]
      exact among_bind among_ping fun _ => rfl
    · rfl
  apply among_bind among_get
  intro session
  dsimp only
  split
  · exact among_bind (among_handshake nonce) fun _ => hping
  · exact hping

end Session

/-! ## Computations with a state outside -/

namespace SessionM

/-- The result of a computation, the session after it, and the state outside after it. -/
def onWith (step : SessionM Stream (StateM S) α) (session : Session Stream) (outside : S) :
    (Except SessionError α × Session Stream) × S :=
  ((step.run.run session).run outside).run

theorem onWith_bind (step : SessionM Stream (StateM S) α)
    (next : α → SessionM Stream (StateM S) β) (session : Session Stream) (outside : S) :
    (step >>= next).onWith session outside = match step.onWith session outside with
      | ((.ok a, session), outside) => (next a).onWith session outside
      | ((.error e, session), outside) => ((.error e, session), outside) := by
  change (step.onWith session outside |> fun p =>
    (((ExceptT.bindCont next p.1.1).run p.1.2).run p.2).run) = _
  rcases step.onWith session outside with ⟨⟨_ | a, session⟩, outside⟩
  · rfl
  · rfl

theorem onWith_among (step : SessionM Stream Id α) (session : Session Stream) (outside : S) :
    onWith (among step) session outside = (step.on session, outside) := rfl

theorem onWith_ofOutside (operation : StateM S α) (session : Session Stream) (outside : S) :
    (Session.ofOutside operation : SessionM Stream (StateM S) α).onWith session outside =
      ((.ok (operation.run outside).run.1, session), (operation.run outside).run.2) := rfl

end SessionM

/-! ## Asking in order -/

namespace Provider

variable (provider : UInt32 → StateM S Record) (start : S)

/-- The state of a provider that was asked for the first `n` indices in order. -/
def after : Nat → S
  | 0 => start
  | n + 1 => ((provider (.ofNat n)).run (after n)).run.2

/-- The record that a provider gives for an index when it is asked for all of them in order. -/
def record (index : UInt32) : Record :=
  ((provider index).run (after provider start index.toNat)).run.1

theorem run_provider {n : Nat} (h : n < UInt32.size) :
    (provider (.ofNat n)).run (after provider start n) =
      pure (record provider start (.ofNat n), after provider start (n + 1)) := by
  rw [record, UInt32.toNat_ofNat_of_lt' h]
  rfl

/-- The provider is asked once for each of the first indices. -/
theorem mapM_provider {n : Nat} (h : n ≤ UInt32.size) :
    ((List.range n).mapM fun i => provider (.ofNat i)).run start =
      pure ((List.range n).map fun i => record provider start (.ofNat i),
        after provider start n) := by
  induction n with
  | zero => rfl
  | succ n ih =>
    rw [List.range_succ, List.mapM_append, List.map_append, StateT.run_bind, ih (by omega),
      pure_bind]
    simp only [List.mapM_cons, List.mapM_nil, StateT.run_bind, StateT.run_pure, pure_bind,
      run_provider provider start h, List.map_cons, List.map_nil]

end Provider

namespace Session

open SessionM

/-- On a scripted stream the pause between two records does nothing. -/
theorem sendRecords_succ {m : Type → Type} [Monad m] [LawfulMonad m] (interval : Duration)
    (record : UInt32 → m Record) (n : Nat) (index : UInt32) (report : Report) :
    (sendRecords interval record (n + 1) index report : SessionM Stream m Report) =
      (do
        let code ← sendRecord (← ofOutside (record index))
        sendRecords interval record n (index + 1) (report.confirm code)) := by
  have hpause : ∀ rest : SessionM Stream m Report,
      (do ofOutside (Link.pause Stream interval); rest) = rest := by
    intro rest
    refine ExceptT.ext (StateT.ext fun session => ?_)
    simp [ofOutside, Link.pause]
  rw [sendRecords]
  refine congrArg (bind (ofOutside (record index))) (funext fun r => ?_)
  refine congrArg (bind (sendRecord r)) (funext fun code => ?_)
  dsimp only
  split
  · exact hpause _
  · rfl

theorem run_eq_prologue {m : Type → Type} [Monad m] [LawfulMonad m] (plan : Plan) (nonce : Nonce)
    (record : UInt32 → m Record) :
    (run plan nonce record : SessionM Stream m Report) =
      (do
        let outcome ← prologue plan nonce
        let report ← sendRecords plan.interval record plan.frames.toNat 0 { ping := outcome }
        close
        return report) := by
  rw [run, prologue, bind_assoc]
  refine congrArg (bind get) (funext fun session => ?_)
  dsimp only
  -- What follows the ping stands behind both branches of a run.
  cases plan.ping with
  | false =>
    split
    · rw [bind_assoc]
      rfl
    · rfl
  | true =>
    split
    · rw [bind_assoc]
      rfl
    · rfl

variable (provider : UInt32 → StateM S Record) (start : S)

/-- The data frames of a run ask for their records in order. They ask for all of them if they
succeed. -/
theorem sendRecords_onWith (interval : Duration) (n k : Nat) (hk : k + n ≤ UInt32.size)
    (report : Report) (session : Session Stream) :
    let outcome := (sendRecords interval (fun i => pure (Provider.record provider start i)) n
      (.ofNat k) report : SessionM Stream Id Report).on session
    ∃ asked ≤ n,
      (sendRecords interval provider n (.ofNat k) report).onWith session
          (Provider.after provider start k) =
        (outcome, Provider.after provider start (k + asked)) ∧
      ∀ report' ended, outcome = (.ok report', ended) → asked = n := by
  -- By induction on the frames that are left: with each the provider moves on by one index.
  induction n generalizing k report session with
  | zero => exact ⟨0, Nat.le_refl 0, rfl, fun _ _ _ => rfl⟩
  | succ n ih =>
    have hrecord := Provider.run_provider provider start (show k < UInt32.size by omega)
    have hnext : UInt32.ofNat k + 1 = UInt32.ofNat (k + 1) := (UInt32.ofNat_add k 1).symm
    rw [sendRecords_succ, sendRecords_succ, onWith_bind, onWith_ofOutside, hrecord, on_bind,
      on_ofOutside]
    dsimp only [Id.run_pure]
    rw [onWith_bind, on_bind, ← among_sendRecord, onWith_among]
    rcases (sendRecord (Provider.record provider start (.ofNat k)) :
      SessionM Stream Id AckCode).on session with ⟨e | code, next⟩
    · -- The record that was asked for is the last one.
      exact ⟨1, by omega, rfl, nofun⟩
    · obtain ⟨asked, hasked, hrest, hall⟩ := ih (k + 1) (by omega) (report.confirm code) next
      dsimp only
      rw [hnext]
      refine ⟨asked + 1, by omega, ?_, fun report' ended h => ?_⟩
      · rw [hrest, Nat.add_right_comm, Nat.add_assoc]
      · rw [hall report' ended h]

/-- A run asks for its records in order, and is the run with the records that it is given. It asks
for all of them if it succeeds. -/
theorem run_onWith (plan : Plan) (nonce : Nonce) (session : Session Stream) :
    let outcome := (run plan nonce (fun i => pure (Provider.record provider start i)) :
      SessionM Stream Id Report).on session
    ∃ asked ≤ plan.frames.toNat,
      (run plan nonce provider).onWith session start =
        (outcome, Provider.after provider start asked) ∧
      ∀ report ended, outcome = (.ok report, ended) → asked = plan.frames.toNat := by
  rw [run_eq_prologue, run_eq_prologue, onWith_bind, on_bind, ← among_prologue, onWith_among]
  rcases (prologue plan nonce : SessionM Stream Id (Option PingOutcome)).on session with
    ⟨e | outcome, next⟩
  · -- The run ended before it asked for a record.
    exact ⟨0, Nat.zero_le _, rfl, nofun⟩
  · have hfit : 0 + plan.frames.toNat ≤ UInt32.size := by
      have := plan.frames.toNat_lt
      rw [UInt32.size]
      omega
    obtain ⟨asked, hasked, hsend, hall⟩ := sendRecords_onWith provider start plan.interval
      plan.frames.toNat 0 hfit { ping := outcome } next
    refine ⟨asked, hasked, ?_⟩
    rw [show UInt32.ofNat 0 = 0 from rfl, Provider.after, Nat.zero_add] at hsend
    rw [show UInt32.ofNat 0 = 0 from rfl] at hall
    dsimp only
    rw [onWith_bind, on_bind, hsend]
    rcases hsent : (sendRecords plan.interval (fun i => pure (Provider.record provider start i))
      plan.frames.toNat 0 { ping := outcome } : SessionM Stream Id Report).on next with
      ⟨e | report, last⟩
    · exact ⟨rfl, nofun⟩
    · dsimp only
      rw [onWith_bind, on_bind, ← among_close, onWith_among, close_on]
      exact ⟨rfl, fun _ _ _ => hall _ _ hsent⟩

end Session

end TelemetryLink
