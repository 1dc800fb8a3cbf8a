import Mathlib.Data.List.Forall2
import TelemetryLink.Proofs.Session.Provider

/-!
# A run step by step

A run is what its caller could do by hand: the handshake if it is still to be made, the ping if the
plan has one, then for each index the provider is asked for a record and the record is sent, and at
last the session is closed. The first step that fails is the last one that is made.

- `Step`, `Session.steps`: the steps of a run.
- `Session.run_eq_steps`: a run is its steps, whatever outside effects the provider has.
- `Step.mapM_make_ok`, `Step.mapM_make_error`: steps that all succeed, and steps of which one fails.
- `StepByStep`: how a run goes, told by its steps.
- `Session.run_stepwise`: where a run stops, whom it asked until then, and what it reports.
-/

namespace TelemetryLink

/-- A step of a run. -/
inductive Step where
  | handshake (nonce : Nonce)
  | ping
  /-- The provider is asked for the record of this index, and the record is sent. -/
  | send (index : UInt32)
  | close
  deriving DecidableEq

namespace Step

section Make

variable {σ : Type} {m : Type → Type} [Monad m] [Link σ m]

/-- The operation that is called in a step. -/
def make (provider : UInt32 → m Record) : Step → SessionM σ m Receipt
  | handshake nonce => (Call.handshake nonce).step
  | ping => Call.ping.step
  | send index => do
    let record ← Session.ofOutside (provider index)
    (Call.sendRecord record).step
  | close => Call.close.step

end Make

/-- The index that the provider is asked for in a step. -/
def index? : Step → Option UInt32
  | send index => some index
  | _ => none

/-- The indices that the provider is asked for in steps one after another. -/
def indices (steps : List Step) : List UInt32 := steps.filterMap index?

theorem indices_append (steps more : List Step) :
    indices (steps ++ more) = indices steps ++ indices more := List.filterMap_append

end Step

/-! ## The steps of a run -/

namespace Session

/-- The steps that send the records of `n` indices, of which the first is `start`. -/
def sends (start n : Nat) : List Step := (List.range' start n).map fun i => .send (.ofNat i)

/-- The steps of a run of a session in this state. -/
def steps (state : SessionState) (plan : Plan) (nonce : Nonce) : List Step :=
  (if state = .connecting then [.handshake nonce] else []) ++
    ((if plan.ping then [.ping] else []) ++ (sends 0 plan.frames.toNat ++ [.close]))

theorem sends_succ (start n : Nat) :
    sends start (n + 1) = .send (.ofNat start) :: sends (start + 1) n := by
  rw [sends, List.range'_succ]
  rfl

theorem indices_steps (state : SessionState) (plan : Plan) (nonce : Nonce) :
    Step.indices (steps state plan nonce) = (List.range plan.frames.toNat).map .ofNat := by
  have hsends : Step.indices (sends 0 plan.frames.toNat) =
      (List.range plan.frames.toNat).map .ofNat := by
    rw [Step.indices, sends, List.filterMap_map, List.range_eq_range']
    exact congrFun (@List.filterMap_eq_map _ _ UInt32.ofNat) _
  have hopening : Step.indices (if state = .connecting then [.handshake nonce] else []) = [] := by
    split <;> rfl
  have hping : Step.indices (if plan.ping then [.ping] else []) = [] := by
    split <;> rfl
  rw [steps, Step.indices_append, Step.indices_append, Step.indices_append, hsends, hopening, hping]
  exact List.append_nil _

section Refinement

variable {m : Type → Type} [Monad m] [LawfulMonad m] (provider : UInt32 → m Record)

/-- The data frames of a run are one step each. -/
theorem sendRecords_eq_sends (interval : Duration) (n start : Nat) (report : Report) :
    (sendRecords interval provider n (.ofNat start) report : SessionM Stream m Report) = (do
      let receipts ← (sends start n).mapM (Step.make provider)
      return receipts.foldl Report.add report) := by
  induction n generalizing start report with
  | zero => rw [sends, List.range'_zero, List.map_nil, List.mapM_nil, pure_bind]; rfl
  | succ n ih =>
    have hnext : UInt32.ofNat start + 1 = UInt32.ofNat (start + 1) :=
      (UInt32.ofNat_add start 1).symm
    -- The first frame is one step, and the report on the others goes on from its receipt.
    rw [sendRecords_succ, sends_succ, List.mapM_cons, hnext, Step.make]
    simp only [Call.step, ih, bind_assoc, pure_bind, List.foldl_cons, Report.add]

/-- The end of a run: the data frames, and the end of the session. -/
private theorem finish_eq_steps (plan : Plan) (report : Report) :
    (do let report ← sendRecords plan.interval provider plan.frames.toNat 0 report
        close
        return report : SessionM Stream m Report) = (do
      let receipts ← (sends 0 plan.frames.toNat ++ [Step.close]).mapM (Step.make provider)
      return receipts.foldl Report.add report) := by
  have hsends := sendRecords_eq_sends provider plan.interval plan.frames.toNat 0 report
  rw [show UInt32.ofNat 0 = 0 from rfl] at hsends
  rw [hsends, List.mapM_append, List.mapM_cons, List.mapM_nil, Step.make, Call.step]
  simp only [bind_assoc, pure_bind, List.foldl_append, List.foldl_cons, List.foldl_nil, Report.add]

/-- A run from the ping on. -/
private theorem pingAndFinish_eq_steps (plan : Plan) :
    ((if plan.ping then some <$> ping else pure none) >>= fun outcome => do
        let report ← sendRecords plan.interval provider plan.frames.toNat 0 { ping := outcome }
        close
        return report : SessionM Stream m Report) = (do
      let receipts ← ((if plan.ping then [Step.ping] else []) ++
        (sends 0 plan.frames.toNat ++ [Step.close])).mapM (Step.make provider)
      return receipts.foldl Report.add {}) := by
  cases plan.ping with
  | false =>
    rw [if_neg (by simp), if_neg (by simp), pure_bind, List.nil_append]
    exact finish_eq_steps provider plan {}
  | true =>
    rw [if_pos rfl, if_pos rfl, List.singleton_append, List.mapM_cons, Step.make, Call.step]
    simp only [finish_eq_steps, map_eq_pure_bind, bind_assoc, pure_bind, List.foldl_cons,
      Report.add]

/-- A run is its steps one after another, up to the first that fails. -/
theorem run_eq_steps (plan : Plan) (nonce : Nonce) :
    (run plan nonce provider : SessionM Stream m Report) = (do
      let session ← get
      let receipts ← (steps session.state plan nonce).mapM (Step.make provider)
      return receipts.foldl Report.add {}) := by
  rw [run_eq_prologue, prologue, bind_assoc]
  refine congrArg (bind get) (funext fun session => ?_)
  rw [steps]
  by_cases hstate : session.state = .connecting
  · rw [if_pos hstate, if_pos hstate, List.singleton_append, List.mapM_cons, Step.make, Call.step]
    simp only [bind_assoc, pure_bind, List.foldl_cons, Report.add]
    exact congrArg (bind (handshake nonce)) (funext fun _ => pingAndFinish_eq_steps provider plan)
  · rw [if_neg hstate, if_neg hstate, List.nil_append]
    exact pingAndFinish_eq_steps provider plan

end Refinement

end Session

/-! ## Steps with a state outside -/

open SessionM

namespace Provider

variable {S : Type} (provider : UInt32 → StateM S Record)

/-- The state of a provider that was asked for these indices in order. -/
def asked (indices : List UInt32) (start : S) : S :=
  indices.foldl (fun state index => ((provider index).run state).run.2) start

theorem asked_append (indices more : List UInt32) (start : S) :
    asked provider (indices ++ more) start = asked provider more (asked provider indices start) :=
  List.foldl_append

/-- To be asked for the first indices is to be asked in order. -/
theorem after_eq_asked (start : S) (n : Nat) :
    after provider start n = asked provider ((List.range n).map .ofNat) start := by
  induction n with
  | zero => rfl
  | succ n ih =>
    rw [after, ih, List.range_succ, List.map_append, asked_append]
    rfl

end Provider

variable {S : Type} {provider : UInt32 → StateM S Record} {session ended : Session Stream}
  {start finish : S}

theorem Call.among_step (call : Call) :
    Stateful.among call.step = (call.step : SessionM Stream (StateM S) Receipt) := by
  cases call with
  | handshake nonce => exact Stateful.among_bind (Session.among_handshake nonce) fun _ => rfl
  | ping => exact Stateful.among_bind Session.among_ping fun _ => rfl
  | sendRecord record => exact Stateful.among_bind (Session.among_sendRecord record) fun _ => rfl
  | close => exact Stateful.among_bind Session.among_close fun _ => rfl

namespace Step

/-- The call that is made in a step, with the record that the provider gives. -/
def call (record : UInt32 → Record) : Step → Call
  | handshake nonce => .handshake nonce
  | ping => .ping
  | send index => .sendRecord (record index)
  | close => .close

/-- A step asks the provider for its index if it has one, and makes its call. -/
theorem make_onWith (step : Step) :
    (step.make provider).onWith session start =
      ((step.call fun index => ((provider index).run start).run.1).step.on session,
        Provider.asked provider (indices [step]) start) := by
  cases step with
  | handshake nonce => rw [make, ← Call.among_step, onWith_among]; rfl
  | ping => rw [make, ← Call.among_step, onWith_among]; rfl
  | send index =>
    rw [make, onWith_bind, onWith_ofOutside]
    dsimp only
    rw [← Call.among_step, onWith_among]
    rfl
  | close => rw [make, ← Call.among_step, onWith_among]; rfl

/-- Whether it succeeds or not, a step asks for its index if it has one. -/
theorem asked_of_make {step : Step} {outcome : Except SessionError Receipt × Session Stream}
    (h : (step.make provider).onWith session start = (outcome, finish)) :
    finish = Provider.asked provider (indices [step]) start := by
  rw [make_onWith] at h
  exact (Prod.mk.inj h).2.symm

/-- What a step can return. -/
inductive Yields : Step → Receipt → Prop
  | handshake {nonce} : Yields (.handshake nonce) .done
  | ping {outcome} : Yields .ping (.ping outcome)
  | send {index code} : Yields (.send index) (.data code)
  | close : Yields .close .done

/-- A step that succeeds confirms a data frame if it asks for a record, and none otherwise. -/
theorem make_ok {step : Step} {receipt : Receipt}
    (h : (step.make provider).onWith session start = ((.ok receipt, ended), finish)) :
    step.Yields receipt ∧
      ended.framesSent = session.framesSent + .ofNat (indices [step]).length := by
  rw [make_onWith] at h
  obtain ⟨n, hreturns, hsent⟩ := Call.returns_of_ok (Prod.mk.inj h).1
  cases step with
  | handshake nonce =>
    cases hreturns
    exact ⟨.handshake, hsent⟩
  | ping =>
    cases hreturns
    exact ⟨.ping, hsent⟩
  | send index =>
    cases hreturns
    exact ⟨.send, hsent⟩
  | close =>
    cases hreturns
    exact ⟨.close, hsent⟩

/-- Steps that all succeed. -/
theorem mapM_make_ok {steps : List Step} {receipts : List Receipt}
    (h : (steps.mapM (make provider)).onWith session start = ((.ok receipts, ended), finish)) :
    List.Forall₂ Yields steps receipts ∧
      ended.framesSent = session.framesSent + .ofNat (indices steps).length ∧
      finish = Provider.asked provider (indices steps) start := by
  induction steps generalizing session start receipts with
  | nil =>
    cases h
    exact ⟨.nil, (UInt32.add_zero _).symm, rfl⟩
  | cons step steps ih =>
    rw [List.mapM_cons, onWith_bind] at h
    rcases hstep : (step.make provider).onWith session start with ⟨⟨_ | receipt, next⟩, middle⟩
    · rw [hstep] at h
      cases h
    · rw [hstep] at h
      dsimp only at h
      rw [onWith_bind] at h
      rcases hrest : (steps.mapM (make provider)).onWith next middle with ⟨⟨_ | rest, last⟩, done⟩
      · rw [hrest] at h
        cases h
      · rw [hrest] at h
        cases h
        obtain ⟨hyields, hsent⟩ := make_ok hstep
        obtain rfl := asked_of_make hstep
        obtain ⟨hall, hsents, rfl⟩ := ih hrest
        have hindices : indices (step :: steps) = indices [step] ++ indices steps :=
          indices_append [step] steps
        refine ⟨.cons hyields hall, ?_, ?_⟩
        · rw [hsents, hsent, hindices, List.length_append, UInt32.ofNat_add, UInt32.add_assoc]
        · rw [hindices, Provider.asked_append]

/-- Steps of which one fails: those before it succeed, and those behind it are not made. -/
theorem mapM_make_error {steps : List Step} {e : SessionError}
    (h : (steps.mapM (make provider)).onWith session start = ((.error e, ended), finish)) :
    ∃ before step rest receipts reached middle, steps = before ++ step :: rest ∧
      (before.mapM (make provider)).onWith session start = ((.ok receipts, reached), middle) ∧
      (step.make provider).onWith reached middle = ((.error e, ended), finish) := by
  induction steps generalizing session start with
  | nil => cases h
  | cons step steps ih =>
    rw [List.mapM_cons, onWith_bind] at h
    rcases hstep : (step.make provider).onWith session start with ⟨⟨_ | receipt, next⟩, middle⟩
    · rw [hstep] at h
      cases h
      exact ⟨[], step, steps, [], session, start, rfl, rfl, hstep⟩
    · rw [hstep] at h
      dsimp only at h
      rw [onWith_bind] at h
      rcases hrest : (steps.mapM (make provider)).onWith next middle with ⟨⟨_ | rest, last⟩, done⟩
      · rw [hrest] at h
        cases h
        obtain ⟨before, failed, behind, receipts, reached, asked, rfl, hbefore, hfailed⟩ := ih hrest
        refine ⟨step :: before, failed, behind, receipt :: receipts, reached, asked, rfl, ?_,
          hfailed⟩
        rw [List.mapM_cons, onWith_bind, hstep]
        dsimp only
        rw [onWith_bind, hbefore]
        rfl
      · rw [hrest] at h
        cases h

end Step

/-! ## What a run reports -/

namespace Session

/-- What the steps of a run return that succeeds: how the ping ended, if there was one, and the
codes of the confirmations. -/
def receipts (state : SessionState) (outcome : Option PingOutcome) (codes : List AckCode) :
    List Receipt :=
  (if state = .connecting then [.done] else []) ++
    (outcome.toList.map .ping ++ (codes.map .data ++ [.done]))

private theorem receipts_of_sends {start n : Nat} {returned : List Receipt}
    (h : List.Forall₂ Step.Yields (sends start n ++ [.close]) returned) :
    ∃ codes : List AckCode, returned = codes.map .data ++ [.done] ∧ codes.length = n := by
  induction n generalizing start returned with
  | zero =>
    obtain ⟨receipt, rest, hclose, hrest, rfl⟩ := List.forall₂_cons_left_iff.1 h
    cases hclose
    cases hrest
    exact ⟨[], rfl, rfl⟩
  | succ n ih =>
    rw [sends_succ] at h
    obtain ⟨receipt, rest, hsend, hrest, rfl⟩ := List.forall₂_cons_left_iff.1 h
    obtain ⟨codes, rfl, rfl⟩ := ih hrest
    cases hsend with
    | @send _ code => exact ⟨code :: codes, rfl, rfl⟩

/-- What the steps of a run return. -/
theorem receipts_of_steps {state : SessionState} {plan : Plan} {nonce : Nonce}
    {returned : List Receipt}
    (h : List.Forall₂ Step.Yields (steps state plan nonce) returned) :
    ∃ outcome codes, returned = receipts state outcome codes ∧ outcome.isSome = plan.ping ∧
      codes.length = plan.frames.toNat := by
  -- From the ping on, for it stands behind the handshake or at the front.
  have hping : ∀ returned, List.Forall₂ Step.Yields ((if plan.ping then [.ping] else []) ++
      (sends 0 plan.frames.toNat ++ [.close])) returned →
      ∃ (outcome : Option PingOutcome) (codes : List AckCode),
        returned = outcome.toList.map .ping ++ (codes.map .data ++ [.done]) ∧
          outcome.isSome = plan.ping ∧ codes.length = plan.frames.toNat := by
    intro returned h
    cases hflag : plan.ping with
    | false =>
      rw [hflag] at h
      obtain ⟨codes, hcodes⟩ := receipts_of_sends h
      exact ⟨none, codes, hcodes.1, rfl, hcodes.2⟩
    | true =>
      rw [hflag] at h
      obtain ⟨receipt, rest, hreceipt, hrest, rfl⟩ := List.forall₂_cons_left_iff.1 h
      obtain ⟨codes, rfl, hlength⟩ := receipts_of_sends hrest
      cases hreceipt with
      | @ping outcome => exact ⟨some outcome, codes, rfl, rfl, hlength⟩
  rw [steps] at h
  by_cases hstate : state = .connecting
  · rw [if_pos hstate] at h
    obtain ⟨receipt, rest, hreceipt, hrest, rfl⟩ := List.forall₂_cons_left_iff.1 h
    obtain ⟨outcome, codes, rfl, hboth⟩ := hping rest hrest
    cases hreceipt
    exact ⟨outcome, codes, by rw [receipts, if_pos hstate]; rfl, hboth⟩
  · rw [if_neg hstate] at h
    obtain ⟨outcome, codes, rfl, hboth⟩ := hping returned h
    exact ⟨outcome, codes, by rw [receipts, if_neg hstate]; rfl, hboth⟩

/-- The report on what the steps of a run return. -/
theorem foldl_add_receipts (state : SessionState) (outcome : Option PingOutcome)
    (codes : List AckCode) :
    (receipts state outcome codes).foldl Report.add {} =
      { framesAcknowledged := .ofNat codes.length
        ping := outcome
        unexpectedAckCodes := (codes.filter (· ≠ .data)).map AckCode.toByte } := by
  have hopening : (if state = .connecting then [Receipt.done] else []).foldl Report.add {} = {} := by
    split <;> rfl
  have hping : (outcome.toList.map Receipt.ping).foldl Report.add {} = { ping := outcome } := by
    cases outcome <;> rfl
  rw [receipts, List.foldl_append, List.foldl_append, List.foldl_append, hopening, hping,
    Report.foldl_add_codes, UInt32.zero_add]
  rfl

/-! ## A run with a provider -/

/-- How a run of a session goes whose provider is in this state at first. -/
structure StepByStep (plan : Plan) (nonce : Nonce) (provider : UInt32 → StateM S Record) (start : S)
    (session : Session Stream) : Prop where
  /-- A run fails by one of its steps, after those before it succeeded. No other step is made, and
  the provider was asked in order, once for each record that was to be sent until then. -/
  failed : ∀ {e ended finish},
    (run plan nonce provider).onWith session start = ((.error e, ended), finish) →
    ∃ before step rest returned reached middle,
      steps session.state plan nonce = before ++ step :: rest ∧
      (before.mapM (Step.make provider)).onWith session start =
        ((.ok returned, reached), middle) ∧
      (step.make provider).onWith reached middle = ((.error e, ended), finish) ∧
      finish = Provider.after provider start (Step.indices (before ++ [step])).length
  /-- A run that succeeds made all its steps, asked the provider for all records of the plan, and
  reports what the steps returned. The session counted as many frames. -/
  completed : ∀ {report ended finish},
    (run plan nonce provider).onWith session start = ((.ok report, ended), finish) →
    ∃ outcome codes,
      ((steps session.state plan nonce).mapM (Step.make provider)).onWith session start =
        ((.ok (receipts session.state outcome codes), ended), finish) ∧
      finish = Provider.after provider start plan.frames.toNat ∧
      outcome.isSome = plan.ping ∧ codes.length = plan.frames.toNat ∧
      report =
        { framesAcknowledged := plan.frames
          ping := outcome
          unexpectedAckCodes := (codes.filter (· ≠ .data)).map AckCode.toByte } ∧
      ended.framesSent.toNat = session.framesSent.toNat + plan.frames.toNat

variable {plan : Plan} {nonce : Nonce}

/-- With a state outside, a run is its steps. -/
theorem run_onWith_steps :
    (run plan nonce provider).onWith session start =
      match ((steps session.state plan nonce).mapM (Step.make provider)).onWith session start with
      | ((.ok returned, ended), finish) =>
        ((.ok (returned.foldl Report.add {}), ended), finish)
      | ((.error e, ended), finish) => ((.error e, ended), finish) := by
  have hget : (get : SessionM Stream (StateM S) (Session Stream)).onWith session start =
      ((.ok session, session), start) := rfl
  rw [run_eq_steps, onWith_bind, hget]
  dsimp only
  rw [onWith_bind]
  rcases ((steps session.state plan nonce).mapM (Step.make provider)).onWith session start with
    ⟨⟨_ | returned, ended⟩, finish⟩
  · rfl
  · rfl

/-- The indices that the first steps of a run ask for are the first ones. -/
theorem asked_of_prefix {before : List Step} (h : before <+: steps session.state plan nonce) :
    Provider.asked provider (Step.indices before) start =
      Provider.after provider start (Step.indices before).length := by
  have hprefix : Step.indices before <+: (List.range plan.frames.toNat).map .ofNat := by
    rw [← indices_steps session.state plan nonce]
    exact h.filterMap _
  have hlength : (Step.indices before).length ≤ plan.frames.toNat := by
    simpa using hprefix.length_le
  rw [Provider.after_eq_asked]
  congr 1
  rw [List.prefix_iff_eq_take.1 hprefix, List.length_take, ← List.map_take, List.take_range]
  simp [hlength]

/-- A run has the same effects and the same outcome as its steps made by hand, one after another up
to the first that fails: whatever outside effects the provider has, it is asked for a record where
the step that sends this record is made. -/
theorem run_stepwise (plan : Plan) (nonce : Nonce) :
    (∀ {m : Type → Type} [Monad m] [LawfulMonad m] (provider : UInt32 → m Record),
      (run plan nonce provider : SessionM Stream m Report) = (do
        let session ← get
        let returned ← (steps session.state plan nonce).mapM (Step.make provider)
        return returned.foldl Report.add {})) ∧
    ∀ {S : Type} (provider : UInt32 → StateM S Record) (start : S) (session : Session Stream),
      session.framesSent.toNat + plan.frames.toNat < UInt32.size →
      StepByStep plan nonce provider start session := by
  refine ⟨fun provider => run_eq_steps provider plan nonce, fun provider start session hfit => ?_⟩
  refine { failed := fun h => ?_, completed := fun h => ?_ }
  · rw [run_onWith_steps] at h
    rcases hsteps : ((steps session.state plan nonce).mapM (Step.make provider)).onWith session
      start with ⟨⟨_ | returned, ended⟩, finish⟩
    · rw [hsteps] at h
      cases h
      obtain ⟨before, step, rest, returned, reached, middle, hsplit, hbefore, hstep⟩ :=
        Step.mapM_make_error hsteps
      obtain ⟨-, -, rfl⟩ := Step.mapM_make_ok hbefore
      -- The steps that were made are the first ones, and so are the indices that they ask for.
      have hmade : before ++ [step] <+: steps session.state plan nonce :=
        ⟨rest, by rw [hsplit, List.append_assoc, List.singleton_append]⟩
      refine ⟨before, step, rest, returned, reached, _, hsplit, hbefore, hstep, ?_⟩
      rw [Step.asked_of_make hstep, ← Provider.asked_append, ← Step.indices_append]
      exact asked_of_prefix hmade
    · rw [hsteps] at h
      cases h
  · rw [run_onWith_steps] at h
    rcases hsteps : ((steps session.state plan nonce).mapM (Step.make provider)).onWith session
      start with ⟨⟨_ | returned, ended⟩, finish⟩
    · rw [hsteps] at h
      cases h
    · rw [hsteps] at h
      cases h
      obtain ⟨hyields, hsent, hasked⟩ := Step.mapM_make_ok hsteps
      obtain ⟨outcome, codes, rfl, houtcome, hcodes⟩ := receipts_of_steps hyields
      have hindices : (Step.indices (steps session.state plan nonce)).length =
          plan.frames.toNat := by
        rw [indices_steps, List.length_map, List.length_range]
      refine ⟨outcome, codes, rfl, ?_, houtcome, hcodes, ?_, ?_⟩
      · rw [hasked, asked_of_prefix List.prefix_rfl, hindices]
      · rw [foldl_add_receipts, hcodes, UInt32.ofNat_toNat]
      · rw [hsent, hindices, UInt32.ofNat_toNat, UInt32.toNat_add, Nat.mod_eq_of_lt hfit]

/-- A session that already sent three frames sends two more, with a provider that keeps what it is
asked. The first of them is confirmed under a code that names no data. -/
theorem run_stepwise_two_more :
    let device : DeviceId := ⟨⟨[1, 2, 3, 4, 5, 6], rfl⟩⟩
    let nonce : Nonce := ⟨[0, 0, 0, 0, 0, 0, 0, 1], rfl⟩
    let provider : UInt32 → StateM (List UInt32) Record := fun i asked =>
      pure (⟨5, 0, 0, 0, 0, 0, 0, 0, 0, i.toUInt16, device⟩, asked ++ [i])
    let plan : Plan := { frames := 2 }
    let session : Session Stream :=
      { link := { reads := [.chunk [0x03, 0x05, 0x03, 0x01]] }
        state := .idle
        credentials := { key := ⟨[107], by decide⟩, deviceId := device }
        framesSent := 3 }
    session.framesSent.toNat + plan.frames.toNat < UInt32.size ∧
      LawfulMonad (StateM (List UInt32)) ∧
      ((run plan nonce provider).onWith session []).1.1.toOption = some ⟨2, none, [0x05]⟩ ∧
      ((run plan nonce provider).onWith session []).1.2.framesSent = 5 ∧
      ((run plan nonce provider).onWith session []).2 = [0, 1] ∧
      (run plan nonce provider : SessionM Stream (StateM (List UInt32)) Report) = (do
        let session ← get
        let returned ← (steps session.state plan nonce).mapM (Step.make provider)
        return returned.foldl Report.add {}) ∧
      StepByStep plan nonce provider [] session := by
  intro device nonce provider plan session
  have hfit : session.framesSent.toNat + plan.frames.toNat < UInt32.size := by decide +kernel
  exact ⟨hfit, inferInstance, by decide +kernel, by decide +kernel, by decide +kernel,
    (run_stepwise plan nonce).1 provider, (run_stepwise plan nonce).2 provider [] session hfit⟩

end Session

end TelemetryLink
