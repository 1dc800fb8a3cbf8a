import TelemetryLink.Stream

/-!
# Complete writes, write by write

A complete write is a loop of single writes, each of which may take any part of what it is offered,
be interrupted, take nothing, or fail. `Stream.WriteLoop` is that loop, as a relation between what
is to be written, the script, the single writes, and the fault that ends them, if one does.

- `outlet_loop`: the complete write of a scripted stream is such a loop.
- `WriteLoop.exists_from`: from any of its writes on, a loop is one that writes what is left.
- `WriteLoop.offers`, `WriteLoop.retries`, `WriteLoop.nothing`: each write is offered what those
  before it have left, an interrupted one is made again, and one that takes nothing ends the loop.
- `WriteLoop.taken_prefix`, `WriteLoop.taken_eq_iff`: what is taken is a prefix, and all of it
  exactly if no write has failed.
- `flush_outcome`: a flush is made once.
-/

namespace TelemetryLink

namespace Stream

/-! ## Single writes -/

/-- One write: the octets offered, and those that were taken, or why it failed. -/
structure SingleWrite where
  offered : Bytes
  outcome : Except Fault Bytes

namespace SingleWrite

/-- How a write of these octets ends on a stream that follows the script. Past its end a script
takes everything. -/
def first (offered : Bytes) (script : List WriteStep) : SingleWrite where
  offered
  outcome := match script with
    | [] => .ok offered
    | .take limit :: _ => .ok (offered.take limit)
    | .fault fault :: _ => .error fault

/-- The octets that a write took. -/
def taken (write : SingleWrite) : Bytes :=
  match write.outcome with
  | .ok taken => taken
  | .error _ => []

/-- The fault after which no more is written: any but an interruption, and that of a write that took
nothing. -/
def fault? (write : SingleWrite) : Option Fault :=
  match write.outcome with
  | .ok [] => some .nothingWritten
  | .ok (_ :: _) => none
  | .error fault => if fault.kind = .interrupted then none else some fault

/-- With such a fault nothing was taken. -/
theorem taken_of_fault? {write : SingleWrite} {fault : Fault} (h : write.fault? = some fault) :
    write.taken = [] := by
  obtain ⟨offered, outcome⟩ := write
  match outcome, h with
  | .ok [], _ => rfl
  | .error _, _ => rfl

/-- A write takes octets off the front of what it is offered. -/
theorem taken_first_prefix (offered : Bytes) (script : List WriteStep) :
    (first offered script).taken <+: offered := by
  match script with
  | [] => exact List.prefix_rfl
  | .take limit :: _ => exact List.take_prefix limit offered
  | .fault fault :: _ => exact List.nil_prefix

/-- A write that took anything went well. -/
theorem fault?_of_taken {offered taken : Bytes} (h : taken ≠ []) :
    (⟨offered, .ok taken⟩ : SingleWrite).fault? = none := by
  obtain ⟨byte, others, rfl⟩ := List.exists_cons_of_ne_nil h
  rfl

end SingleWrite

open SingleWrite (first)

/-! ## The loop -/

/-- The single writes that a complete write makes, and the fault that ends it, if one does: while
something is left, it is offered to the stream; a fault ends the writing, and after anything else
the writing goes on with what was not taken. -/
inductive WriteLoop : Bytes → List WriteStep → List SingleWrite → Option Fault → Prop
  /-- Nothing is left. -/
  | done (script : List WriteStep) : WriteLoop [] script [] none
  /-- A write has failed for good. -/
  | failed {bytes script fault} (hne : bytes ≠ [])
    (hfault : (first bytes script).fault? = some fault) :
    WriteLoop bytes script [first bytes script] (some fault)
  /-- A write has taken something, or was interrupted. -/
  | next {bytes left script calls fault?} (hne : bytes ≠ [])
    (hfault : (first bytes script).fault? = none)
    (hleft : (first bytes script).taken ++ left = bytes)
    (hrest : WriteLoop left script.tail calls fault?) :
    WriteLoop bytes script (first bytes script :: calls) fault?

/-- A complete write of a scripted stream is such a loop. -/
theorem outlet_loop (bytes taken : Bytes) (writes : List WriteStep) :
    ∃ calls fault?, WriteLoop bytes writes calls fault? ∧
      (outlet bytes taken writes).taken = taken ++ calls.flatMap SingleWrite.taken ∧
      (outlet bytes taken writes).rest = writes.drop calls.length ∧
      (outlet bytes taken writes).result = match fault? with
        | none => .ok ()
        | some fault => .error fault := by
  fun_induction outlet bytes taken writes with
  | case1 writes taken => exact ⟨[], none, .done writes, by simp, rfl, rfl⟩
  | case2 bytes taken hne =>
    have hfault : (first bytes []).fault? = none := SingleWrite.fault?_of_taken hne
    refine ⟨[first bytes []], none, .next hne hfault (List.append_nil bytes) (.done []), ?_, rfl,
      rfl⟩
    simp [first, SingleWrite.taken]
  | case3 bytes taken hne rest =>
    refine ⟨[first bytes (.take 0 :: rest)], some .nothingWritten, .failed hne rfl, ?_, rfl, rfl⟩
    simp [first, SingleWrite.taken]
  | case4 bytes taken hne limit rest hlimit ih =>
    obtain ⟨calls, fault?, hloop, htaken, hrest, hresult⟩ := ih
    -- Something is offered and something is allowed, so that something is taken.
    have hsome : bytes.take limit ≠ [] := by
      rw [Ne, List.take_eq_nil_iff, not_or]
      exact ⟨hlimit, hne⟩
    have hfault : (first bytes (.take limit :: rest)).fault? = none :=
      SingleWrite.fault?_of_taken hsome
    refine ⟨first bytes (.take limit :: rest) :: calls, fault?,
      .next hne hfault (List.take_append_drop limit bytes) hloop, ?_, hrest, hresult⟩
    rw [htaken, List.append_assoc]
    rfl
  | case5 bytes taken hne fault rest hint ih =>
    obtain ⟨calls, fault?, hloop, htaken, hrest, hresult⟩ := ih
    have hfault : (first bytes (.fault fault :: rest)).fault? = none := if_pos hint
    exact ⟨first bytes (.fault fault :: rest) :: calls, fault?,
      .next hne hfault (List.nil_append bytes) hloop, htaken, hrest, hresult⟩
  | case6 bytes taken hne fault rest hint =>
    have hfault : (first bytes (.fault fault :: rest)).fault? = some fault := if_neg hint
    refine ⟨[first bytes (.fault fault :: rest)], some fault, .failed hne hfault, ?_, rfl, rfl⟩
    simp [first, SingleWrite.taken]

namespace WriteLoop

variable {bytes : Bytes} {script : List WriteStep} {calls : List SingleWrite}
  {fault? : Option Fault}

/-- What is taken is a prefix of what was to be written. -/
theorem taken_prefix (h : WriteLoop bytes script calls fault?) :
    calls.flatMap SingleWrite.taken <+: bytes := by
  induction h with
  | done script => exact List.prefix_rfl
  | failed hne hfault =>
    simp only [List.flatMap_cons, List.flatMap_nil, List.append_nil]
    exact SingleWrite.taken_first_prefix _ _
  | @next bytes left script calls fault? hne hfault hleft hrest ih =>
    have hpre := (List.prefix_append_right_inj (first bytes script).taken).2 ih
    rwa [hleft] at hpre

/-- Everything is taken exactly if no write has failed. -/
theorem taken_eq_iff (h : WriteLoop bytes script calls fault?) :
    calls.flatMap SingleWrite.taken = bytes ↔ fault? = none := by
  induction h with
  | done script => simp
  | failed hne hfault =>
    -- The write that failed took nothing, and there was something to take.
    simp [SingleWrite.taken_of_fault? hfault, Ne.symm hne]
  | @next bytes left script calls fault? hne hfault hleft hrest ih =>
    have hcancel : (first bytes script).taken ++ calls.flatMap SingleWrite.taken =
        (first bytes script).taken ++ left ↔ calls.flatMap SingleWrite.taken = left :=
      List.append_right_inj _
    rw [hleft] at hcancel
    rw [List.flatMap_cons, hcancel, ih]

/-- From each of its writes on, a loop is a loop that writes what is left there. -/
theorem exists_from (h : WriteLoop bytes script calls fault?) {before after : List SingleWrite}
    {call : SingleWrite} (hcalls : calls = before ++ call :: after) :
    ∃ left, before.flatMap SingleWrite.taken ++ left = bytes ∧
      WriteLoop left (script.drop before.length) (call :: after) fault? := by
  induction before generalizing bytes script calls with
  | nil =>
    obtain rfl : calls = call :: after := hcalls
    exact ⟨bytes, rfl, h⟩
  | cons write before ih =>
    rw [List.cons_append] at hcalls
    cases h with
    | done script => cases hcalls
    | failed hne hfault =>
      -- The write that fails is the last one.
      obtain ⟨-, hnil⟩ := List.cons.inj hcalls
      simp at hnil
    | next hne hfault hleft hrest =>
      obtain ⟨rfl, hothers⟩ := List.cons.inj hcalls
      obtain ⟨left, hbytes, hloop⟩ := ih hrest hothers
      rw [List.drop_tail] at hloop
      refine ⟨left, ?_, hloop⟩
      rw [List.flatMap_cons, List.append_assoc, hbytes, hleft]

/-- The first write of a loop is offered everything, which is something. -/
theorem first_call {call : SingleWrite} (h : WriteLoop bytes script (call :: calls) fault?) :
    bytes ≠ [] ∧ call = first bytes script := by
  cases h with
  | failed hne hfault => exact ⟨hne, rfl⟩
  | next hne hfault hleft hrest => exact ⟨hne, rfl⟩

/-- Each write is offered all that those before it have left, which is something. -/
theorem offers (h : WriteLoop bytes script calls fault?) {before after : List SingleWrite}
    {call : SingleWrite} (hcalls : calls = before ++ call :: after) :
    before.flatMap SingleWrite.taken ++ call.offered = bytes ∧ call.offered ≠ [] := by
  obtain ⟨left, hbytes, hloop⟩ := h.exists_from hcalls
  obtain ⟨hne, rfl⟩ := hloop.first_call
  exact ⟨hbytes, hne⟩

/-- The writes are answered by the script, one after another. -/
theorem answers (h : WriteLoop bytes script calls fault?) {before after : List SingleWrite}
    {call : SingleWrite} (hcalls : calls = before ++ call :: after) :
    call = first call.offered (script.drop before.length) := by
  obtain ⟨left, -, hloop⟩ := h.exists_from hcalls
  obtain ⟨-, rfl⟩ := hloop.first_call
  rfl

/-- The loop ends with the write that fails, and with its fault. -/
theorem stops (h : WriteLoop bytes script calls fault?) {before after : List SingleWrite}
    {call : SingleWrite} (hcalls : calls = before ++ call :: after) {fault : Fault}
    (hcall : call.fault? = some fault) : after = [] ∧ fault? = some fault := by
  obtain ⟨left, -, hloop⟩ := h.exists_from hcalls
  cases hloop with
  | failed hne hfault =>
    rw [hfault] at hcall
    exact ⟨rfl, hcall⟩
  | next hne hfault hleft hrest =>
    rw [hfault] at hcall
    cases hcall

/-- An interrupted write is made again: the next one is offered the same octets. -/
theorem retries (h : WriteLoop bytes script calls fault?) {before after : List SingleWrite}
    {call : SingleWrite} (hcalls : calls = before ++ call :: after) {fault : Fault}
    (hcall : call.outcome = .error fault) (hint : fault.kind = .interrupted) :
    ∃ again later, after = again :: later ∧ again.offered = call.offered := by
  have htaken : call.taken = [] := by rw [SingleWrite.taken, hcall]
  have hgoes : call.fault? = none := by
    rw [SingleWrite.fault?, hcall]
    exact if_pos hint
  obtain ⟨left, -, hloop⟩ := h.exists_from hcalls
  cases hloop with
  | failed hne hfault =>
    rw [hgoes] at hfault
    cases hfault
  | next hne hfault hleft hrest =>
    -- Nothing was taken, so that as much is left, which is something.
    rw [htaken] at hleft
    obtain rfl := hleft
    cases after with
    | nil =>
      cases hrest
      exact absurd rfl hne
    | cons again later =>
      obtain ⟨-, rfl⟩ := hrest.first_call
      exact ⟨_, later, rfl, rfl⟩

/-- A write that takes nothing is the last, and counts as a fault. -/
theorem nothing (h : WriteLoop bytes script calls fault?) {call : SingleWrite}
    (hmem : call ∈ calls) (hcall : call.outcome = .ok []) : fault? = some .nothingWritten := by
  obtain ⟨before, after, hcalls⟩ := List.append_of_mem hmem
  have hfault : call.fault? = some .nothingWritten := by rw [SingleWrite.fault?, hcall]
  exact (h.stops hcalls hfault).2

end WriteLoop

/-! ## The flush -/

/-- A flush ends as the script says, well or with a fault of any kind, and is not made again. -/
theorem flush_outcome (stream : Stream) :
    ∃ done, stream.flush.2.log = stream.log ++ [.flushed done] ∧
      stream.flush.2.flushes = stream.flushes.tail ∧
      (done = true ∧ stream.flush.1 = .ok () ∨
        done = false ∧ ∃ fault, stream.flushes.head? = some (some fault) ∧
          stream.flush.1 = .error fault) := by
  unfold flush
  split
  next fault rest hflushes =>
    rw [hflushes]
    exact ⟨false, rfl, rfl, .inr ⟨rfl, fault, rfl, rfl⟩⟩
  next rest hflushes =>
    rw [hflushes]
    exact ⟨true, rfl, rfl, .inl ⟨rfl, rfl⟩⟩
  next hflushes =>
    rw [hflushes]
    exact ⟨true, rfl, hflushes, .inl ⟨rfl, rfl⟩⟩

end Stream

end TelemetryLink
