/-!
# Computations that may fail

What is known of a computation that has succeeded.

- `bind_eq_ok_iff`: both parts of a sequence have.
- `mapError_eq_ok_iff`: telling a failure in other words does not make a success.
- `mapM_cons_eq_ok_iff`, `exists_mapM_iff`: a computation for each element of a list.
-/

namespace TelemetryLink

variable {ε ε' α β : Type} {step : Except ε α}

theorem bind_eq_ok_iff {next : α → Except ε β} {b : β} :
    step >>= next = .ok b ↔ ∃ a, step = .ok a ∧ next a = .ok b := by
  cases step with
  | error e => exact ⟨nofun, nofun⟩
  | ok a =>
    refine ⟨fun h => ⟨a, rfl, h⟩, ?_⟩
    rintro ⟨_, ⟨⟩, h⟩
    exact h

/-- What is done with the value in the end cannot fail. -/
theorem exists_bind_pure_iff {g : α → β} :
    (∃ b, (do return g (← step)) = Except.ok b) ↔ ∃ a, step = .ok a := by
  cases step with
  | error e => exact ⟨nofun, nofun⟩
  | ok a => exact ⟨fun _ => ⟨a, rfl⟩, fun _ => ⟨g a, rfl⟩⟩

theorem mapError_eq_ok_iff {f : ε → ε'} {a : α} : step.mapError f = .ok a ↔ step = .ok a := by
  cases step with
  | error e => exact ⟨nofun, nofun⟩
  | ok a => exact ⟨fun h => congrArg Except.ok (Except.ok.inj h),
      fun h => congrArg Except.ok (Except.ok.inj h)⟩

/-! ## Lists -/

section

variable {f : α → Except ε β} {a : α} {as : List α} {bs : List β}

theorem mapM_cons_eq_ok_iff :
    (a :: as).mapM f = .ok bs ↔
      ∃ b later, f a = .ok b ∧ as.mapM f = .ok later ∧ bs = b :: later := by
  rw [List.mapM_cons, bind_eq_ok_iff]
  refine exists_congr fun b => ?_
  rw [bind_eq_ok_iff]
  constructor
  · rintro ⟨hb, later, hlater, ⟨⟩⟩
    exact ⟨later, hb, hlater, rfl⟩
  · rintro ⟨later, hb, hlater, rfl⟩
    exact ⟨hb, later, hlater, rfl⟩

/-- All of it succeeds exactly if each part does. -/
theorem exists_mapM_iff : (∃ bs, as.mapM f = .ok bs) ↔ ∀ a ∈ as, ∃ b, f a = .ok b := by
  induction as with
  | nil => exact ⟨fun _ => nofun, fun _ => ⟨[], rfl⟩⟩
  | cons a as ih =>
    rw [List.forall_mem_cons, ← ih]
    constructor
    · rintro ⟨bs, h⟩
      obtain ⟨b, later, hb, hlater, -⟩ := mapM_cons_eq_ok_iff.1 h
      exact ⟨⟨b, hb⟩, later, hlater⟩
    · rintro ⟨⟨b, hb⟩, later, hlater⟩
      exact ⟨b :: later, mapM_cons_eq_ok_iff.2 ⟨b, later, hb, hlater, rfl⟩⟩

/-- Every value comes from an element. -/
theorem exists_of_mem_mapM (h : as.mapM f = .ok bs) : ∀ b ∈ bs, ∃ a ∈ as, f a = .ok b := by
  induction as generalizing bs with
  | nil =>
    cases h
    exact nofun
  | cons a as ih =>
    obtain ⟨b, later, hb, hlater, rfl⟩ := mapM_cons_eq_ok_iff.1 h
    intro c hc
    rcases List.mem_cons.1 hc with rfl | hc
    · exact ⟨a, List.mem_cons_self, hb⟩
    · obtain ⟨x, hx, h⟩ := ih hlater c hc
      exact ⟨x, List.mem_cons_of_mem _ hx, h⟩

end

end TelemetryLink
