import TelemetryLink.Config.Setting
import TelemetryLink.Proofs.Toml.Unplaced

/-!
# Settings are read as they were written

Every type of settings finds a setting again in the value that is written for it, wherever that
stands.

- `LawfulSetting`: this, for a type of settings.
- `TotalSetting`: a type of settings that are always written.
- `Fits`, `write_uint64`: only numbers of 64 bits can be too great to be written.
-/

namespace TelemetryLink.Config

open Toml

/-- A type of settings that are read as they were written. -/
class LawfulSetting (α : Type) [Setting α] : Prop where
  /-- The format can hold what is written. -/
  fits {a : α} {w : Written} : Setting.write a = .ok (some w) → w.Fits
  /-- What is written is the setting. -/
  ofItem {a : α} {w : Written} : Setting.write a = .ok (some w) →
    ∀ extent, Setting.ofItem (.scalar w.scalar extent) = .ok a
  /-- What an item holds has nothing to do with where it stands. -/
  unplaced (item : Item) : Setting.ofItem item.unplaced = (Setting.ofItem item : Except Mismatch α)

/-- A type of settings that are always written. -/
class TotalSetting (α : Type) [Setting α] : Prop where
  /-- There is a value to write. -/
  write (a : α) : ∃ w, Setting.write a = .ok (some w)

namespace Setting

/-- A number below the bound of a type is read as the setting that has it. -/
theorem integer_eq_ok {α : Type} {ofNat : Nat → α} {n bound : Nat} {a : α} (hn : n < bound)
    (ha : ofNat n = a) (expected : String) (extent : Extent) :
    integer expected (fun n => (natBelow bound n).map ofNat) (.scalar (.integer n) extent) =
      .ok a := by
  have hbelow : natBelow bound (n : Int) = some n := if_pos ⟨by omega, by omega⟩
  rw [integer, hbelow, Option.map_some, ha]

theorem integer_unplaced {α : Type} (expected : String) (narrow : Int → Option α) (item : Item) :
    integer expected narrow item.unplaced = integer expected narrow item := by
  cases item with
  | scalar value extent =>
    cases value with
    | _ => rfl
  | _ => rfl

/-- The format can hold every number of 63 bits. -/
theorem inRange_natCast {n : Nat} (h : n ≤ 9223372036854775807) :
    Number.inRange (n : Int) = true := by
  simp only [Number.inRange, Bool.and_eq_true, decide_eq_true_eq]
  omega

end Setting

/-- The format can hold this number: its integers have 63 bits and a sign. -/
def Fits (n : UInt64) : Prop := n.toNat ≤ 9223372036854775807

instance : DecidablePred Fits := fun n => Nat.decLe n.toNat 9223372036854775807

open Setting

/-! ## The types of settings -/

instance : LawfulSetting UInt8 where
  fits := by
    rintro a _ ⟨⟩
    exact inRange_natCast (Nat.le_trans (Nat.le_of_lt a.toNat_lt) (by decide))
  ofItem := by
    rintro a _ ⟨⟩ extent
    exact integer_eq_ok a.toNat_lt UInt8.ofNat_toNat "u8" extent
  unplaced := integer_unplaced _ _

instance : LawfulSetting UInt16 where
  fits := by
    rintro a _ ⟨⟩
    exact inRange_natCast (Nat.le_trans (Nat.le_of_lt a.toNat_lt) (by decide))
  ofItem := by
    rintro a _ ⟨⟩ extent
    exact integer_eq_ok a.toNat_lt UInt16.ofNat_toNat "u16" extent
  unplaced := integer_unplaced _ _

instance : LawfulSetting UInt32 where
  fits := by
    rintro a _ ⟨⟩
    exact inRange_natCast (Nat.le_trans (Nat.le_of_lt a.toNat_lt) (by decide))
  ofItem := by
    rintro a _ ⟨⟩ extent
    exact integer_eq_ok a.toNat_lt UInt32.ofNat_toNat "u32" extent
  unplaced := integer_unplaced _ _

instance : TotalSetting UInt8 := ⟨fun _ => ⟨_, rfl⟩⟩
instance : TotalSetting UInt16 := ⟨fun _ => ⟨_, rfl⟩⟩
instance : TotalSetting UInt32 := ⟨fun _ => ⟨_, rfl⟩⟩
instance : TotalSetting Int16 := ⟨fun _ => ⟨_, rfl⟩⟩
instance : TotalSetting Bool := ⟨fun _ => ⟨_, rfl⟩⟩
instance : TotalSetting String := ⟨fun _ => ⟨_, rfl⟩⟩

/-- What is written for a number of 64 bits, if anything. -/
theorem write_uint64 (n : UInt64) :
    (Fits n ∧ Setting.write n = .ok (some (.integer n.toNat))) ∨
      (¬ Fits n ∧ Setting.write n = .error .outOfRange) := by
  by_cases h : Fits n
  · exact .inl ⟨h, if_pos h⟩
  · exact .inr ⟨h, if_neg h⟩

instance : LawfulSetting UInt64 where
  fits {n} w h := by
    obtain ⟨hn, hwrite⟩ | ⟨-, hwrite⟩ := write_uint64 n
    · cases hwrite.symm.trans h
      exact inRange_natCast hn
    · cases hwrite.symm.trans h
  ofItem {n} w h extent := by
    obtain ⟨-, hwrite⟩ | ⟨-, hwrite⟩ := write_uint64 n
    · cases hwrite.symm.trans h
      exact integer_eq_ok n.toNat_lt UInt64.ofNat_toNat "u64" extent
    · cases hwrite.symm.trans h
  unplaced := integer_unplaced _ _

instance : LawfulSetting Int16 where
  fits := by
    rintro a _ ⟨⟩
    have hlow := a.le_toInt
    have hhigh := a.toInt_lt
    simp only [Written.Fits, Number.inRange, Bool.and_eq_true, decide_eq_true_eq]
    omega
  ofItem := by
    rintro a _ ⟨⟩ extent
    have hlow := a.le_toInt
    have hhigh := a.toInt_lt
    change integer "i16" _ (.scalar (.integer a.toInt) extent) = _
    rw [integer, if_pos ⟨by omega, by omega⟩, Int16.ofInt_toInt]
  unplaced := integer_unplaced _ _

instance : LawfulSetting Bool where
  fits := by
    rintro a _ ⟨⟩
    trivial
  ofItem := by
    rintro a _ ⟨⟩ extent
    rfl
  unplaced item := by
    cases item with
    | scalar value extent =>
      cases value with
      | _ => rfl
    | _ => rfl

instance : LawfulSetting String where
  fits := by
    rintro a _ ⟨⟩
    trivial
  ofItem := by
    rintro a _ ⟨⟩ extent
    rfl
  unplaced item := by
    cases item with
    | scalar value extent =>
      cases value with
      | _ => rfl
    | _ => rfl

instance {α : Type} [Setting α] [LawfulSetting α] : LawfulSetting (Option α) where
  fits {a} w h := by
    cases a with
    | none => cases h
    | some a => exact LawfulSetting.fits (a := a) h
  ofItem {a} w h extent := by
    cases a with
    | none => cases h
    | some a =>
      have hitem := LawfulSetting.ofItem (a := a) h extent
      change some <$> Setting.ofItem (.scalar w.scalar extent) = _
      rw [hitem]
      rfl
  unplaced item := congrArg (some <$> ·) (LawfulSetting.unplaced item)

end TelemetryLink.Config
