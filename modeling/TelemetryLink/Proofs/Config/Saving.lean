import TelemetryLink.Proofs.Config.Layer
import TelemetryLink.Proofs.Config.Range
import TelemetryLink.Proofs.Config.Storage
import TelemetryLink.Proofs.Files.Tree
import TelemetryLink.Proofs.Text.Utf8

/-!
# Saved configurations are loaded again

A configuration is saved where there is room for a file, unless a number of it is too great for the
format, and what was saved is loaded.

- `writable_of_loadFrom`: what was loaded is not too great.
- `writable_withOverrides`: of what is laid over it, only the pause between frames can be.
- `save_of_accepts`: what becomes of the file.
-/

namespace TelemetryLink

namespace Config

open Files Stateful

variable {path : String} {tree after : Tree} {config : Config}

/-! ## Layers -/

/-- The environment sets no numbers. -/
theorem writable_withEnvironment {env : Environment} :
    (config.withEnvironment env).Writable ↔ config.Writable := by
  rw [withEnvironment_eq]
  rfl

/-- Of the numbers that a caller may set, one can be too great. -/
theorem writable_withOverrides {overrides : Overrides} (h : config.Writable) :
    (config.withOverrides overrides).Writable ↔
      ∀ ms, overrides.intervalMs = some ms → Fits ms := by
  obtain ⟨hserver, hsession, hreconnect⟩ := h
  have hinterval : (config.withOverrides overrides).Writable ↔
      Fits (overrides.intervalMs.getD config.session.intervalMs) := by
    rw [withOverrides_eq]
    exact ⟨fun h => h.2.1, fun h => ⟨hserver, h, hreconnect⟩⟩
  rw [hinterval]
  cases overrides.intervalMs with
  | none => exact ⟨fun _ => nofun, fun _ => hsession⟩
  | some ms => exact ⟨by rintro h _ ⟨⟩; exact h, fun h => h ms rfl⟩

/-! ## Files -/

/-- What is loaded can be written. -/
theorem writable_of_loadFrom (h : loadFrom path tree = .ok config) : config.Writable := by
  unfold loadFrom at h
  split at h
  next =>
    cases h
    decide
  next =>
    split at h
    next => cases h
    next =>
      split at h
      next => cases h
      next => exact writable_of_parse (mapError_eq_ok_iff.1 h)

/-- A file can be made or replaced at a path, once there is a directory for it. -/
def Accepts (path : String) (tree : Tree) : Prop :=
  ∃ made, makeRoom path tree = (.ok (), made) ∧
    ∀ content, ∃ after, made.write path content = .ok after

/-- What a file holds that was written for a configuration. -/
theorem loadFrom_of_write {text : String} (htext : config.render = .ok text)
    (hwrite : tree.write path (Text.Utf8.encode text) = .ok after) :
    loadFrom path after = .ok config := by
  unfold loadFrom
  rw [Tree.find_of_write hwrite, Tree.read_of_write hwrite]
  dsimp only
  rw [Text.Utf8.decode?_encode]
  dsimp only
  rw [parse_render htext]
  rfl

/-- Where there is room for a file, a configuration is saved if it has a text, and nothing is
written otherwise. -/
theorem save_of_accepts (config : Config) (haccepts : Accepts path tree) :
    (config.Writable ∧ ∃ after, on (save path config) tree = (.ok (), after) ∧
      loadFrom path after = .ok config) ∨
    (¬ config.Writable ∧ on (save path config) tree =
      (.error (.noText .outOfRange), (makeRoom path tree).2)) := by
  obtain ⟨made, hroom, hopen⟩ := haccepts
  rw [save_on, hroom]
  dsimp only
  unfold replace
  cases htext : config.render with
  | error error =>
    refine .inr ⟨fun h => ?_, rfl⟩
    obtain ⟨text, h⟩ := exists_render_iff.2 h
    cases htext.symm.trans h
  | ok text =>
    obtain ⟨after, hwrite⟩ := hopen (Text.Utf8.encode text)
    refine .inl ⟨exists_render_iff.1 ⟨text, htext⟩, after, ?_, loadFrom_of_write htext hwrite⟩
    dsimp only
    rw [hwrite]

end Config

end TelemetryLink
