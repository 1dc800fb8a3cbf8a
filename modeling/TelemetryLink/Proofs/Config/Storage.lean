import TelemetryLink.Config.Storage
import TelemetryLink.Files.Tree
import TelemetryLink.Proofs.Files.Directories
import TelemetryLink.Proofs.Stateful

/-!
# Stored configurations on file trees

What loading and saving do where the file system is a `Files.Tree`.

- `load_on`: loading depends on what is at the path, and changes nothing.
- `save_on`: saving makes the directory, then the text, then the file, and stops at the first of
  these that fails.
- `save_cases`: either the text is written, or no file is.
-/

namespace TelemetryLink.Config

open Files Stateful

variable (path : String) (tree : Tree)

/-- The configuration at a path of a tree. -/
def loadFrom : Except LoadError Config :=
  match tree.find path with
  | .error _ => .ok {}
  | .ok _ =>
    match tree.read path with
    | .error failure => .error (.unreadable path failure)
    | .ok content =>
      match Text.Utf8.decode? content with
      | none => .error (.unreadable path .notText)
      | some text => (parse text).mapError (.invalid path)

private theorem present_on (there : Bool)
    (h : (match tree.find path with
      | .ok _ => true
      | .error _ => false) = there) :
    on (ExceptT.lift (Files.present path) : ExceptT LoadError (StateT Tree Id) Bool) tree =
      (.ok there, tree) := by
  rw [← h]
  rfl

/-- Loading leaves the tree as it is. -/
theorem load_on : on (load path) tree = (loadFrom path tree, tree) := by
  unfold loadFrom load
  cases hfind : tree.find path with
  | error failure =>
    rw [on_bind_ok _ (present_on path tree false (by rw [hfind]))]
    rfl
  | ok node =>
    rw [on_bind_ok _ (present_on path tree true (by rw [hfind]))]
    have hread : Files.read (m := Id) path tree = (tree.read path, tree) := rfl
    change on (_ >>= _) tree = _
    cases hcontent : tree.read path with
    | error failure =>
      rw [hcontent] at hread
      exact on_bind_error _ (on_told _ hread)
    | ok content =>
      rw [hcontent] at hread
      rw [on_bind_ok _ (on_told _ hread)]
      dsimp only
      cases Text.Utf8.decode? content with
      | none => rfl
      | some text => rfl

/-- Makes the directory that a path lies in, if it names one. -/
def makeRoom : Except SaveError Unit × Tree :=
  match Path.parent? path with
  | none => (.ok (), tree)
  | some directory =>
    let (result, tree) := Tree.createDirectories (directory.length + 1) directory tree
    (result.mapError (.noDirectory directory), tree)

/-- Replaces what is at a path by the text of a configuration, if it has one. -/
def replace (config : Config) : Except SaveError Unit × Tree :=
  match config.render with
  | .error error => (.error (.noText error), tree)
  | .ok text =>
    match tree.write path (Text.Utf8.encode text) with
    | .error failure => (.error (.unwritable path failure), tree)
    | .ok tree => (.ok (), tree)

private theorem replace_on (config : Config) :
    on (do
      let text ← ExceptT.mk (pure (config.render.mapError .noText))
      ExceptT.mk do
        return (← Files.write path (Text.Utf8.encode text)).mapError (.unwritable path) :
        ExceptT SaveError (StateT Tree Id) Unit) tree = replace path tree config := by
  unfold replace
  cases config.render with
  | error error => rfl
  | ok text =>
    dsimp only
    cases hwrite : tree.write path (Text.Utf8.encode text) with
    | error failure =>
      have hfiles : Files.write (m := Id) path (Text.Utf8.encode text) tree =
          (.error failure, tree) := by
        simp only [Files.write, hwrite]
      exact on_told _ hfiles
    | ok after =>
      have hfiles : Files.write (m := Id) path (Text.Utf8.encode text) tree =
          (.ok (), after) := by
        simp only [Files.write, hwrite]
      exact on_told _ hfiles

/-- The text is written once there is a directory for it. -/
theorem save_on (config : Config) :
    on (save path config) tree =
      match makeRoom path tree with
      | (.error error, after) => (.error error, after)
      | (.ok (), after) => replace path after config := by
  unfold save makeRoom
  cases Path.parent? path with
  | none => exact replace_on path tree config
  | some directory =>
    have hroom : Files.createDirectories (m := Id) directory tree =
        Tree.createDirectories (directory.length + 1) directory tree := rfl
    dsimp only
    rcases hmade : Tree.createDirectories (directory.length + 1) directory tree with
      ⟨failure | ⟨⟩, after⟩
    · exact on_bind_error _ (on_told _ (hroom.trans hmade))
    · exact (on_bind_ok _ (on_told _ (hroom.trans hmade))).trans (replace_on path after config)

variable {path tree}

theorem sameFiles_makeRoom : Tree.SameFiles tree (makeRoom path tree).2 := by
  unfold makeRoom
  split
  next => exact .refl tree
  next directory _ => exact Tree.sameFiles_createDirectories _ directory tree

/-- Saving writes the text of the configuration and nothing else, or it fails and writes no file. -/
theorem save_cases (path : String) (tree : Tree) (config : Config) :
    (∃ text after, config.render = .ok text ∧ on (save path config) tree = (.ok (), after) ∧
      Tree.Wrote path (Text.Utf8.encode text) tree after) ∨
    (∃ error after, on (save path config) tree = (.error error, after) ∧
      Tree.SameFiles tree after) := by
  have hroom : Tree.SameFiles tree (makeRoom path tree).2 := sameFiles_makeRoom
  rw [save_on]
  rcases hmade : makeRoom path tree with ⟨error | ⟨⟩, room⟩
  · rw [hmade] at hroom
    exact .inr ⟨error, room, rfl, hroom⟩
  · rw [hmade] at hroom
    unfold replace
    cases htext : config.render with
    | error error => exact .inr ⟨_, room, rfl, hroom⟩
    | ok text =>
      dsimp only
      cases hwrite : room.write path (Text.Utf8.encode text) with
      | error failure => exact .inr ⟨_, room, rfl, hroom⟩
      | ok after => exact .inl ⟨text, after, rfl, rfl, room, hroom, hwrite⟩

end TelemetryLink.Config
