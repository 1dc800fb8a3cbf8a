import TelemetryLink.Proofs.Files.Tree

/-!
# Files outlast the making of directories

A directory is only made where nothing is, so that every file stays where it is, with what it holds.

- `Tree.SameFiles`: two trees with the same files.
- `Tree.Wrote`: what writing a file changes, after directories were made for it.
- `Tree.sameFiles_createDirectories`: making directories changes no file, even where it fails.
-/

namespace TelemetryLink.Files.Tree

variable {tree before between after : Tree} {path : String}

/-- The same files are at the same places of two trees. -/
def SameFiles (before after : Tree) : Prop :=
  ∀ place content, after.get? place = some (.file content) ↔
    before.get? place = some (.file content)

/-- A file was written at a path, once there were directories for it, and no other file was. -/
def Wrote (path : String) (content : Bytes) (before after : Tree) : Prop :=
  ∃ room, SameFiles before room ∧ room.write path content = .ok after

theorem SameFiles.refl (tree : Tree) : SameFiles tree tree := fun _ _ => Iff.rfl

theorem SameFiles.trans (h : SameFiles before between) (h' : SameFiles between after) :
    SameFiles before after :=
  fun place content => (h' place content).trans (h place content)

/-- A directory is made where nothing is. -/
theorem createDirectory_eq_ok (h : tree.createDirectory path = .ok after) :
    ∃ directory name, tree.approach path = .ok (some (directory, name)) ∧
      tree.get? (directory ++ [name]) = none ∧
      after = tree.put (directory ++ [name]) .directory := by
  obtain ⟨target, hfollow, h⟩ := bind_eq_ok_iff.1 h
  obtain ⟨_ | ⟨directory, name⟩, happroach, htarget⟩ := bind_eq_ok_iff.1 hfollow
  · cases htarget
    cases h
  · obtain ⟨found, hfound, htarget⟩ := bind_eq_ok_iff.1 htarget
    cases htarget
    cases found with
    | some node => cases h
    | none =>
      cases h
      exact ⟨directory, name, happroach, (entry_eq_ok_iff.1 hfound).2, rfl⟩

theorem sameFiles_createDirectory (h : tree.createDirectory path = .ok after) :
    SameFiles tree after := by
  obtain ⟨directory, name, -, hnone, rfl⟩ := createDirectory_eq_ok h
  intro place content
  -- At the place of the new directory there was no file, and there is none now.
  by_cases hplace : place = directory ++ [name]
  · subst hplace
    rw [get?_put_self (List.concat_ne_nil _ _), hnone]
    exact ⟨nofun, nofun⟩
  · rw [get?_put_ne hplace]

/-- Makes a directory, unless it is there already. -/
def ensureDirectory (path : String) (tree : Tree) : Except Failure Unit × Tree :=
  match tree.createDirectory path with
  | .ok after => (.ok (), after)
  | .error failure => if tree.isDirectory path then (.ok (), tree) else (.error failure, tree)

/-- The directories around the last one are made if something is missing on the way. -/
theorem createDirectories_succ (n : Nat) (path : String) (tree : Tree) :
    createDirectories (n + 1) path tree =
      if path.isEmpty then (.ok (), tree)
      else match tree.createDirectory path with
        | .error .notFound =>
          match Path.parent? path with
          | none => (.error .notFound, tree)
          | some parent =>
            match createDirectories n parent tree with
            | (.ok (), between) => ensureDirectory path between
            | (.error failure, between) => (.error failure, between)
        | _ => ensureDirectory path tree :=
  rfl

theorem sameFiles_ensureDirectory (path : String) (tree : Tree) :
    SameFiles tree (ensureDirectory path tree).2 := by
  unfold ensureDirectory
  split
  next after h => exact sameFiles_createDirectory h
  next =>
    split
    next => exact .refl tree
    next => exact .refl tree

/-- Making directories changes no file, whether it ends well or not. -/
theorem sameFiles_createDirectories (n : Nat) (path : String) (tree : Tree) :
    SameFiles tree (createDirectories n path tree).2 := by
  induction n generalizing path tree with
  | zero => exact .refl tree
  | succ n ih =>
    rw [createDirectories_succ]
    split
    next => exact .refl tree
    next =>
      split
      next =>
        split
        next => exact .refl tree
        next parent _ =>
          -- Directories that were made further up stay when one below cannot be made.
          have hparent := ih parent tree
          rcases hmade : createDirectories n parent tree with ⟨failure | ⟨⟩, between⟩
          · rw [hmade] at hparent
            exact hparent
          · rw [hmade] at hparent
            exact hparent.trans (sameFiles_ensureDirectory path between)
      next => exact sameFiles_ensureDirectory path tree

end TelemetryLink.Files.Tree
