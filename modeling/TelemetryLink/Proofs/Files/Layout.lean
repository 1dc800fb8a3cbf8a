import TelemetryLink.Proofs.Files.Directories

/-!
# The layout of a file tree

Where a path leads, and which directories can be made or files written, depends on where the
directories and files are, and not on what the files hold.

- `Tree.layout`: a tree with nothing in its files.
- `Tree.approach_layout`, `Tree.find_layout`: where a path leads in it.
- `Tree.createDirectories_layout`, `Tree.write_layout`: changes to a tree, seen on its layout.
-/

namespace TelemetryLink.Files

/-- What is at a place, with nothing in it if it is a file. -/
def Node.emptied : Node → Node
  | directory => directory
  | file _ => file []

/-- What a path leads to, with nothing in it if it is a file. -/
def Tree.Target.emptied : Target → Target
  | directory => directory
  | entry place node => entry place (node.map Node.emptied)

namespace Tree

/-- The same tree with nothing in its files. -/
def layout (tree : Tree) : Tree :=
  { tree with nodes := tree.nodes.map fun entry => (entry.1, entry.2.emptied) }

variable (tree : Tree) (path : String)

/-! ## Ways -/

theorem get?_layout (place : Place) :
    tree.layout.get? place = (tree.get? place).map Node.emptied := by
  unfold get?
  split
  next => rfl
  next =>
    change (tree.nodes.map _).lookup place = (tree.nodes.lookup place).map Node.emptied
    induction tree.nodes with
    | nil => rfl
    | cons entry nodes ih =>
      obtain ⟨spot, node⟩ := entry
      rw [List.map_cons, List.lookup_cons, List.lookup_cons, ih]
      dsimp only
      cases place == spot with
      | true => rfl
      | false => rfl

theorem put_layout (place : Place) (node : Node) :
    (tree.put place node).layout = tree.layout.put place node.emptied := by
  have hany : tree.layout.nodes.any (·.1 == place) = tree.nodes.any (·.1 == place) := List.any_map
  unfold put
  rw [hany]
  split
  next =>
    refine congrArg (Tree.mk · _) ?_
    change (tree.nodes.map _).map _ = (tree.nodes.map _).map _
    rw [List.map_map, List.map_map]
    refine List.map_congr_left fun entry _ => ?_
    dsimp only [Function.comp_apply]
    split
    next => rfl
    next => rfl
  next => exact congrArg (Tree.mk · _) List.map_append

theorem entry_layout (directory : Place) (name : String) :
    tree.layout.entry directory name =
      (tree.entry directory name).map (Option.map Node.emptied) := by
  unfold entry
  rw [get?_layout]
  split
  next => rfl
  next => rfl

theorem enter_layout (directory : Place) (names : List String) :
    tree.layout.enter directory names = tree.enter directory names := by
  induction names generalizing directory with
  | nil => rfl
  | cons name names ih =>
    by_cases hup : name = ".."
    · subst hup
      exact ih directory.dropLast
    · -- A file stops the way, whatever it holds.
      rw [enter.eq_3 _ _ _ _ hup, enter.eq_3 _ _ _ _ hup, entry_layout]
      rcases tree.entry directory name with failure | _ | _ | content
      · rfl
      · rfl
      · exact ih (directory ++ [name])
      · rfl

theorem approach_layout : tree.layout.approach path = tree.approach path := by
  unfold approach
  simp only [enter_layout]
  rfl

theorem follow_layout : tree.layout.follow path = (tree.follow path).map Target.emptied := by
  unfold follow
  rw [approach_layout]
  rcases tree.approach path with failure | _ | ⟨directory, name⟩
  · rfl
  · rfl
  · change (do return Target.entry _ (← tree.layout.entry directory name)) = Except.map _
      (do return Target.entry _ (← tree.entry directory name))
    rw [entry_layout]
    rcases tree.entry directory name with failure | found
    · rfl
    · rfl

theorem find_layout : tree.layout.find path = (tree.find path).map Node.emptied := by
  unfold find
  rw [follow_layout]
  rcases tree.follow path with failure | _ | ⟨place, _ | _ | content⟩
  · rfl
  · rfl
  · rfl
  · rfl
  · change (if Path.asksDirectory path = true then _ else _) = Except.map _
      (if Path.asksDirectory path = true then _ else _)
    split
    next => rfl
    next => rfl

theorem isDirectory_layout : tree.layout.isDirectory path = tree.isDirectory path := by
  unfold isDirectory
  rw [find_layout]
  rcases tree.find path with failure | _ | content
  · rfl
  · rfl
  · rfl

/-! ## Changes -/

theorem createDirectory_layout :
    tree.layout.createDirectory path = (tree.createDirectory path).map layout := by
  unfold createDirectory
  rw [follow_layout]
  rcases tree.follow path with failure | _ | ⟨place, _ | node⟩
  · rfl
  · rfl
  · exact congrArg Except.ok (put_layout tree place .directory).symm
  · rfl

theorem ensureDirectory_layout :
    ensureDirectory path tree.layout =
      ((ensureDirectory path tree).1, (ensureDirectory path tree).2.layout) := by
  unfold ensureDirectory
  rw [createDirectory_layout, isDirectory_layout]
  rcases tree.createDirectory path with failure | after
  · dsimp only [Except.map]
    split
    next => rfl
    next => rfl
  · rfl

/-- Directories are made in the layout of a tree as in the tree. -/
theorem createDirectories_layout (n : Nat) :
    createDirectories n path tree.layout =
      ((createDirectories n path tree).1, (createDirectories n path tree).2.layout) := by
  induction n generalizing path tree with
  | zero => rfl
  | succ n ih =>
    -- The same directories are missing in both, and those further up are made first.
    rw [createDirectories_succ, createDirectories_succ, createDirectory_layout]
    by_cases hempty : path.isEmpty = true
    · rw [if_pos hempty, if_pos hempty]
    rw [if_neg hempty, if_neg hempty]
    have hensure := ensureDirectory_layout tree path
    rcases tree.createDirectory path with failure | after
    · cases failure with
      | notFound =>
        dsimp only [Except.map]
        cases Path.parent? path with
        | none => rfl
        | some parent =>
          dsimp only
          rw [ih tree parent]
          rcases createDirectories n parent tree with ⟨failure | ⟨⟩, between⟩
          · rfl
          · exact ensureDirectory_layout between path
      | _ => exact hensure
    · exact hensure

/-- A file is written in the layout of a tree where it is in the tree. -/
theorem write_layout (content : Bytes) :
    tree.layout.write path [] = (tree.write path content).map layout := by
  unfold write
  rw [approach_layout]
  rcases tree.approach path with failure | _ | ⟨directory, name⟩
  · rfl
  · rfl
  · change (if Path.asksDirectory path = true then _ else _ : Except Failure Tree) = Except.map _
      (if Path.asksDirectory path = true then _ else _ : Except Failure Tree)
    split
    next => rfl
    next =>
      rw [entry_layout]
      -- A new file and a replaced one are put in the same place.
      have hput := congrArg (Except.ok (ε := Failure))
        (put_layout tree (directory ++ [name]) (.file content)).symm
      rcases tree.entry directory name with failure | _ | _ | _
      · rfl
      · exact hput
      · rfl
      · exact hput

end Tree

end TelemetryLink.Files
