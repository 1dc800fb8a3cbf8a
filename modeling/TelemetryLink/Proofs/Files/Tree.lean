import TelemetryLink.Files.Tree
import TelemetryLink.Proofs.Except

/-!
# What is found after writing

A file that was written is found at its path, with the content that was written.

- `Tree.get?_put`: a place that is changed, and the others.
- `Tree.enter_put`: a way through directories stays open when something else changes.
- `Tree.read_of_write`: the content of a file that was written.
-/

namespace TelemetryLink.Files.Tree

variable {tree after : Tree} {path : String} {place other directory : Place} {node : Node}
  {name : String} {content : Bytes}

/-! ## Places -/

/-- A list of nodes in which another node stands at a place. -/
private abbrev replaced (nodes : List (Place × Node)) (place : Place) (node : Node) :
    List (Place × Node) :=
  nodes.map fun entry => if entry.1 = place then (place, node) else entry

private theorem lookup_replaced_self {nodes : List (Place × Node)}
    (h : nodes.any (·.1 == place) = true) :
    (replaced nodes place node).lookup place = some node := by
  induction nodes with
  | nil => cases h
  | cons entry nodes ih =>
    rw [replaced, List.map_cons]
    by_cases hentry : entry.1 = place
    · rw [if_pos hentry, List.lookup_cons, beq_self_eq_true]
    · have hbeq : (place == entry.1) = false := beq_eq_false_iff_ne.2 (Ne.symm hentry)
      have hany : nodes.any (·.1 == place) = true := by
        simpa [List.any_cons, hentry] using h
      obtain ⟨spot, kept⟩ := entry
      rw [if_neg hentry, List.lookup_cons, hbeq]
      exact ih hany

private theorem lookup_replaced_ne {nodes : List (Place × Node)} (h : other ≠ place) :
    (replaced nodes place node).lookup other = nodes.lookup other := by
  induction nodes with
  | nil => rfl
  | cons entry nodes ih =>
    obtain ⟨spot, kept⟩ := entry
    rw [replaced, List.map_cons]
    by_cases hentry : spot = place
    · subst hentry
      rw [if_pos rfl, List.lookup_cons, List.lookup_cons, beq_eq_false_iff_ne.2 h]
      exact ih
    · rw [if_neg hentry, List.lookup_cons, List.lookup_cons, ← ih]

/-- What is at a place once something was put there. -/
theorem get?_put_self (hplace : place ≠ []) : (tree.put place node).get? place = some node := by
  unfold get? put
  rw [if_neg hplace]
  split
  next hthere => exact lookup_replaced_self hthere
  next hmissing =>
    have hnone : tree.nodes.lookup place = none := by
      rw [List.lookup_eq_none_iff]
      intro entry hentry
      rw [bne_iff_ne]
      rintro rfl
      exact hmissing (List.any_eq_true.2 ⟨entry, hentry, beq_self_eq_true _⟩)
    rw [List.lookup_append, hnone, List.lookup_cons, beq_self_eq_true]
    rfl

/-- What is at the other places. -/
theorem get?_put_ne (h : other ≠ place) : (tree.put place node).get? other = tree.get? other := by
  unfold get? put
  split
  next => rfl
  next =>
    split
    next => exact lookup_replaced_ne h
    next =>
      rw [List.lookup_append, List.lookup_cons, beq_eq_false_iff_ne.2 h]
      exact Option.or_none

/-! ## Ways -/

theorem workingDirectory_put : (tree.put place node).workingDirectory = tree.workingDirectory := by
  unfold put
  split
  next => rfl
  next => rfl

theorem entry_eq_ok_iff {found : Option Node} :
    tree.entry directory name = .ok found ↔
      name.utf8ByteSize ≤ maxName ∧ tree.get? (directory ++ [name]) = found := by
  unfold entry
  split
  next h => exact ⟨nofun, fun hname => absurd h (Nat.not_lt_of_le hname.1)⟩
  next h =>
    rw [Except.ok.injEq]
    exact (and_iff_right (Nat.le_of_not_lt h)).symm

/-- A name that is not the directory around leads on if a directory has it. -/
theorem enter_cons_eq_ok_iff {names : List String} {goal : Place} (hup : name ≠ "..") :
    tree.enter directory (name :: names) = .ok goal ↔
      tree.entry directory name = .ok (some .directory) ∧
        tree.enter (directory ++ [name]) names = .ok goal := by
  rw [enter.eq_3 _ _ _ _ hup, bind_eq_ok_iff]
  constructor
  · rintro ⟨found, hfound, h⟩
    cases found with
    | none => cases h
    | some node =>
      cases node with
      | directory => exact ⟨hfound, h⟩
      | file => cases h
  · rintro ⟨hentry, h⟩
    exact ⟨_, hentry, h⟩

/-- A way through directories stays open when something else changes. -/
theorem enter_put {names : List String} {goal : Place} (hplace : tree.get? place ≠ some .directory)
    (h : tree.enter directory names = .ok goal) :
    (tree.put place node).enter directory names = .ok goal := by
  induction names generalizing directory with
  | nil => exact h
  | cons name names ih =>
    by_cases hup : name = ".."
    · subst hup
      exact ih h
    · rw [enter_cons_eq_ok_iff hup, entry_eq_ok_iff] at h ⊢
      obtain ⟨⟨hname, hthere⟩, hrest⟩ := h
      have hne : directory ++ [name] ≠ place := by
        rintro rfl
        exact hplace hthere
      exact ⟨⟨hname, (get?_put_ne hne).trans hthere⟩, ih hrest⟩

/-- Where a path starts. -/
def start (tree : Tree) (path : String) : Place :=
  if Path.isAbsolute path then [] else tree.workingDirectory

/-- A path leads to its last name, in the directory that the names before it lead to. -/
theorem approach_eq_ok_iff :
    tree.approach path = .ok (some (directory, name)) ↔
      path.isEmpty = false ∧ path.toList.contains (Char.ofNat 0) = false ∧
        path.utf8ByteSize ≤ maxPath ∧ (Path.names path).getLast? = some name ∧
        ¬ (name = ".." ∨ Path.endsInDot path = true) ∧
        tree.enter (tree.start path) (Path.names path).dropLast = .ok directory := by
  unfold approach
  by_cases hempty : path.isEmpty = true
  · rw [if_pos hempty]
    exact ⟨nofun, fun h => Bool.noConfusion (hempty.symm.trans h.1)⟩
  by_cases hnul : path.toList.contains (Char.ofNat 0) = true
  · rw [if_neg hempty, if_pos hnul]
    exact ⟨nofun, fun h => Bool.noConfusion (hnul.symm.trans h.2.1)⟩
  by_cases hlong : maxPath < path.utf8ByteSize
  · rw [if_neg hempty, if_neg hnul, if_pos hlong]
    exact ⟨nofun, fun h => absurd h.2.2.1 (Nat.not_le_of_lt hlong)⟩
  rw [if_neg hempty, if_neg hnul, if_neg hlong]
  dsimp only
  cases hlast : (Path.names path).getLast? with
  | none => exact ⟨nofun, fun h => nomatch h.2.2.2.1⟩
  | some last =>
    dsimp only
    by_cases hup : last = ".." ∨ Path.endsInDot path = true
    · rw [if_pos hup]
      constructor
      · intro h
        obtain ⟨goal, -, h⟩ := bind_eq_ok_iff.1 h
        cases h
      · rintro ⟨-, -, -, ⟨⟩, hup', -⟩
        exact absurd hup hup'
    · rw [if_neg hup, bind_eq_ok_iff]
      constructor
      · rintro ⟨goal, hgoal, h⟩
        cases h
        exact ⟨Bool.eq_false_iff.2 hempty, Bool.eq_false_iff.2 hnul, Nat.le_of_not_lt hlong, rfl,
          hup, hgoal⟩
      · rintro ⟨-, -, -, ⟨⟩, -, hgoal⟩
        exact ⟨directory, hgoal, rfl⟩

/-- A path that leads to a name in a directory still does when something else changes. -/
theorem approach_put (hplace : tree.get? place ≠ some .directory)
    (h : tree.approach path = .ok (some (directory, name))) :
    (tree.put place node).approach path = .ok (some (directory, name)) := by
  have hstart : (tree.put place node).start path = tree.start path := by
    unfold start
    rw [workingDirectory_put]
  rw [approach_eq_ok_iff] at h ⊢
  obtain ⟨hempty, hnul, hlong, hlast, hup, henter⟩ := h
  exact ⟨hempty, hnul, hlong, hlast, hup, hstart ▸ enter_put hplace henter⟩

/-! ## Files -/

/-- A file is written unless a directory is there or asked for. -/
theorem write_eq_ok_iff :
    tree.write path content = .ok after ↔
      ∃ directory name, tree.approach path = .ok (some (directory, name)) ∧
        Path.asksDirectory path = false ∧ name.utf8ByteSize ≤ maxName ∧
        tree.get? (directory ++ [name]) ≠ some .directory ∧
        tree.put (directory ++ [name]) (.file content) = after := by
  unfold write
  rw [bind_eq_ok_iff]
  constructor
  · rintro ⟨_ | ⟨directory, name⟩, happroach, h⟩
    · cases h
    · dsimp only at h
      split at h
      next => cases h
      next hasks =>
        obtain ⟨found, hfound, h⟩ := bind_eq_ok_iff.1 h
        obtain ⟨hname, hthere⟩ := entry_eq_ok_iff.1 hfound
        refine ⟨directory, name, happroach, Bool.eq_false_iff.2 hasks, hname, ?_⟩
        split at h
        next => cases h
        next hother => exact ⟨fun hdir => hother (hthere.symm.trans hdir), Except.ok.inj h⟩
  · rintro ⟨directory, name, happroach, hasks, hname, hthere, hafter⟩
    refine ⟨_, happroach, ?_⟩
    dsimp only
    rw [if_neg (Bool.eq_false_iff.1 hasks), bind_eq_ok_iff]
    refine ⟨_, entry_eq_ok_iff.2 ⟨hname, rfl⟩, ?_⟩
    split
    next hdir => exact absurd hdir hthere
    next => exact congrArg Except.ok hafter

/-- What was written is there. -/
theorem find_of_write (h : tree.write path content = .ok after) :
    after.find path = .ok (.file content) := by
  obtain ⟨directory, name, happroach, hasks, hname, hthere, rfl⟩ := write_eq_ok_iff.1 h
  have hfollow : (tree.put (directory ++ [name]) (.file content)).follow path =
      .ok (.entry (directory ++ [name]) (some (.file content))) := by
    have hwritten : (tree.put (directory ++ [name]) (.file content)).get? (directory ++ [name]) =
        some (.file content) := get?_put_self (List.concat_ne_nil _ _)
    have hentry := entry_eq_ok_iff.2 ⟨hname, hwritten⟩
    unfold follow
    rw [approach_put hthere happroach]
    change (do return Target.entry (directory ++ [name]) (← entry _ directory name) :
      Except Failure Target) = _
    rw [hentry]
    rfl
  unfold find
  rw [hfollow]
  change (if Path.asksDirectory path = true then _ else _) = _
  rw [if_neg (Bool.eq_false_iff.1 hasks)]
  rfl

theorem read_of_write (h : tree.write path content = .ok after) :
    after.read path = .ok content := by
  unfold read
  rw [find_of_write h]
  rfl

end TelemetryLink.Files.Tree
