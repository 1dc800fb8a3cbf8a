import TelemetryLink.Text.Alphanumeric
import TelemetryLink.Text.Blank
import TelemetryLink.Text.Hex

/-!
# Patterns

Which texts are well-formed patterns: regular expressions with groups, alternatives, classes of
characters and the repetitions `?`, `*` and `+`. Braces, and with them counted repetitions and
named code points, are not part of them, and neither are references back to a group and looks
ahead or behind.

A pattern is about Unicode characters, of which nothing is known but their order: only where its
flags make it about octets can it ask for letters, digits or blanks, for the ends of words, and for
both cases of a letter. Octets that a pattern speaks of are those of ASCII, since what it is
compared with is text. Flags may change from one place to the next.

* `Mode` – the flags that count at a place.
* `State.step` – one piece of a pattern: a group's start or end, a repetition, a character, or a
  piece of a class.
* `isWellFormed` – whether the pieces of a text make a pattern.
-/

namespace TelemetryLink.Text.Pattern

/-- How a pattern is read at a place. -/
structure Mode where
  /-- Whether letters stand for both of their cases. -/
  caseless : Bool := false
  /-- Whether white space and comments stand for nothing. -/
  spaced : Bool := false
  /-- Whether the pattern is about Unicode characters, and not about octets. -/
  unicode : Bool := true
  deriving DecidableEq, Repr

namespace Mode

/-- The letters of flags. Those about lines, the dot and greed make no difference to what a
pattern may hold. -/
def letters : List Char := ['i', 'm', 's', 'U', 'u', 'R', 'x']

/-- The mode with a flag set or cleared. -/
def set (mode : Mode) (flag : Char) (value : Bool) : Mode :=
  if flag = 'i' then { mode with caseless := value }
  else if flag = 'x' then { mode with spaced := value }
  else if flag = 'u' then { mode with unicode := value }
  else mode

/-- Whether characters may stand in a pattern: the other case of a Unicode character is not
known. -/
def admitsCharacters (mode : Mode) : Bool := !(mode.caseless && mode.unicode)

/-- Whether a character may be in a class. A class of octets has ASCII characters only. -/
def admitsMember (mode : Mode) (c : Char) : Bool :=
  mode.admitsCharacters && (mode.unicode || c.toNat < 128)

/-- The rest after white space and comments, each of which goes from a number sign to the end of
its line. -/
def dropIdle (inComment : Bool) : List Char → List Char
  | [] => []
  | c :: cs =>
    if inComment then dropIdle (c != '\n') cs
    else if Blank.isBlank c then dropIdle false cs
    else if c = '#' then dropIdle true cs
    else c :: cs

/-- The rest after what stands for nothing. -/
def skip (mode : Mode) (cs : List Char) : List Char :=
  if mode.spaced then dropIdle false cs else cs

end Mode

/-! ## Escapes -/

/-- What a backslash and the characters after it stand for. -/
inductive Escape where
  /-- A character. -/
  | character (c : Char)
  /-- Any of several characters. -/
  | several
  /-- A place in a text. -/
  | place
  deriving DecidableEq, Repr

/-- The characters that a letter stands for after a backslash. -/
def controls : List (Char × Nat) :=
  [('a', 7), ('t', 9), ('n', 10), ('v', 11), ('f', 12), ('r', 13)]

/-- The letters after which a character is spelled by its number, and how many digits follow. -/
def numberWidths : List (Char × Nat) := [('x', 2), ('u', 4), ('U', 8)]

/-- Reads some hexadecimal digits. -/
def number? (mode : Mode) : Nat → Nat → List Char → Option (Nat × List Char)
  | 0, value, cs => some (value, cs)
  | count + 1, value, cs =>
    match mode.skip cs with
    | [] => none
    | c :: rest => do number? mode count (16 * value + (← Hex.charDigit? c)) rest

/-- Reads what follows a backslash. Punctuation stands for itself, the angle brackets apart, which
are the ends of words; other ASCII letters and digits have no meaning. -/
def escape? (mode : Mode) : List Char → Option (Escape × List Char)
  | [] => none
  | c :: cs =>
    match numberWidths.lookup c, controls.lookup c with
    | some width, _ => do
      let (value, rest) ← number? mode width 0 cs
      -- Two digits stand for an octet where octets are meant.
      guard (value.isValidChar ∧ (mode.unicode ∨ width ≠ 2 ∨ value < 128))
      return (.character (Char.ofNat value), rest)
    | none, some code => some (.character (Char.ofNat code), cs)
    | none, none =>
      if ['A', 'z'].contains c then some (.place, cs)
      else if ['b', 'B', '<', '>'].contains c then
        if mode.unicode then none else some (.place, cs)
      else if ['d', 's', 'w'].contains c then
        if mode.unicode then none else some (.several, cs)
      else if c.isAlphanum || 128 ≤ c.toNat then none
      else some (.character c, cs)

/-! ## Pieces -/

/-- Where a pattern is read. -/
inductive Place where
  /-- Outside classes. -/
  | outside
  /-- At the start of a class, where a closing bracket stands for itself. -/
  | opening
  /-- After hyphens at the start of a class. -/
  | hyphens
  /-- Further inside a class. -/
  | inside
  deriving DecidableEq, Repr

/-- What the pieces so far leave open. -/
structure State where
  /-- How the next piece is read. -/
  mode : Mode := {}
  /-- How to go on after each open group, the innermost first. -/
  outer : List Mode := []
  /-- The names of groups. -/
  names : List (List Char) := []
  /-- Whether the last piece can be repeated. -/
  repeatable : Bool := false
  /-- Where the next piece stands. -/
  place : Place := .outside
  /-- The number of open classes. -/
  depth : Nat := 0
  deriving DecidableEq, Repr

/-- The names of classes of ASCII characters. -/
def classNames : List String :=
  ["alnum", "alpha", "ascii", "blank", "cntrl", "digit", "graph", "lower", "print", "punct",
    "space", "upper", "word", "xdigit"]

/-- Reads a named class after its bracket, such as `[:alpha:]`, and whether it is the class of all
other characters. -/
def namedClass? : List Char → Option (Bool × List Char)
  | ':' :: cs =>
    let negated := cs.head? == some '^'
    let body := if negated then cs.drop 1 else cs
    match body.dropWhile (· != ':') with
    | ':' :: ']' :: rest =>
      if classNames.contains (String.ofList (body.takeWhile (· != ':'))) then some (negated, rest)
      else none
    | _ => none
  | _ => none

/-- Reads a character in a class, which may be escaped. -/
def member? (mode : Mode) : List Char → Option (Escape × List Char)
  | [] => none
  | '\\' :: cs => escape? mode cs
  | c :: cs => some (.character c, cs)

/-- Reads a member of a class or a range of them. A hyphen before the end of the class or before
another hyphen makes no range. -/
def members? (mode : Mode) (cs : List Char) : Option (List Char) := do
  let (first, rest) ← member? mode cs
  let alone : Option (List Char) :=
    match first with
    | .character c => if mode.admitsMember c then some rest else none
    | .several => some rest
    | .place => none
  match mode.skip rest with
  | '-' :: more =>
    match mode.skip more with
    | ']' :: _ => alone
    | '-' :: _ => alone
    | ahead =>
      match first, ← member? mode ahead with
      | .character a, (.character b, rest) =>
        if a.toNat ≤ b.toNat && mode.admitsMember a && mode.admitsMember b then some rest
        else none
      | _, _ => none
  | _ => alone

/-- Reads the flags of a group up to a colon or the end of the group. Each stands there once, and
those after a minus are cleared. `seen` holds what was read, the last first. -/
def flags? (mode : Mode) (seen : List Char) : List Char → Option (Mode × List Char × List Char)
  | [] => none
  | c :: cs =>
    if c = ':' ∨ c = ')' then
      if seen.head? = some '-' then none else some (mode, seen, c :: cs)
    else if seen.contains c || !(c == '-' || Mode.letters.contains c) then none
    else flags? (mode.set c (!seen.contains '-')) (c :: seen) cs

/-- Whether a group can have a name: it starts with a letter or an underscore. -/
def isGroupName : List Char → Bool
  | [] => false
  | c :: cs =>
    (c == '_' || Alphanumeric.isAlphabetic c) && cs.all fun c =>
      ['_', '.', '[', ']'].contains c || Alphanumeric.isAlphanumeric c

namespace State

/-- After a piece that can be repeated. -/
def repeated (state : State) : State := { state with repeatable := true }

/-- Inside a new group. -/
def enter (state : State) (mode : Mode) : State :=
  { state with mode, outer := state.mode :: state.outer, repeatable := false }

/-- Reads the start of a group after its parenthesis, or flags for the rest of the group that
they are in. -/
def openGroup (state : State) (cs : List Char) : Option (State × List Char) :=
  let named (cs : List Char) : Option (State × List Char) :=
    let name := cs.takeWhile (· != '>')
    match cs.dropWhile (· != '>') with
    | [] => none
    | _ :: rest =>
      if isGroupName name && !state.names.contains name then
        some ({ state.enter state.mode with names := name :: state.names }, rest)
      else none
  match state.mode.skip cs with
  | '?' :: 'P' :: '<' :: cs => named cs
  | '?' :: '<' :: cs => named cs
  | '?' :: cs =>
    match flags? state.mode [] cs with
    | some (mode, seen, ')' :: rest) =>
      if seen.isEmpty then none else some ({ state with mode, repeatable := false }, rest)
    | some (mode, _, _ :: rest) => some (state.enter mode, rest)
    | _ => none
  | cs => some (state.enter state.mode, cs)

/-- Reads the start of a class after its bracket. A class of all other octets would have some that
are not ASCII. -/
def openClass (state : State) (cs : List Char) : Option (State × List Char) :=
  let opened := { state with place := .opening, depth := state.depth + 1 }
  match state.mode.skip cs with
  | '^' :: rest => if state.mode.unicode then some (opened, rest) else none
  | cs => some (opened, cs)

/-- After the end of a class. -/
def closeClass (state : State) : State :=
  { state with
    place := if state.depth ≤ 1 then .outside else .inside
    depth := state.depth - 1
    repeatable := true }

/-- Reads a piece outside classes. -/
def stepOutside (state : State) : List Char → Option (State × List Char)
  | [] => none
  | c :: cs =>
    if c = '(' then state.openGroup cs
    else if c = ')' then
      match state.outer with
      | [] => none
      | mode :: outer => some ({ state with mode, outer, repeatable := true }, cs)
    else if c = '|' then some ({ state with repeatable := false }, cs)
    else if c = '[' then state.openClass cs
    else if c = '{' then none
    else if ['?', '*', '+'].contains c then
      -- A question mark right after a repetition belongs to it.
      if state.repeatable then some (state, if cs.head? = some '?' then cs.drop 1 else cs)
      else none
    else if c = '.' then if state.mode.unicode then some (state.repeated, cs) else none
    else if ['^', '$'].contains c then some (state.repeated, cs)
    else if c = '\\' then do
      let (escape, rest) ← escape? state.mode cs
      match escape with
      | .character _ => guard state.mode.admitsCharacters
      | _ => pure ()
      return (state.repeated, rest)
    else if state.mode.admitsCharacters then some (state.repeated, cs)
    else none

/-- Reads a piece inside a class: a class in it, its end, an operation on what is before and after
it, or members. -/
def stepInside (state : State) : List Char → Option (State × List Char)
  | '[' :: cs =>
    match namedClass? cs with
    | some (negated, rest) =>
      if state.mode.admitsCharacters && (state.mode.unicode || !negated) then
        some ({ state with place := .inside }, rest)
      else none
    | none => state.openClass cs
  | ']' :: cs => some (state.closeClass, cs)
  | '&' :: '&' :: cs => some ({ state with place := .inside }, cs)
  | '-' :: '-' :: cs => some ({ state with place := .inside }, cs)
  | '~' :: '~' :: cs => some ({ state with place := .inside }, cs)
  | cs => (members? state.mode cs).map fun rest => ({ state with place := .inside }, rest)

/-- Reads a piece. -/
def step (state : State) (cs : List Char) : Option (State × List Char) :=
  let alone (c : Char) (place : Place) (rest : List Char) : Option (State × List Char) :=
    if state.mode.admitsMember c then some ({ state with place }, rest) else none
  match state.place, cs with
  | .outside, cs => state.stepOutside cs
  | .opening, '-' :: rest => alone '-' .hyphens rest
  | .hyphens, '-' :: rest => alone '-' .hyphens rest
  | .opening, ']' :: rest => alone ']' .inside rest
  | _, cs => state.stepInside cs

/-- Whether a pattern may end: nothing is open. -/
def isComplete (state : State) : Bool := state.outer.isEmpty && state.place == .outside

/-- Reads pieces to the end, at most `count` of them. -/
def run : Nat → State → List Char → Bool
  | 0, _, _ => false
  | count + 1, state, cs =>
    match state.mode.skip cs with
    | [] => state.isComplete
    | cs =>
      match state.step cs with
      | some (state, rest) => run count state rest
      | none => false

end State

/-- Whether a text is a pattern. Every piece has at least one character. -/
def isWellFormed (text : String) : Bool := State.run (text.length + 1) {} text.toList

end TelemetryLink.Text.Pattern
