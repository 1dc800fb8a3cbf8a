import TelemetryLink.LogFilter.Field
import TelemetryLink.LogFilter.Level
import TelemetryLink.Text.Utf8

/-!
# Directives

A directive says how severe messages have to be: all of them, or those of a target, inside a span
of work, with a field. It is written `target[span{field}]=level`, and only a part of that need be
there. A level alone is for everybody, and without a level everything is logged.

* `LogDirective.parse?` – the directive of a text, read by one pass over it (`Reading`).
* `LogDirective.text` – how a directive is shown.
* `LogDirective.rank` – which of two directives says more about a message.
-/

namespace TelemetryLink

/-- How severe some messages have to be. -/
structure LogDirective where
  /-- Whose messages are meant; `none` is everybody's. -/
  target : Option String
  /-- The work that they belong to; `none` is any or none. -/
  span : Option String
  /-- The field that they have; `none` asks for no field. -/
  field : Option LogField
  /-- How severe they have to be. -/
  level : LogLevel
  deriving DecidableEq, Repr

namespace LogDirective

/-- Whether it depends on the work that a message belongs to, or on its data. -/
def isDynamic (directive : LogDirective) : Bool :=
  directive.span.isSome || directive.field.isSome

/-- Whether the names of a message and its fields suffice to follow it. -/
def isStatic (directive : LogDirective) : Bool :=
  directive.span.isNone && directive.field.all (·.value.isNone)

/-- The directive as it is shown. -/
def text (directive : LogDirective) : String :=
  let field := match directive.field with
    | some field => "\x7b" ++ field.text ++ "\x7d"
    | none => ""
  let place := directive.target.getD "" ++
    if directive.isDynamic then "[" ++ directive.span.getD "" ++ field ++ "]" else ""
  if directive.target.isSome || directive.isDynamic then place ++ "=" ++ directive.level.text
  else directive.level.text

/-- The order of directives, the less special one first: without a target or with a shorter one,
without a span, without a field, and then by their texts. -/
def rank (a b : LogDirective) : Ordering :=
  let length (directive : LogDirective) : Option Nat := directive.target.map String.utf8ByteSize
  (Ranking.options Ranking.naturals (length a) (length b)).then <|
    (Ranking.bools a.span.isSome b.span.isSome).then <|
    (Ranking.bools a.field.isSome b.field.isSome).then <|
    (Ranking.options Ranking.texts a.target b.target).then <|
    (Ranking.options Ranking.texts a.span b.span).then <|
    Ranking.options LogField.rank a.field b.field

/-! ## Reading -/

/-- The part of a directive that is being read. Parts that take a text carry the position at which
it starts. -/
inductive Part where
  /-- Nothing was read yet. -/
  | start
  /-- A target, or a level for everybody. -/
  | name (first : Nat)
  /-- The name of a span. -/
  | span (first : Nat)
  /-- A field. -/
  | field (first : Nat)
  /-- The bracket after a field. -/
  | fieldEnd
  /-- What follows the bracket of a span. -/
  | spanEnd
  /-- A level after an equals sign. -/
  | level (first : Nat)
  deriving DecidableEq, Repr

/-- What is known of a directive while it is read. -/
structure Reading where
  /-- What is read now. -/
  part : Part := .start
  /-- The target. -/
  target : Option String := none
  /-- The span. -/
  span : Option String := none
  /-- The field. -/
  field : Option LogField := none
  deriving DecidableEq, Repr

/-- Whether a target or a level may start with a character. -/
def isStart (c : Char) : Bool :=
  c == '-' || c == ':' || c == '_' || Text.Alphanumeric.isAlphanumeric c

namespace Reading

/-- Reads a character at a position of a text. -/
def advance (text : List Char) (reading : Reading) (position : Nat) (c : Char) :
    Option Reading := do
  let since (first : Nat) : Option String :=
    (Text.Utf8.cut? text first position).map String.ofList
  let next := position + 1
  match reading.part with
  | .start =>
    if c = '[' then return { reading with part := .span next }
    else if isStart c then return { reading with part := .name position }
    else none
  | .name first =>
    if c = '=' then return { reading with part := .level next, target := some (← since first) }
    else if c = '[' then return { reading with part := .span next, target := some (← since first) }
    else return reading
  | .span first =>
    if c = ']' then return { reading with part := .spanEnd, span := some (← since first) }
    else if c = '\x7b' then
      let name ← since first
      return { reading with part := .field next, span := if name.isEmpty then none else some name }
    else return reading
  | .field first =>
    if c = '\x7d' then
      let text ← since first
      guard !text.isEmpty
      return { reading with part := .fieldEnd, field := some (← LogField.parse? text) }
    else return reading
  | .fieldEnd => if c = ']' then return { reading with part := .spanEnd } else none
  | .spanEnd => if c = '=' then return { reading with part := .level next } else none
  | .level _ => return reading

/-- Reads characters from a position on. -/
def run (text : List Char) : Nat → Reading → List Char → Option Reading
  | _, reading, [] => some reading
  | position, reading, c :: cs => do
    run text (position + c.utf8Size) (← reading.advance text position c) cs

/-- The directive at the end of a text. -/
def finish (text : List Char) (reading : Reading) : Option LogDirective :=
  let since (first : Nat) : Option String := (Text.Utf8.drop? first text).map String.ofList
  let directive (level : LogLevel) : LogDirective :=
    ⟨reading.target, reading.span, reading.field, level⟩
  match reading.part with
  | .name first => do
    let name ← since first
    match LogLevel.parse? name with
    | some level => return directive level
    | none => return { directive .trace with target := some name }
  | .level first => do
    let name ← since first
    if name.isEmpty then return directive .trace
    else return directive (← LogLevel.parse? name)
  | .spanEnd => some (directive .trace)
  | _ => none

end Reading

/-- Reads a directive. White space at either end is passed over, but not taken off: the parts are
where they would be without it, in the text that still has it. -/
def parse? (text : String) : Option LogDirective := do
  (← Reading.run text.toList 0 {} (Text.Blank.trim text.toList)).finish text.toList

end LogDirective

end TelemetryLink
