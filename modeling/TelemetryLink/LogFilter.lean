import TelemetryLink.Config.Layer
import TelemetryLink.LogFilter.Directive

/-!
# Log filters

Which messages are logged: a list of directives. `LogFilter.choose` decides between the level of
the configuration, the environment and the wish for more.
-/

namespace TelemetryLink

/-- Which messages are logged: directives in the order in which they are tried, the most special
one first, and of equal ones the last. -/
structure LogFilter where
  /-- The directives that names alone decide. -/
  statics : List LogDirective
  /-- The directives for spans and fields. One that only asks whether there is a field is among
  both. -/
  dynamics : List LogDirective
  deriving DecidableEq, Repr

namespace LogFilter

/-- Adds a directive, in place of one that ranks the same. -/
def insert (directive : LogDirective) : List LogDirective → List LogDirective
  | [] => [directive]
  | d :: rest =>
    match directive.rank d with
    | .gt => directive :: d :: rest
    | .eq => directive :: rest
    | .lt => d :: insert directive rest

/-- Directives in their order. -/
def sort (directives : List LogDirective) : List LogDirective :=
  directives.foldl (fun sorted directive => insert directive sorted) []

/-- The filter of some directives. -/
def ofDirectives (directives : List LogDirective) : LogFilter :=
  ⟨sort (directives.filter LogDirective.isStatic), sort (directives.filter LogDirective.isDynamic)⟩

/-- The texts of directives, which commas separate. -/
def parts (text : String) : List String :=
  let rec go (part : List Char) : List Char → List (List Char)
    | [] => [part.reverse]
    | c :: cs => if c = ',' then part.reverse :: go [] cs else go (c :: part) cs
  ((go [] text.toList).filter (!·.isEmpty)).map String.ofList

/-- Reads a filter, all of whose directives have to be well formed. -/
def parse? (text : String) : Option LogFilter :=
  ((parts text).mapM LogDirective.parse?).map ofDirectives

/-- Reads a filter and leaves out what is not well formed. Without any directive, errors are
logged. -/
def ofLevel (text : String) : LogFilter :=
  match (parts text).filterMap LogDirective.parse? with
  | [] => ofDirectives [⟨none, none, none, .error⟩]
  | directives => ofDirectives directives

/-- The variable of the environment that may hold a filter. -/
def variableName : String := "RUST_LOG"

/-- The filter: more for whoever asks for it, else that of the environment, else the level. -/
def choose (verbose : Bool) (level : String) (env : Environment) : LogFilter :=
  if verbose then ofLevel "debug"
  else ((env variableName).bind parse?).getD (ofLevel level)

/-- The filter as it is shown. -/
def text (filter : LogFilter) : String :=
  ",".intercalate ((filter.statics ++ filter.dynamics).map LogDirective.text)

/-- The field that every message has. -/
def messageField : String := "message"

/-- Whether errors of a target are logged that belong to no span and have no other fields: the
first directive that fits decides. -/
def admitsErrors (filter : LogFilter) (target : String) : Bool :=
  let fits (directive : LogDirective) : Bool :=
    (directive.target.all fun name => name.toList.isPrefixOf target.toList) &&
      directive.field.all (·.name == messageField)
  (filter.statics.find? fits).any (·.level != .off)

end LogFilter

end TelemetryLink
