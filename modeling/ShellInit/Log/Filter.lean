import ShellInit.Log.Event
import ShellInit.Log.Pattern
import ShellInit.Text.Alphanumeric
import ShellInit.Text.Blank

/-!
# Log filters

Which events are shown. A filter is a list of directives, each with a target and the most detailed
level shown for it; of the directives that concern an event the most specific decides. A directive
may also ask, in brackets, for a field or for a span, that is, a period of the run with a name.
-/

namespace ShellInit

/-- What a directive asks for in its brackets. -/
inductive LogScope
  /-- Nothing. -/
  | everything
  /-- A field that the event has. -/
  | field (name : String)
  /-- A span around the event. -/
  | span
deriving DecidableEq, Repr

/-- A target, all if it is absent, a scope, and the rank of the most detailed level shown. -/
structure LogDirective where
  target : Option String
  scope : LogScope
  rank : Nat
deriving DecidableEq, Repr

abbrev LogFilter := List LogDirective

/-- Names of the ranks, the one that shows nothing first. -/
def rankNames : List String := ["off", "error", "warn", "info", "debug", "trace"]

def fullRank : Nat := 5

/-- The number that digits denote; a plus sign may come first. -/
def plainNumber? (s : List Char) : Option Nat :=
  let digits := if s.head? = some '+' then s.tail else s
  if digits.isEmpty || !digits.all Char.isDigit then none
  else some (digits.foldl (fun n c ↦ 10 * n + (c.toNat - '0'.toNat)) 0)

/-- The rank of a level, given by its name in any case or by its number. -/
def rankOf? (s : String) : Option Nat :=
  match plainNumber? s.toList with
  | some n => if n ≤ fullRank then some n else none
  | none => rankNames.findIdx? (· = String.ofList (s.toList.map Char.toLower))

/-- The rank of a level behind an equals sign; one that is left empty shows all. -/
def rankBehind? (level : List Char) : Option Nat :=
  if level.isEmpty then some fullRank else rankOf? (.ofList level)

/-- The scope at the front of what follows an opening bracket, with what follows its closing
bracket. A span is asked for by its name, which may be empty, or by the value of a field; of what
stands between equals signs behind the field the first piece is its value. -/
def LogScope.read? (s : List Char) : Option (LogScope × List Char) := do
  match s.span fun c ↦ c ≠ ']' && c ≠ '\x7b' with
  | (_, ']' :: after) => return (.span, after)
  | (name, '\x7b' :: inside) =>
    let (inside, after) := inside.span (· ≠ '\x7d')
    guard !inside.isEmpty
    let value := inside.dropWhile (· ≠ '=')
    guard (Pattern.isValue (value.tail.takeWhile (· ≠ '=')))
    let scope := if name.isEmpty && value.isEmpty then .field (.ofList inside) else .span
    match after with
    | _ :: ']' :: after => return (scope, after)
    | _ => failure
  | _ => failure

namespace LogDirective

def beginsTarget (c : Char) : Bool := Text.isAlphanumeric c || c = '-' || c = ':' || c = '_'

/-- A directive: a level, a target, or a target, a scope and a level, of which two may be missing. A
missing level shows all. Blanks at the ends leave no level readable: they belong to a target, and
those in front keep a scope from being met. -/
def ofText? (s : String) : Option LogDirective := do
  let text := (Text.trim s).toList
  let padded := text ≠ s.toList
  let (front, after) := text.span fun c ↦ c ≠ '=' && c ≠ '['
  guard (front.head?.any beginsTarget || text.head? = some '[')
  let target := if front.isEmpty then none else some (.ofList front)
  match after with
  | [] =>
    match if padded then none else rankOf? s with
    | some rank => return ⟨none, .everything, rank⟩
    | none => return ⟨some s, .everything, fullRank⟩
  | '[' :: inside =>
    let (scope, after) ← LogScope.read? inside
    let scope := if s.toList.head?.any Text.isBlank then .span else scope
    match after with
    | [] => return ⟨target, scope, fullRank⟩
    | '=' :: level => guard !padded; return ⟨target, scope, ← rankBehind? level⟩
    | _ => failure
  | _ :: level => guard !padded; return ⟨target, .everything, ← rankBehind? level⟩

/-- Whether the directive is about the event. No event happens inside a span. -/
def concerns (d : LogDirective) (e : Event) : Bool :=
  d.target.all (fun t ↦ t.toList.isPrefixOf e.target.toList) &&
    match d.scope with
    | .everything => true
    | .field name => e.hasField name
    | .span => false

/-- How much a directive asks for: a longer target counts before a field. -/
def specificity (d : LogDirective) : Nat :=
  2 * (d.target.map fun t ↦ t.utf8ByteSize + 1).getD 0 + if d.scope = .everything then 0 else 1

end LogDirective

namespace LogFilter

/-- The filter that a text describes; none if one of its directives is malformed. -/
def ofText? (s : String) : Option LogFilter :=
  ((s.splitOn ",").filter (· ≠ "")).mapM LogDirective.ofText?

def default (verbose : Bool) : LogFilter :=
  [⟨none, .everything, if verbose then Level.debug.rank else Level.warn.rank⟩]

def choose (asked : Option String) (verbose : Bool) : LogFilter :=
  (asked.bind ofText?).getD (default verbose)

/-- Of two directives the one that decides: the more specific, or else the later. -/
def prevailing (best : Option LogDirective) (d : LogDirective) : Option LogDirective :=
  match best with
  | none => some d
  | some b => if b.specificity ≤ d.specificity then some d else some b

def decisive (f : LogFilter) (e : Event) : Option LogDirective :=
  (f.filter (·.concerns e)).foldl prevailing none

def shows (f : LogFilter) (e : Event) : Bool :=
  (f.decisive e).any (e.level.rank ≤ ·.rank)

end LogFilter

end ShellInit
