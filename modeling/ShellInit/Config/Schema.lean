import ShellInit.Binary64.Shortest
import ShellInit.Config
import ShellInit.Text.Quoted
import ShellInit.Toml.Value

/-!
# The schema of a configuration

A document describes a configuration if its five lists hold tables with the fields of their kind and
well-typed options. The first violation is reported: kinds by name, then the items in order, and in
an item the fields before the options, both by name. What the schema does not name is ignored.
-/

namespace ShellInit

open Toml (Value Table)

/-! ## Violations -/

/-- What is wrong with a value. The last four concern the items of a selection that stands alone. -/
inductive Violation
  | wrongType (found : Value) (expected : String)
  | missingField (name : String)
  | unknownTag (name : String) (known : List String)
  | notSingleKey
  | noTag
  | noKey
  | severalKeys
  | notEmpty (found : Value)

/-- A violation, and the keys that lead to it. -/
structure Mismatch where
  violation : Violation
  place : List String

def describe : Value → String
  | .string text => "string " ++ Text.quoted text
  | .moment m => "string " ++ Text.quoted m.text
  | .integer n => s!"integer `{n}`"
  | .float bits => s!"floating point `{Binary64.render bits.toNat}`"
  | .boolean b => s!"boolean `{b}`"
  | .array _ => "sequence"
  | .table _ => "map"

def typeName : Value → String
  | .string _ => "string"
  | .integer _ => "integer"
  | .float _ => "float"
  | .boolean _ => "boolean"
  | .moment _ => "datetime"
  | .array _ => "array"
  | .table _ => "table"

def alternatives : List String → String
  | [] => ""
  | [a] => s!"`{a}`"
  | [a, b] => s!"`{a}` or `{b}`"
  | names => "one of " ++ ", ".intercalate (names.map fun name ↦ s!"`{name}`")

def Violation.text : Violation → String
  | .wrongType found expected => s!"invalid type: {describe found}, expected {expected}"
  | .missingField name => s!"missing field `{name}`"
  | .unknownTag name known => s!"unknown variant `{name}`, expected {alternatives known}"
  | .notSingleKey => "invalid value: map, expected map with a single key"
  | .noTag => "invalid type: unit variant, expected string only"
  | .noKey => "wanted exactly 1 element, found 0 elements"
  | .severalKeys => "wanted exactly 1 element, more than 1 element"
  | .notEmpty (.array _) => "expected empty array"
  | .notEmpty (.table _) => "expected empty table"
  | .notEmpty found => s!"expected table, found {typeName found}"

def Mismatch.text (m : Mismatch) : String :=
  m.violation.text ++ "\nin `" ++ ".".intercalate m.place ++ "`"

/-! ## Texts and tags -/

/-- The text of a string; a date or time counts as one. -/
def asText? : Value → Option String
  | .string text => some text
  | .moment m => some m.text
  | _ => none

def textOf (v : Value) : Except Violation String :=
  match asText? v with
  | some text => .ok text
  | none => .error (.wrongType v "a string")

variable {α : Type}

def tagOf [Tagged α] (name : String) : Except Violation α :=
  match ofTag? name with
  | some a => .ok a
  | none => .error (.unknownTag name ((Tagged.all : List α).map tag))

/-- A tag as an item of a list, where a table from the tag to an empty table may stand for it. -/
def listedTagOf [Tagged α] (v : Value) : Except Violation α :=
  match v, asText? v with
  | _, some name => tagOf name
  | .table [(name, content)], none => do
    let a ← tagOf name
    match content with
    | .table [] => return a
    | _ => throw (.wrongType content "unit")
  | .table _, none => .error .notSingleKey
  | _, none => .error (.wrongType v "string or map")

/-! ## Selections -/

/-- A bare text or a list of items. -/
def selectionOf (bare : String → Except Violation α) (item : Value → Except Violation α)
    (v : Value) : Except Violation (Selection α) :=
  match v, asText? v with
  | .array items, _ => .many <$> items.mapM item
  | _, some text => .one <$> bare text
  | _, none => .error (.wrongType v "a string or a list of strings")

def tagsOf [Tagged α] (v : Value) : Except Violation (Selection α) :=
  selectionOf tagOf listedTagOf v

/-- A tag as an item of a selection that stands alone, not in a directive. A table from the tag to
an empty table or array may stand for it, but no date or time counts as its text. -/
def loneTagOf [Tagged α] : Value → Except Violation α
  | .string name => tagOf name
  | .table [] => .error .noKey
  | .table [(name, content)] => do
    let a ← tagOf name
    match content with
    | .table [] | .array [] => return a
    | _ => throw (.notEmpty content)
  | .table _ => .error .severalKeys
  | _ => .error .noTag

def loneTagsOf [Tagged α] (v : Value) : Except Violation (Selection α) :=
  selectionOf tagOf loneTagOf v

def textsOf (v : Value) : Except Violation (Selection String) := selectionOf .ok textOf v

/-! ## Directives -/

def optional (t : Table) (key : String) (decode : Value → Except Violation α) :
    Except Violation (Option α) :=
  (t.get? key).mapM decode

def Options.ofTable (t : Table) : Except Violation Options := do
  let arch ← optional t "arch" tagsOf
  let depends ← optional t "depends" textsOf
  let ifExecutable ← optional t "if_executable" textOf
  let ifExists ← optional t "if_exists" textOf
  let label ← optional t "label" textOf
  let os ← optional t "os" tagsOf
  let shell ← optional t "shell" tagsOf
  return { os, arch, shell, ifExecutable, ifExists, label, depends }

/-- The field of an item, if present, at its place in the document. -/
def fieldOf? (kind : Kind) (t : Table) (name : String) : Except Mismatch (Option String) :=
  (optional t name textOf).mapError (⟨·, [tag kind, name]⟩)

def required (kind : Kind) (name : String) : Option String → Except Mismatch String
  | some text => .ok text
  | none => .error ⟨.missingField name, [tag kind]⟩

def fieldOf (kind : Kind) (name : String) (t : Table) : Except Mismatch String := do
  required kind name (← fieldOf? kind t name)

def bindingOf (kind : Kind) (t : Table) : Except Mismatch Binding := do
  let value? ← fieldOf? kind t "from"
  let name? ← fieldOf? kind t "to"
  let value ← required kind "from" value?
  let name ← required kind "to" name?
  return { value, name }

/-- What messages call an item of the kind. -/
def Kind.itemName : Kind → String
  | .evaluates => "Evaluate"
  | .sources => "Source"
  | .aliases => "Alias"
  | .environments => "Environment"
  | .paths => "SearchPath"

/-- An item of a list: its fields, then its options. -/
def declaredOf (kind : Kind) (fields : Table → Except Mismatch α) :
    Value → Except Mismatch (Declared α)
  | .table t => do
    let fields ← fields t
    let options ← (Options.ofTable t).mapError (⟨·, [tag kind]⟩)
    return { fields, options }
  | v => .error ⟨.wrongType v s!"struct {kind.itemName}", [tag kind]⟩

/-- The list of a kind; none where its key is absent. -/
def listOf (kind : Kind) (fields : Table → Except Mismatch α) (t : Table) :
    Except Mismatch (List (Declared α)) :=
  match t.get? (tag kind) with
  | none => .ok []
  | some (.array items) => items.mapM (declaredOf kind fields)
  | some v => .error ⟨.wrongType v "a sequence", [tag kind]⟩

/-- The configuration that a document describes, or its first violation of the schema. -/
def Config.ofTable (t : Table) : Except Mismatch Config := do
  let aliases ← listOf .aliases (bindingOf .aliases) t
  let environments ← listOf .environments (bindingOf .environments) t
  let evaluates ← listOf .evaluates (fieldOf .evaluates "command") t
  let paths ← listOf .paths (fieldOf .paths "path") t
  let sources ← listOf .sources (fieldOf .sources "path") t
  return { evaluates, sources, aliases, environments, paths }

end ShellInit
