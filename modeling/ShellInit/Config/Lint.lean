import ShellInit.Config
import ShellInit.Text.Blank

/-!
# Findings in a configuration

What is legal in a configuration but hardly meant: labels that are empty, shared or waited for by
their own directive, and fields without visible text.
-/

namespace ShellInit

/-- Something that is hardly meant. -/
inductive Finding
  | emptyLabel (d : Directive)
  | ownLabel (d : Directive)
  | sharedLabel (label : String) (count : Nat)
  | blankField (d : Directive) (field : String)
deriving DecidableEq, Repr

/-- A short name of a directive: its label, or else its fields. -/
def Directive.title (d : Directive) : String :=
  match d.options.label with
  | some label => s!"label={label}"
  | none => " ".intercalate (d.action.fields.map (·.2))

namespace Finding

def place : Finding → String
  | .emptyLabel d | .ownLabel d | .blankField d _ => tag d.action.kind
  | .sharedLabel _ _ => "labels"

def item : Finding → String
  | .emptyLabel d | .ownLabel d | .blankField d _ => d.title
  | .sharedLabel label _ => label

def message : Finding → String
  | .emptyLabel _ => "empty label cannot be depended on"
  | .ownLabel _ => "entry depends on its own label"
  | .sharedLabel _ count => s!"declared by {count} entries; dependents wait for all of them"
  | .blankField _ field => s!"`{field}` is empty"

end Finding

/-- Puts a text into an ascending list without repetitions. -/
def insertText (s : String) : List String → List String
  | [] => [s]
  | t :: rest =>
    if s < t then s :: t :: rest else if s = t then t :: rest else t :: insertText s rest

/-- The texts in ascending order of their code points, each once. -/
def ascending (texts : List String) : List String := texts.foldr insertText []

/-- The labels others can wait for, one for each directive that has one. -/
def labels (ds : List Directive) : List String := (ds.filter (·.isLabeled)).map (·.label)

def ownLabelFinding? (d : Directive) : Option Finding :=
  match d.options.label with
  | none => none
  | some label =>
    if label = "" then some (.emptyLabel d)
    else if d.dependsOn label then some (.ownLabel d)
    else none

/-- A finding for each label that several directives have, by label. -/
def sharedLabelFindings (ds : List Directive) : List Finding :=
  (ascending (labels ds)).filterMap fun label ↦
    let count := (labels ds).count label
    if 1 < count then some (.sharedLabel label count) else none

def labelFindings (ds : List Directive) : List Finding :=
  ds.filterMap ownLabelFinding? ++ sharedLabelFindings ds

def fieldFindings (ds : List Directive) : List Finding :=
  ds.flatMap fun d ↦
    (d.action.fields.filter fun (_, value) ↦ Text.allBlank value).map fun (field, _) ↦
      .blankField d field

def Config.findings (c : Config) : List Finding :=
  labelFindings c.directives ++ fieldFindings c.directives

def Config.findingCounts (c : Config) : List String :=
  [s!"labels validator: {(labelFindings c.directives).length} warning(s)",
   s!"fields validator: {(fieldFindings c.directives).length} warning(s)"]

end ShellInit
