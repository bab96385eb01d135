import ShellInit.Load
import ShellInit.Proofs.Config.Loading
import ShellInit.Proofs.Config.Violations

/-!
# Decoding documents

When a document follows the schema, what it describes then, and what it describes does not depend on:
the keys that the schema does not name, and the order of the keys. A document that does not follow the
schema is refused for the violation that comes first.
-/

namespace ShellInit

open Toml (Value Table)

/-! ## Following the schema -/

/-- Whether a table is an item of the kind: it has all fields, each a text, and its options have their
shapes. -/
structure Kind.Accepts (kind : Kind) (t : Table) : Prop where
  fields : ∀ name ∈ kind.fieldNames, ∃ v, t.get? name = some v ∧ IsText v
  options : ∀ key shape, (key, shape) ∈ optionShapes → ∀ v, t.get? key = some v → shape.Fits v

/-- Whether each of the five lists is absent, or is a list of tables that are items of its kind. -/
def Toml.Table.FollowsSchema (t : Table) : Prop :=
  ∀ kind : Kind, ∀ v, t.get? (tag kind) = some v →
    ∃ items, v = .array items ∧ ∀ item ∈ items, ∃ u, item = .table u ∧ kind.Accepts u

/-- An item is accepted if it has no flaw. -/
theorem Kind.accepts_iff {kind : Kind} {t : Table} :
    kind.Accepts t ↔ ∀ spot mismatch, ¬ItemFlaw kind (.table t) spot mismatch := by
  constructor
  · rintro h spot mismatch (hv | ⟨hname, hv, htext⟩ | ⟨hname, hnone⟩ | ⟨hkey, hv, hflaw⟩)
    · exact hv t rfl
    · obtain ⟨v, hv', htext'⟩ := h.fields _ hname
      rw [hv, Option.some.injEq] at hv'
      exact htext (hv' ▸ htext')
    · obtain ⟨v, hv, _⟩ := h.fields _ hname
      cases hnone.symm.trans hv
    · exact hflaw.not_fits (h.options _ _ hkey _ hv)
  · intro h
    constructor
    · intro name hname
      cases hget : t.get? name with
      | none => exact absurd (.missing hname hget) (h _ _)
      | some v => exact ⟨v, rfl, by_contra fun htext ↦ h _ _ (.field hname hget htext)⟩
    · intro key shape hkey v hv
      exact Shape.fits_iff.mpr fun i violation hflaw ↦ h _ _ (.option hkey hv hflaw)

/-- A document follows the schema if nothing in it violates the schema. -/
theorem Toml.Table.followsSchema_iff {t : Table} :
    t.FollowsSchema ↔ ∀ spot mismatch, ¬TableFlaw t spot mismatch := by
  constructor
  · rintro h _ mismatch (@⟨kind, spot, _, hflaw⟩)
    cases hget : t.get? (tag kind) with
    | none =>
      rw [hget] at hflaw
      cases hflaw
    | some v =>
      obtain ⟨items, rfl, hitems⟩ := h kind v hget
      rw [hget] at hflaw
      rcases hflaw with hv | ⟨hv, hflaw⟩
      · exact hv items rfl
      · obtain ⟨u, rfl, haccepts⟩ := hitems _ (List.mem_of_getElem? hv)
        exact Kind.accepts_iff.mp haccepts _ _ hflaw
  · intro h kind v hget
    have hlist (spot : ℕ ×ₗ ItemSpot) (mismatch : Mismatch) :
        ¬ListFlaw kind (some v) spot mismatch :=
      fun hflaw ↦ h _ _ (.list (hget ▸ hflaw))
    rcases ne_array_or v with hv | ⟨items, rfl⟩
    · exact absurd (.noList hv) (hlist _ _)
    refine ⟨items, rfl, fun item hmem ↦ ?_⟩
    obtain ⟨i, hi⟩ := List.mem_iff_getElem?.mp hmem
    rcases ne_table_or item with hitem | ⟨u, rfl⟩
    · exact absurd (.item hi (.noTable hitem)) (hlist _ _)
    exact ⟨u, rfl, Kind.accepts_iff.mpr fun spot mismatch hflaw ↦ hlist _ _ (.item hi hflaw)⟩

/-! ## What a document describes -/

section Selections

variable {α : Type}

/-- What the value of an option selects: something bare is selected alone, and a list selects what its
items say, in their order and with repetitions. -/
inductive Selects (bare item : Value → α → Prop) : Value → Selection α → Prop
  | one {v : Value} {a : α} (h : bare v a) : Selects bare item v (.one a)
  | many {items : List Value} {as : List α} (h : List.Forall₂ item items as) :
    Selects bare item (.array items) (.many as)

theorem selectionOf_eq_ok_iff {bare : String → Except Violation α} {item : Value → Except Violation α}
    {v : Value} {s : Selection α} :
    selectionOf bare item v = .ok s ↔
      Selects (fun v a ↦ ∃ text, Reads v text ∧ bare text = .ok a) (item · = .ok ·) v s := by
  constructor
  · intro h
    by_cases htext : IsText v
    · obtain ⟨text, hv⟩ := htext
      rw [selectionOf_of_reads hv, map_eq_ok_iff] at h
      obtain ⟨a, ha, rfl⟩ := h
      exact .one ⟨text, hv, ha⟩
    rcases ne_array_or v with harray | ⟨items, rfl⟩
    · rw [selectionOf_neither htext harray] at h
      cases h
    rw [selectionOf_array, map_eq_ok_iff] at h
    obtain ⟨as, hitems, rfl⟩ := h
    exact .many (mapM_eq_ok_iff.mp hitems)
  · rintro (⟨text, hv, ha⟩ | hitems)
    · rw [selectionOf_of_reads hv, map_eq_ok_iff]
      exact ⟨_, ha, rfl⟩
    · rw [selectionOf_array, map_eq_ok_iff]
      exact ⟨_, mapM_eq_ok_iff.mpr hitems, rfl⟩

def Names [Tagged α] (v : Value) (a : α) : Prop := Reads v (tag a)

/-- A value names an alternative as an item of a list, by its name or by a table whose only key is the
name and that holds an empty table. -/
def NamesListed [Tagged α] (v : Value) (a : α) : Prop :=
  Reads v (tag a) ∨ v = .table [(tag a, .table [])]

theorem textsOf_eq_ok_iff {v : Value} {s : Selection String} :
    textsOf v = .ok s ↔ Selects Reads Reads v s := by
  rw [textsOf, selectionOf_eq_ok_iff]
  simp only [textOf_eq_ok_iff, Except.ok.injEq, exists_eq_right]

theorem tagsOf_eq_ok_iff [Tagged α] [LawfulTagged α] {v : Value} {s : Selection α} :
    tagsOf v = .ok s ↔ Selects Names NamesListed v s := by
  rw [tagsOf, selectionOf_eq_ok_iff]
  simp only [tagOf_eq_ok_iff, listedTagOf_eq_ok_iff, exists_eq_right']
  rfl

end Selections

/-- Options are what a table says at their keys, and there are none where a key is absent. -/
structure Options.DescribedBy (t : Table) (o : Options) : Prop where
  arch : Option.Rel (Selects Names NamesListed) (t.get? "arch") o.arch
  depends : Option.Rel (Selects Reads Reads) (t.get? "depends") o.depends
  ifExecutable : Option.Rel Reads (t.get? "if_executable") o.ifExecutable
  ifExists : Option.Rel Reads (t.get? "if_exists") o.ifExists
  label : Option.Rel Reads (t.get? "label") o.label
  os : Option.Rel (Selects Names NamesListed) (t.get? "os") o.os
  shell : Option.Rel (Selects Names NamesListed) (t.get? "shell") o.shell

/-- Options are decoded to what the table says. -/
theorem Options.ofTable_eq_ok_iff {t : Table} {o : Options} :
    Options.ofTable t = .ok o ↔ o.DescribedBy t := by
  simp only [ofTable, bind_eq_ok_iff, optional_eq_ok_iff (fun _ _ ↦ tagsOf_eq_ok_iff),
    optional_eq_ok_iff (fun _ _ ↦ textsOf_eq_ok_iff), optional_eq_ok_iff (fun _ _ ↦ textOf_eq_ok_iff)]
  constructor
  · rintro ⟨arch, harch, depends, hdepends, ifExecutable, hifExecutable, ifExists, hifExists, label,
      hlabel, os, hos, shell, hshell, ho⟩
    obtain rfl := Except.ok.inj ho
    exact ⟨harch, hdepends, hifExecutable, hifExists, hlabel, hos, hshell⟩
  · intro h
    exact ⟨_, h.arch, _, h.depends, _, h.ifExecutable, _, h.ifExists, _, h.label, _, h.os, _, h.shell,
      rfl⟩

section Lists

variable {α : Type}

def TextAt (t : Table) (key text : String) : Prop := ∃ v, t.get? key = some v ∧ Reads v text

def BindingAt (t : Table) (b : Binding) : Prop := TextAt t "from" b.value ∧ TextAt t "to" b.name

/-- An item says the fields and the options of a declaration. -/
def Declares (fields : Table → α → Prop) (v : Value) (d : Declared α) : Prop :=
  ∃ t, v = .table t ∧ fields t d.fields ∧ d.options.DescribedBy t

/-- A list says declarations, item by item, and an absent list says none. -/
inductive Lists (fields : Table → α → Prop) : Option Value → List (Declared α) → Prop
  | absent : Lists fields none []
  | items {items : List Value} {ds : List (Declared α)}
    (h : List.Forall₂ (Declares fields) items ds) : Lists fields (some (.array items)) ds

theorem textAt_iff {t : Table} {key text : String} :
    TextAt t key text ↔ Option.Rel Reads (t.get? key) (some text) := by
  rw [TextAt]
  generalize t.get? key = v?
  constructor
  · rintro ⟨v, rfl, htext⟩
    exact .some htext
  · rintro (⟨htext⟩ | _)
    exact ⟨_, rfl, htext⟩

theorem fieldOf_eq_ok_iff {kind : Kind} {t : Table} {name text : String} :
    fieldOf kind name t = .ok text ↔ TextAt t name text := by
  simp only [fieldOf, bind_eq_ok_iff, fieldOf?_eq_ok_iff, required_eq_ok_iff, exists_eq_right,
    textAt_iff]

theorem bindingOf_eq_ok_iff {kind : Kind} {t : Table} {b : Binding} :
    bindingOf kind t = .ok b ↔ BindingAt t b := by
  simp only [bindingOf, bind_eq_ok_iff, fieldOf?_eq_ok_iff, required_eq_ok_iff, BindingAt, textAt_iff]
  constructor
  · rintro ⟨_, hvalue, _, hname, value, rfl, name, rfl, hb⟩
    obtain rfl := Except.ok.inj hb
    exact ⟨hvalue, hname⟩
  · rintro ⟨hvalue, hname⟩
    exact ⟨_, hvalue, _, hname, _, rfl, _, rfl, rfl⟩

variable {kind : Kind} {fields : Table → Except Mismatch α} {meaning : Table → α → Prop}

theorem declaredOf_eq_ok_iff (hfields : ∀ t a, fields t = .ok a ↔ meaning t a) {v : Value}
    {d : Declared α} : declaredOf kind fields v = .ok d ↔ Declares meaning v d := by
  rcases ne_table_or v with hv | ⟨t, rfl⟩
  · rw [declaredOf_noTable hv]
    constructor
    · rintro ⟨⟩
    · rintro ⟨t, rfl, _⟩
      exact absurd rfl (hv t)
  have hoptions (o : Options) :
      (Options.ofTable t).mapError (Mismatch.mk · [tag kind]) = .ok o ↔ o.DescribedBy t := by
    rw [mapError_eq_ok_iff, Options.ofTable_eq_ok_iff]
  simp only [declaredOf, bind_eq_ok_iff, hfields, hoptions]
  constructor
  · rintro ⟨a, ha, o, ho, hd⟩
    obtain rfl := Except.ok.inj hd
    exact ⟨t, rfl, ha, ho⟩
  · rintro ⟨_, ⟨⟩, ha, ho⟩
    exact ⟨_, ha, _, ho, rfl⟩

/-- What a list is decoded to is what it says. -/
theorem listOf_eq_ok_iff_lists (hfields : ∀ t a, fields t = .ok a ↔ meaning t a) {t : Table}
    {ds : List (Declared α)} :
    listOf kind fields t = .ok ds ↔ Lists meaning (t.get? (tag kind)) ds := by
  cases hget : t.get? (tag kind) with
  | none =>
    rw [listOf_of_get?_eq_none hget]
    constructor
    · rintro ⟨⟩
      exact .absent
    · rintro ⟨⟩
      rfl
  | some v =>
    rcases ne_array_or v with hv | ⟨items, rfl⟩
    · rw [listOf_noList hget hv]
      constructor
      · rintro ⟨⟩
      · rintro ⟨⟩
        exact absurd rfl (hv _)
    rw [listOf_of_get?_eq_array hget, mapM_eq_ok_iff]
    simp only [declaredOf_eq_ok_iff hfields]
    constructor
    · exact .items
    · rintro ⟨⟩
      assumption

end Lists

/-- Each list of a configuration is what a table says at its key. -/
structure Config.DescribedBy (t : Table) (c : Config) : Prop where
  evaluates : Lists (TextAt · "command" ·) (t.get? "evaluates") c.evaluates
  sources : Lists (TextAt · "path" ·) (t.get? "sources") c.sources
  aliases : Lists BindingAt (t.get? "aliases") c.aliases
  environments : Lists BindingAt (t.get? "environments") c.environments
  paths : Lists (TextAt · "path" ·) (t.get? "paths") c.paths

/-- A document is decoded to the configuration that it describes. -/
theorem Config.ofTable_eq_ok_iff_describedBy {t : Table} {c : Config} :
    Config.ofTable t = .ok c ↔ c.DescribedBy t := by
  simp only [ofTable_eq_ok_iff, listOf_eq_ok_iff_lists (fun _ _ ↦ fieldOf_eq_ok_iff),
    listOf_eq_ok_iff_lists (fun _ _ ↦ bindingOf_eq_ok_iff)]
  constructor
  · rintro ⟨haliases, henvironments, hevaluates, hpaths, hsources⟩
    exact ⟨hevaluates, hsources, haliases, henvironments, hpaths⟩
  · intro h
    exact ⟨h.aliases, h.environments, h.evaluates, h.paths, h.sources⟩

/-! ## What the schema does not name -/

/-- The keys that the schema names in an item. -/
def Kind.keys (kind : Kind) : List String := kind.fieldNames ++ optionShapes.map Prod.fst

/-- Two values are the same item, but for keys that the schema does not name. -/
inductive Kind.SameItem (kind : Kind) : Value → Value → Prop
  | refl (v : Value) : SameItem kind v v
  | table {t u : Table} (h : ∀ key ∈ kind.keys, t.get? key = u.get? key) :
    SameItem kind (.table t) (.table u)

/-- Two values are the same list, but for such keys in its items. -/
inductive Kind.SameList (kind : Kind) : Option Value → Option Value → Prop
  | refl (v : Option Value) : SameList kind v v
  | items {items items' : List Value} (h : List.Forall₂ kind.SameItem items items') :
    SameList kind (some (.array items)) (some (.array items'))

/-- Two documents are the same, but for keys that the schema does not name. -/
def Toml.Table.AgreesOnSchema (t u : Table) : Prop :=
  ∀ kind : Kind, kind.SameList (t.get? (tag kind)) (u.get? (tag kind))

theorem optional_congr {α : Type} {decode : Value → Except Violation α} {t u : Table} {key : String}
    (h : t.get? key = u.get? key) : optional t key decode = optional u key decode := by
  rw [optional, optional, h]

theorem Options.ofTable_congr {t u : Table}
    (h : ∀ key ∈ optionShapes.map Prod.fst, t.get? key = u.get? key) :
    Options.ofTable t = Options.ofTable u := by
  simp only [optionShapes, List.map_cons, List.map_nil, List.forall_mem_cons] at h
  obtain ⟨harch, hdepends, hifExecutable, hifExists, hlabel, hos, hshell, _⟩ := h
  simp only [ofTable, optional_congr harch, optional_congr hdepends, optional_congr hifExecutable,
    optional_congr hifExists, optional_congr hlabel, optional_congr hos, optional_congr hshell]

section Sameness

variable {α : Type} {kind : Kind} {fields : Table → Except Mismatch α} {t u : Table}

theorem fieldOf?_congr {name : String} (h : t.get? name = u.get? name) :
    fieldOf? kind t name = fieldOf? kind u name := by
  rw [fieldOf?, fieldOf?, optional_congr h]

def ReadsFields (kind : Kind) (fields : Table → Except Mismatch α) : Prop :=
  ∀ t u : Table, (∀ name ∈ kind.fieldNames, t.get? name = u.get? name) → fields t = fields u

theorem declaredOf_congr (hfields : ReadsFields kind fields) {v w : Value} (h : kind.SameItem v w) :
    declaredOf kind fields v = declaredOf kind fields w := by
  cases h with
  | refl => rfl
  | @table t u h =>
    simp only [Kind.keys, List.forall_mem_append] at h
    rw [declaredOf, declaredOf, hfields t u h.1, Options.ofTable_congr h.2]

theorem mapM_declaredOf_congr (hfields : ReadsFields kind fields) {items items' : List Value}
    (h : List.Forall₂ kind.SameItem items items') :
    items.mapM (declaredOf kind fields) = items'.mapM (declaredOf kind fields) := by
  induction h with
  | nil => rfl
  | cons hitem _ ih => rw [List.mapM_cons, List.mapM_cons, declaredOf_congr hfields hitem, ih]

theorem listOf_congr (hfields : ReadsFields kind fields)
    (h : kind.SameList (t.get? (tag kind)) (u.get? (tag kind))) :
    listOf kind fields t = listOf kind fields u := by
  rw [listOf, listOf]
  generalize t.get? (tag kind) = v at h ⊢
  generalize u.get? (tag kind) = w at h ⊢
  cases h with
  | refl => rfl
  | items hitems => exact mapM_declaredOf_congr hfields hitems

end Sameness

/-- Decoding reads no keys but those that the schema names. -/
theorem Config.ofTable_congr {t u : Table} (h : t.AgreesOnSchema u) : ofTable t = ofTable u := by
  have hfield (kind : Kind) (name : String) (hname : name ∈ kind.fieldNames) :
      ReadsFields kind (fieldOf kind name) := by
    intro t u hsame
    rw [fieldOf, fieldOf, fieldOf?_congr (hsame name hname)]
  have hbinding (kind : Kind) (hnames : kind.fieldNames = ["from", "to"]) :
      ReadsFields kind (bindingOf kind) := by
    intro t u hsame
    rw [bindingOf, bindingOf, fieldOf?_congr (hsame "from" (by simp [hnames])),
      fieldOf?_congr (hsame "to" (by simp [hnames]))]
  simp only [ofTable, listOf_congr (hbinding .aliases rfl) (h .aliases),
    listOf_congr (hbinding .environments rfl) (h .environments),
    listOf_congr (hfield .evaluates "command" (by decide)) (h .evaluates),
    listOf_congr (hfield .paths "path" (by decide)) (h .paths),
    listOf_congr (hfield .sources "path" (by decide)) (h .sources)]

/-! ## Checking documents -/

namespace Config

/-- The documents that follow the schema are those that describe a configuration, which is what their
lists say. Any other document is refused for the violation at the first place. What the schema does not
name makes no difference. -/
theorem check_schema (t : Table) :
    ((∃ c, check t = .ok c) ↔ t.FollowsSchema) ∧
      (∀ c, check t = .ok c ↔ c.DescribedBy t) ∧
      (∀ error, check t = .error error ↔
        ∃ spot mismatch, TableFlaw t spot mismatch ∧
          (∀ spot' mismatch', TableFlaw t spot' mismatch' → spot ≤ spot') ∧
          error = .invalid mismatch.text) ∧
      ∀ u, t.AgreesOnSchema u → check u = check t := by
  refine ⟨?_, ?_, ?_, ?_⟩
  · simp only [check_eq_ok_iff]
    rw [Table.followsSchema_iff, (reports_ofTable t).exists_eq_ok_iff]
  · intro c
    rw [check_eq_ok_iff, ofTable_eq_ok_iff_describedBy]
  · intro error
    rw [check, mapError_eq_error_iff]
    simp only [(reports_ofTable t).eq_error_iff]
    constructor
    · rintro ⟨mismatch, ⟨spot, hflaw, hfirst⟩, herror⟩
      exact ⟨spot, mismatch, hflaw, hfirst, herror.symm⟩
    · rintro ⟨spot, mismatch, hflaw, hfirst, herror⟩
      exact ⟨mismatch, ⟨spot, hflaw, hfirst⟩, herror.symm⟩
  · intro u hsame
    rw [check, check, ofTable_congr hsame]

/-- A document that declares one directory, with a remark that the schema does not name. -/
def remarked (remark : Value) : Table :=
  [("remark", remark),
    ("paths", .array [.table [("path", .string "/opt/bin"), ("remark", remark)]])]

/-- A document whose only directory is no text, and is for an unknown system. -/
def misspelt : Table :=
  [("paths", .array [.table [("os", .string "beos"), ("path", .integer 3)]])]

/-- The remark makes no difference; without a text for its directory a document is refused for that,
not for the system, which comes later. -/
theorem check_schema_remarked :
    (remarked (.integer 3)).FollowsSchema ∧
      (remarked (.integer 3)).AgreesOnSchema (remarked (.array [])) ∧
      check (remarked (.array [])) = .ok { paths := [⟨"/opt/bin", {}⟩] } ∧
      ∃ spot mismatch, TableFlaw misspelt spot mismatch ∧
        (∀ spot' mismatch', TableFlaw misspelt spot' mismatch' → spot ≤ spot') ∧
        LoadError.invalid "invalid type: integer `3`, expected a string\nin `paths.path`" =
          .invalid mismatch.text := by
  have hcheck : check (remarked (.integer 3)) = .ok { paths := [⟨"/opt/bin", {}⟩] } := by
    decide +kernel
  have hsame : (remarked (.integer 3)).AgreesOnSchema (remarked (.array [])) := by
    intro kind
    cases kind with
    | paths =>
      refine .items (.cons (.table fun key hkey ↦ ?_) .nil)
      have hremark : (key == "remark") = false := by
        rw [beq_eq_false_iff_ne]
        rintro rfl
        exact absurd hkey (by decide)
      simp only [Table.get?, List.lookup_cons, hremark]
    | _ => exact .refl none
  obtain ⟨haccepted, _, _, hirrelevant⟩ := check_schema (remarked (.integer 3))
  refine ⟨haccepted.mp ⟨_, hcheck⟩, hsame, ?_, ?_⟩
  · rw [hirrelevant _ hsame, hcheck]
  · exact ((check_schema misspelt).2.2.1 _).mp (by decide +kernel)

end Config

end ShellInit
