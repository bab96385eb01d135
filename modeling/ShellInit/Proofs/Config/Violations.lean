import Mathlib.Data.String.Basic
import ShellInit.Proofs.Config.Shapes

/-!
# Violations of the schema

All violations of the schema in a document, each with the place at which it is found. The places are
ordered as a document is examined: list by list in the order of the keys, item by item, in an item
first the fields that are there, then those that are missing, then the options, each by key, and in the
value of an option from left to right. Decoding a document reports the violation that comes first.
-/

namespace ShellInit

open Toml (Value Table)

/-! ## Places -/

/-- What is examined in an item, in this order. -/
inductive Stage
  | present
  | missing
  | option
deriving DecidableEq, Repr

def Stage.rank : Stage → ℕ
  | .present => 0
  | .missing => 1
  | .option => 2

instance : LinearOrder Stage :=
  LinearOrder.lift' Stage.rank fun s t h ↦ by cases s <;> cases t <;> first | rfl | cases h

/-- A place in an item: the stage, the key, and the position in its value. -/
abbrev ItemSpot := Stage ×ₗ String ×ₗ ℕ

/-- A place in a document: the key of a list, the position of an item, and the place in the item. -/
abbrev Spot := String ×ₗ ℕ ×ₗ ItemSpot

def itemSpot (stage : Stage) (key : String) (position : ℕ) : ItemSpot :=
  toLex (stage, toLex (key, position))

/-! ## Violations -/

/-- The fields of an item, in the order of their keys. -/
def Kind.fieldNames : Kind → List String
  | .evaluates => ["command"]
  | .sources | .paths => ["path"]
  | .aliases | .environments => ["from", "to"]

/-- The options of an item, in the order of their keys. -/
def optionShapes : List (String × Shape) :=
  [("arch", .tags (tagNames Arch)), ("depends", .texts), ("if_executable", .text),
    ("if_exists", .text), ("label", .text), ("os", .tags (tagNames Os)),
    ("shell", .tags (tagNames Shell))]

inductive ItemFlaw (kind : Kind) : Value → ItemSpot → Mismatch → Prop
  | noTable {v : Value} (hv : ∀ t : Table, v ≠ .table t) :
    ItemFlaw kind v (itemSpot .present "" 0) ⟨.wrongType v s!"struct {kind.itemName}", [tag kind]⟩
  | field {t : Table} {name : String} {v : Value} (hname : name ∈ kind.fieldNames)
    (hv : t.get? name = some v) (htext : ¬IsText v) :
    ItemFlaw kind (.table t) (itemSpot .present name 0)
      ⟨.wrongType v "a string", [tag kind, name]⟩
  | missing {t : Table} {name : String} (hname : name ∈ kind.fieldNames)
    (hnone : t.get? name = none) :
    ItemFlaw kind (.table t) (itemSpot .missing name 0) ⟨.missingField name, [tag kind]⟩
  | option {t : Table} {key : String} {shape : Shape} {v : Value} {position : ℕ}
    {violation : Violation} (hkey : (key, shape) ∈ optionShapes) (hv : t.get? key = some v)
    (hflaw : shape.Flaw v position violation) :
    ItemFlaw kind (.table t) (itemSpot .option key position) ⟨violation, [tag kind]⟩

inductive ListFlaw (kind : Kind) : Option Value → ℕ ×ₗ ItemSpot → Mismatch → Prop
  | noList {v : Value} (hv : ∀ items, v ≠ .array items) :
    ListFlaw kind (some v) (toLex (0, itemSpot .present "" 0))
      ⟨.wrongType v "a sequence", [tag kind]⟩
  | item {items : List Value} {i : ℕ} {v : Value} {spot : ItemSpot} {mismatch : Mismatch}
    (hv : items[i]? = some v) (hflaw : ItemFlaw kind v spot mismatch) :
    ListFlaw kind (some (.array items)) (toLex (i, spot)) mismatch

inductive TableFlaw (t : Table) : Spot → Mismatch → Prop
  | list {kind : Kind} {spot : ℕ ×ₗ ItemSpot} {mismatch : Mismatch}
    (hflaw : ListFlaw kind (t.get? (tag kind)) spot mismatch) :
    TableFlaw t (toLex (tag kind, spot)) mismatch

/-! ## Options -/

def OptionFlaw (options : List (String × Shape)) (t : Table) (spot : String ×ₗ ℕ)
    (violation : Violation) : Prop :=
  ∃ shape v, ((ofLex spot).1, shape) ∈ options ∧ t.get? (ofLex spot).1 = some v ∧
    shape.Flaw v (ofLex spot).2 violation

section Optional

variable {α β : Type} {t : Table} {key : String} {shape : Shape} {decode : Value → Except Violation α}

theorem reports_optional (hdecode : ∀ v, Reports (decode v) (shape.Flaw v)) :
    Reports (optional t key decode) (OptionFlaw [(key, shape)] t) := by
  rw [optional]
  cases hget : t.get? key with
  | none =>
    apply (Reports.ok none).congr
    intro spot violation
    rw [false_iff]
    rintro ⟨shape', v, hmem, hv, _⟩
    rw [(Prod.mk.inj (List.mem_singleton.mp hmem)).1, hget] at hv
    cases hv
  | some v =>
    rw [Option.mapM_some]
    apply (((hdecode v).map some).within (fun i ↦ toLex (key, i)) _).congr
    · intro spot violation
      constructor
      · rintro ⟨i, rfl, hflaw⟩
        exact ⟨shape, v, List.mem_singleton.mpr rfl, hget, hflaw⟩
      · rintro ⟨shape', v', hmem, hv, hflaw⟩
        obtain ⟨hkey, rfl⟩ := Prod.mk.inj (List.mem_singleton.mp hmem)
        rw [hkey, hget, Option.some.injEq] at hv
        exact ⟨(ofLex spot).2, Prod.ext hkey rfl, hv ▸ hflaw⟩
    · intro i j hij
      exact Prod.Lex.toLex_lt_toLex.mpr (.inr ⟨rfl, hij⟩)

/-- An option is looked at before those with later keys. -/
theorem reports_optional_bind {options : List (String × Shape)}
    {next : Option α → Except Violation β} (hdecode : ∀ v, Reports (decode v) (shape.Flaw v))
    (hkeys : ∀ option ∈ options, key < option.1)
    (hnext : ∀ a, Reports (next a) (OptionFlaw options t)) :
    Reports (optional t key decode >>= next) (OptionFlaw ((key, shape) :: options) t) := by
  apply ((reports_optional hdecode).bind (fun a _ ↦ hnext a) ?_).congr
  · intro spot violation
    simp only [OptionFlaw, List.mem_cons, List.not_mem_nil, or_false, or_and_right, exists_or]
  · rintro spot _ spot' _ ⟨_, _, hmem, _⟩ ⟨shape', _, hmem', _⟩
    rw [Prod.Lex.lt_iff, (Prod.mk.inj (List.mem_singleton.mp hmem)).1]
    exact .inl (hkeys _ hmem')

end Optional

/-- Options are examined in the order of their keys. -/
theorem reports_options (t : Table) : Reports (Options.ofTable t) (OptionFlaw optionShapes t) := by
  apply reports_optional_bind (reports_tagsOf Arch) (by decide)
  intro arch
  apply reports_optional_bind reports_textsOf (by decide)
  intro depends
  apply reports_optional_bind reports_textOf (by decide)
  intro ifExecutable
  apply reports_optional_bind reports_textOf (by decide)
  intro ifExists
  apply reports_optional_bind reports_textOf (by decide)
  intro label
  apply reports_optional_bind (reports_tagsOf Os) (by decide)
  intro os
  apply reports_optional_bind (reports_tagsOf Shell) (by simp)
  intro shell
  apply (Reports.ok _).congr
  simp [OptionFlaw]

/-! ## Fields -/

/-- Places in an item are ordered by stage, then key, then position. -/
theorem itemSpot_lt_iff {s s' : Stage} {key key' : String} {i i' : ℕ} :
    itemSpot s key i < itemSpot s' key' i' ↔
      s < s' ∨ s = s' ∧ (key < key' ∨ key = key' ∧ i < i') := by
  rw [itemSpot, itemSpot, Prod.Lex.toLex_lt_toLex, Prod.Lex.toLex_lt_toLex]

def PresentFlaw (kind : Kind) (t : Table) (name : String) (spot : ItemSpot) (mismatch : Mismatch) :
    Prop :=
  spot = itemSpot .present name 0 ∧ ∃ v, t.get? name = some v ∧ ¬IsText v ∧
    mismatch = ⟨.wrongType v "a string", [tag kind, name]⟩

def MissingFlaw (kind : Kind) (t : Table) (name : String) (spot : ItemSpot) (mismatch : Mismatch) :
    Prop :=
  spot = itemSpot .missing name 0 ∧ t.get? name = none ∧
    mismatch = ⟨.missingField name, [tag kind]⟩

/-- What is wrong with the fields of an item. -/
def FieldFlaw (kind : Kind) (names : List String) (t : Table) (spot : ItemSpot)
    (mismatch : Mismatch) : Prop :=
  (∃ name ∈ names, PresentFlaw kind t name spot mismatch) ∨
    ∃ name ∈ names, MissingFlaw kind t name spot mismatch

section Fields

variable {kind : Kind} {t : Table} {name : String}

theorem reports_fieldOf? (kind : Kind) (t : Table) (name : String) :
    Reports (fieldOf? kind t name) (PresentFlaw kind t name) := by
  apply (Reports.single (fieldOf? kind t name) (itemSpot .present name 0)).congr
  intro spot mismatch
  rw [PresentFlaw, fieldOf?, optional]
  cases t.get? name with
  | none => simp [pure, Except.pure, Except.mapError]
  | some v =>
    rw [Option.mapM_some]
    cases htext : textOf v with
    | ok text =>
      have hv : IsText v := ⟨text, textOf_eq_ok_iff.mp htext⟩
      simp [hv, Except.mapError, Functor.map, Except.map]
    | error violation =>
      obtain ⟨hv, rfl⟩ := textOf_eq_error_iff.mp htext
      simp [hv, Except.mapError, Functor.map, Except.map, eq_comm]

theorem fieldOf?_eq_ok_iff {value? : Option String} :
    fieldOf? kind t name = .ok value? ↔ Option.Rel Reads (t.get? name) value? := by
  rw [fieldOf?, mapError_eq_ok_iff, optional_eq_ok_iff fun _ _ ↦ textOf_eq_ok_iff]

theorem required_eq_ok_iff {text : String} {value? : Option String} :
    required kind name value? = .ok text ↔ value? = some text := by
  cases value? <;> simp [required]

theorem eq_none_of_fieldOf?_eq_ok {value? : Option String}
    (h : fieldOf? kind t name = .ok value?) : value? = none ↔ t.get? name = none := by
  rw [fieldOf?_eq_ok_iff] at h
  generalize t.get? name = v? at h ⊢
  cases h <;> simp

theorem reports_required {value? : Option String} (h : value? = none ↔ t.get? name = none) :
    Reports (required kind name value?) (MissingFlaw kind t name) := by
  apply (Reports.single (required kind name value?) (itemSpot .missing name 0)).congr
  intro spot mismatch
  rw [MissingFlaw, ← h]
  cases value? <;> simp [required, eq_comm]

theorem reports_fieldOf (kind : Kind) (t : Table) (name : String) :
    Reports (fieldOf kind name t) (FieldFlaw kind [name] t) := by
  apply ((reports_fieldOf? kind t name).bind (fun value? hvalue ↦
    reports_required (eq_none_of_fieldOf?_eq_ok hvalue)) ?_).congr
  · simp [FieldFlaw]
  · rintro _ _ _ _ ⟨rfl, _⟩ ⟨rfl, _⟩
    exact itemSpot_lt_iff.mpr (.inl (by decide))

/-- Fields that are there are examined first, and then missing ones are noticed. -/
theorem reports_bindingOf (kind : Kind) (t : Table) :
    Reports (bindingOf kind t) (FieldFlaw kind ["from", "to"] t) := by
  have hmissing {value? name? : Option String} (hvalue : fieldOf? kind t "from" = .ok value?)
      (hname : fieldOf? kind t "to" = .ok name?) :
      Reports (do
          let value ← required kind "from" value?
          let name ← required kind "to" name?
          return Binding.mk value name) fun spot mismatch ↦
        MissingFlaw kind t "from" spot mismatch ∨ MissingFlaw kind t "to" spot mismatch := by
    apply (reports_required (eq_none_of_fieldOf?_eq_ok hvalue)).bind
    · intro value _
      rw [bind_pure_comp]
      exact (reports_required (eq_none_of_fieldOf?_eq_ok hname)).map (Binding.mk value)
    · rintro _ _ _ _ ⟨rfl, _⟩ ⟨rfl, _⟩
      exact itemSpot_lt_iff.mpr (by decide)
  have hto {value? : Option String} (hvalue : fieldOf? kind t "from" = .ok value?) :=
    (reports_fieldOf? kind t "to").bind (fun name? hname ↦ hmissing hvalue hname) <| by
      rintro _ _ _ _ ⟨rfl, _⟩ (⟨rfl, _⟩ | ⟨rfl, _⟩) <;> exact itemSpot_lt_iff.mpr (by decide)
  apply ((reports_fieldOf? kind t "from").bind (fun value? hvalue ↦ hto hvalue) _).congr
  · intro spot mismatch
    simp only [FieldFlaw, List.mem_cons, List.not_mem_nil, or_false, exists_eq_or_imp, exists_eq_left,
      or_assoc]
  · rintro _ _ _ _ ⟨rfl, _⟩ (⟨rfl, _⟩ | ⟨rfl, _⟩ | ⟨rfl, _⟩) <;>
      exact itemSpot_lt_iff.mpr (by decide)

end Fields

/-! ## Items, lists and documents -/

section Lists

variable {α β : Type} {kind : Kind} {fields : Table → Except Mismatch α}

theorem declaredOf_noTable {v : Value} (hv : ∀ t : Table, v ≠ .table t) :
    declaredOf kind fields v = .error ⟨.wrongType v s!"struct {kind.itemName}", [tag kind]⟩ := by
  cases v with
  | table t => exact absurd rfl (hv t)
  | _ => rfl

theorem listOf_of_get?_eq_none {t : Table} (h : t.get? (tag kind) = none) :
    listOf kind fields t = .ok [] := by
  rw [listOf, h]

theorem listOf_of_get?_eq_array {t : Table} {items : List Value}
    (h : t.get? (tag kind) = some (.array items)) :
    listOf kind fields t = items.mapM (declaredOf kind fields) := by
  rw [listOf, h]

theorem listOf_noList {t : Table} {v : Value} (h : t.get? (tag kind) = some v)
    (hv : ∀ items, v ≠ .array items) :
    listOf kind fields t = .error ⟨.wrongType v "a sequence", [tag kind]⟩ := by
  rw [listOf, h]
  cases v with
  | array items => exact absurd rfl (hv items)
  | _ => rfl

/-- An item is examined field by field, and then option by option. -/
theorem reports_declaredOf (hfields : ∀ t, Reports (fields t) (FieldFlaw kind kind.fieldNames t))
    (v : Value) : Reports (declaredOf kind fields v) (ItemFlaw kind v) := by
  rcases ne_table_or v with hv | ⟨t, rfl⟩
  · apply (Reports.single (declaredOf kind fields v) (itemSpot .present "" 0)).congr
    intro spot mismatch
    rw [declaredOf_noTable hv, Except.error.injEq]
    constructor
    · rintro ⟨rfl, rfl⟩
      exact .noTable hv
    · rintro (_ | _ | _ | _)
      · exact ⟨rfl, rfl⟩
      all_goals exact absurd rfl (hv _)
  have hoptions := ((reports_options t).mapError (Mismatch.mk · [tag kind])).within
    (fun spot ↦ (toLex (Stage.option, spot) : ItemSpot))
    (fun _ _ hlt ↦ Prod.Lex.toLex_lt_toLex.mpr (.inr ⟨rfl, hlt⟩))
  rw [declaredOf]
  simp only [bind_pure_comp]
  apply ((hfields t).bind (fun a _ ↦ hoptions.map (Declared.mk a)) _).congr
  · intro spot mismatch
    constructor
    · rintro ((⟨name, hname, rfl, v, hv, htext, rfl⟩ | ⟨name, hname, rfl, hnone, rfl⟩) |
        ⟨⟨key, position⟩, rfl, violation, ⟨shape, v, hkey, hv, hflaw⟩, rfl⟩)
      · exact .field hname hv htext
      · exact .missing hname hnone
      · exact .option hkey hv hflaw
    · rintro (hv | ⟨hname, hv, htext⟩ | ⟨hname, hnone⟩ | ⟨hkey, hv, hflaw⟩)
      · exact absurd rfl (hv t)
      · exact .inl (.inl ⟨_, hname, rfl, _, hv, htext, rfl⟩)
      · exact .inl (.inr ⟨_, hname, rfl, hnone, rfl⟩)
      · exact .inr ⟨_, rfl, _, ⟨_, _, hkey, hv, hflaw⟩, rfl⟩
  · have hpresent : Stage.present < .option := by decide
    have hmissing : Stage.missing < .option := by decide
    rintro _ _ _ _ (⟨_, _, rfl, _⟩ | ⟨_, _, rfl, _⟩) ⟨_, rfl, _⟩
    · exact Prod.Lex.toLex_lt_toLex.mpr (.inl hpresent)
    · exact Prod.Lex.toLex_lt_toLex.mpr (.inl hmissing)

/-- A list is examined item by item. -/
theorem reports_listOf (hfields : ∀ t, Reports (fields t) (FieldFlaw kind kind.fieldNames t))
    (t : Table) : Reports (listOf kind fields t) (ListFlaw kind (t.get? (tag kind))) := by
  cases hget : t.get? (tag kind) with
  | none =>
    rw [listOf_of_get?_eq_none hget]
    exact (Reports.ok []).congr fun _ _ ↦ iff_of_false id nofun
  | some v =>
    rcases ne_array_or v with hv | ⟨items, rfl⟩
    · apply (Reports.single (listOf kind fields t) (toLex (0, itemSpot .present "" 0))).congr
      intro spot mismatch
      rw [listOf_noList hget hv, Except.error.injEq]
      constructor
      · rintro ⟨rfl, rfl⟩
        exact .noList hv
      · rintro (_ | _)
        · exact ⟨rfl, rfl⟩
        · exact absurd rfl (hv _)
    rw [listOf_of_get?_eq_array hget]
    apply (Reports.mapM_lex (reports_declaredOf hfields) items).congr
    intro spot mismatch
    constructor
    · rintro ⟨v, hv, hflaw⟩
      exact .item hv hflaw
    · rintro (hv | ⟨hv, hflaw⟩)
      · exact absurd rfl (hv items)
      · exact ⟨_, hv, hflaw⟩

/-- What is wrong with the lists of some kinds. -/
def KindsFlaw (kinds : List Kind) (t : Table) (spot : Spot) (mismatch : Mismatch) : Prop :=
  ∃ kind ∈ kinds, (ofLex spot).1 = tag kind ∧
    ListFlaw kind (t.get? (tag kind)) (ofLex spot).2 mismatch

/-- A list is looked at before those with later keys. -/
theorem reports_listOf_bind {kinds : List Kind} {t : Table}
    {next : List (Declared α) → Except Mismatch β}
    (hfields : ∀ t, Reports (fields t) (FieldFlaw kind kind.fieldNames t))
    (hkinds : ∀ other ∈ kinds, tag kind < tag other)
    (hnext : ∀ xs, Reports (next xs) (KindsFlaw kinds t)) :
    Reports (listOf kind fields t >>= next) (KindsFlaw (kind :: kinds) t) := by
  have hlist := (reports_listOf hfields t).within (fun spot ↦ (toLex (tag kind, spot) : Spot))
    (fun _ _ hlt ↦ Prod.Lex.toLex_lt_toLex.mpr (.inr ⟨rfl, hlt⟩))
  apply (hlist.bind (fun xs _ ↦ hnext xs) _).congr
  · intro spot mismatch
    simp only [KindsFlaw, List.mem_cons, exists_eq_or_imp]
    apply or_congr_left
    constructor
    · rintro ⟨spot, rfl, hflaw⟩
      exact ⟨rfl, hflaw⟩
    · rintro ⟨hkey, hflaw⟩
      exact ⟨(ofLex spot).2, Prod.ext hkey rfl, hflaw⟩
  · rintro _ _ spot' _ ⟨_, rfl, _⟩ ⟨other, hmem, hkey, _⟩
    rw [Prod.Lex.lt_iff, hkey]
    exact .inl (hkinds other hmem)

end Lists

/-- Decoding a document succeeds if it has no flaw, and reports the first one otherwise. -/
theorem reports_ofTable (t : Table) : Reports (Config.ofTable t) (TableFlaw t) := by
  have hkinds : Reports (Config.ofTable t)
      (KindsFlaw [.aliases, .environments, .evaluates, .paths, .sources] t) := by
    apply reports_listOf_bind (reports_bindingOf .aliases) (by decide)
    intro aliases
    apply reports_listOf_bind (reports_bindingOf .environments) (by decide)
    intro environments
    apply reports_listOf_bind (fun t ↦ reports_fieldOf .evaluates t "command") (by decide)
    intro evaluates
    apply reports_listOf_bind (fun t ↦ reports_fieldOf .paths t "path") (by decide)
    intro paths
    apply reports_listOf_bind (fun t ↦ reports_fieldOf .sources t "path") (by simp)
    intro sources
    apply (Reports.ok _).congr
    simp [KindsFlaw]
  apply hkinds.congr
  rintro ⟨key, spot⟩ mismatch
  constructor
  · rintro ⟨kind, _, rfl, hflaw⟩
    exact .list hflaw
  · rintro (@⟨kind, _, _, hflaw⟩)
    exact ⟨kind, by cases kind <;> decide, rfl, hflaw⟩

end ShellInit
