import ShellInit.Config.Schema
import ShellInit.Proofs.Reports
import ShellInit.Proofs.Toml.Layers

/-!
# Shapes of values

The schema of an option as data: the shape that its value must have, when a value has the shape, what
it says then, and which flaws it has otherwise. Reading an option reports its first flaw.
-/

namespace ShellInit

open Toml (Value Table)

/-! ## Shapes and flaws -/

theorem ne_array_or (v : Value) : (∀ items, v ≠ .array items) ∨ ∃ items, v = .array items :=
  or_iff_not_imp_right.mpr not_exists.mp

theorem ne_table_or (v : Value) : (∀ t : Table, v ≠ .table t) ∨ ∃ t : Table, v = .table t :=
  or_iff_not_imp_right.mpr not_exists.mp

/-- A value reads as a text: a string as itself, and a date or time as it is written. -/
inductive Reads : Value → String → Prop
  | string (text : String) : Reads (.string text) text
  | moment (m : Toml.Moment) : Reads (.moment m) m.text

theorem Reads.unique {v : Value} {text text' : String} (h : Reads v text) (h' : Reads v text') :
    text = text' := by
  cases h <;> cases h' <;> rfl

def IsText (v : Value) : Prop := ∃ text, Reads v text

/-- What the value of an option may look like. -/
inductive Shape
  /-- A string. -/
  | text
  /-- A string or a list of strings. -/
  | texts
  /-- One of these names, or a list of them. -/
  | tags (names : List String)

/-- Whether a value names one of the alternatives as an item of a list, be it by a table whose only key
is the name and that holds an empty table. -/
def IsListedTag (names : List String) (v : Value) : Prop :=
  ∃ name ∈ names, Reads v name ∨ v = .table [(name, .table [])]

/-- Whether a value has a shape. -/
def Shape.Fits : Shape → Value → Prop
  | .text, v => IsText v
  | .texts, v => IsText v ∨ ∃ items, v = .array items ∧ ∀ item ∈ items, IsText item
  | .tags names, v =>
    (∃ name ∈ names, Reads v name) ∨ ∃ items, v = .array items ∧ ∀ item ∈ items, IsListedTag names item

/-- What is wrong with an item of a list of tags. -/
inductive TagFlaw (names : List String) : Value → Violation → Prop
  | unknown {v : Value} {name : String} (hv : Reads v name) (hname : name ∉ names) :
    TagFlaw names v (.unknownTag name names)
  | unknownKey {name : String} {content : Value} (hname : name ∉ names) :
    TagFlaw names (.table [(name, content)]) (.unknownTag name names)
  | content {name : String} {content : Value} (hname : name ∈ names) (hcontent : content ≠ .table []) :
    TagFlaw names (.table [(name, content)]) (.wrongType content "unit")
  | keys {t : Table} (hkeys : t.length ≠ 1) : TagFlaw names (.table t) .notSingleKey
  | noTag {v : Value} (htext : ¬IsText v) (htable : ∀ t : Table, v ≠ .table t) :
    TagFlaw names v (.wrongType v "string or map")

/-- What is wrong with the value of an option, and at which position of its list. -/
inductive Shape.Flaw : Shape → Value → ℕ → Violation → Prop
  | noText {v : Value} (htext : ¬IsText v) : Flaw .text v 0 (.wrongType v "a string")
  | neither {shape : Shape} {v : Value} (hshape : shape ≠ .text) (htext : ¬IsText v)
    (harray : ∀ items, v ≠ .array items) :
    Flaw shape v 0 (.wrongType v "a string or a list of strings")
  | unknown {names : List String} {v : Value} {name : String} (hv : Reads v name)
    (hname : name ∉ names) : Flaw (.tags names) v 0 (.unknownTag name names)
  | listedText {items : List Value} {i : ℕ} {item : Value} (hitem : items[i]? = some item)
    (htext : ¬IsText item) : Flaw .texts (.array items) i (.wrongType item "a string")
  | listedTag {names : List String} {items : List Value} {i : ℕ} {item : Value} {violation : Violation}
    (hitem : items[i]? = some item) (hflaw : TagFlaw names item violation) :
    Flaw (.tags names) (.array items) i violation

/-! ## Shapes without flaws -/

theorem not_isText_array (items : List Value) : ¬IsText (.array items) := by
  rintro ⟨_, ⟨⟩⟩

/-- An item names one of the alternatives or has a flaw. -/
theorem isListedTag_or_tagFlaw (names : List String) (v : Value) :
    IsListedTag names v ∨ ∃ violation, TagFlaw names v violation := by
  by_cases htext : IsText v
  · obtain ⟨name, hv⟩ := htext
    by_cases hname : name ∈ names
    · exact .inl ⟨name, hname, .inl hv⟩
    · exact .inr ⟨_, .unknown hv hname⟩
  rcases ne_table_or v with htable | ⟨t, rfl⟩
  · exact .inr ⟨_, .noTag htext htable⟩
  by_cases hkeys : t.length = 1
  · obtain ⟨⟨name, content⟩, rfl⟩ := List.length_eq_one_iff.mp hkeys
    by_cases hname : name ∈ names
    · by_cases hcontent : content = .table []
      · exact .inl ⟨name, hname, .inr (by rw [hcontent])⟩
      · exact .inr ⟨_, .content hname hcontent⟩
    · exact .inr ⟨_, .unknownKey hname⟩
  · exact .inr ⟨_, .keys hkeys⟩

theorem TagFlaw.not_isListedTag {names : List String} {v : Value} {violation : Violation}
    (h : TagFlaw names v violation) : ¬IsListedTag names v := by
  rintro ⟨name, hname, hv | rfl⟩
  · cases h with
    | unknown hv' hname' => exact hname' (hv'.unique hv ▸ hname)
    | noTag htext => exact htext ⟨name, hv⟩
    | _ => cases hv
  · cases h with
    | unknown hv => cases hv
    | unknownKey hname' => exact hname' hname
    | content _ hcontent => exact hcontent rfl
    | keys hkeys => exact hkeys rfl
    | noTag _ htable => exact htable _ rfl

theorem Shape.Flaw.not_fits {shape : Shape} {v : Value} {i : ℕ} {violation : Violation}
    (h : shape.Flaw v i violation) : ¬shape.Fits v := by
  cases h with
  | noText htext => exact htext
  | @neither shape v hshape htext harray =>
    cases shape with
    | text => exact absurd rfl hshape
    | texts => exact not_or.mpr ⟨htext, fun ⟨items, heq, _⟩ ↦ harray items heq⟩
    | tags names =>
      rintro (⟨name, _, hv⟩ | ⟨items, heq, _⟩)
      · exact htext ⟨name, hv⟩
      · exact harray items heq
  | unknown hv hname =>
    rintro (⟨name, hname', hv'⟩ | ⟨items, rfl, _⟩)
    · exact hname (hv.unique hv' ▸ hname')
    · exact not_isText_array items ⟨_, hv⟩
  | @listedText items i item hitem htext =>
    rintro (harray | ⟨_, ⟨⟩, hitems⟩)
    · exact not_isText_array items harray
    · exact htext (hitems item (List.mem_of_getElem? hitem))
  | @listedTag names items i item violation hitem hflaw =>
    rintro (⟨name, _, hv⟩ | ⟨_, ⟨⟩, hitems⟩)
    · exact not_isText_array items ⟨name, hv⟩
    · exact hflaw.not_isListedTag (hitems item (List.mem_of_getElem? hitem))

theorem Shape.fits_or_flaw (shape : Shape) (v : Value) :
    shape.Fits v ∨ ∃ i violation, shape.Flaw v i violation := by
  by_cases htext : IsText v
  · cases shape with
    | text => exact .inl htext
    | texts => exact .inl (.inl htext)
    | tags names =>
      obtain ⟨name, hv⟩ := htext
      by_cases hname : name ∈ names
      · exact .inl (.inl ⟨name, hname, hv⟩)
      · exact .inr ⟨_, _, .unknown hv hname⟩
  by_cases hshape : shape = .text
  · rw [hshape]
    exact .inr ⟨_, _, .noText htext⟩
  rcases ne_array_or v with harray | ⟨items, rfl⟩
  · exact .inr ⟨_, _, .neither hshape htext harray⟩
  cases shape with
  | text => exact absurd rfl hshape
  | texts =>
    by_cases hitems : ∀ item ∈ items, IsText item
    · exact .inl (.inr ⟨items, rfl, hitems⟩)
    · simp only [not_forall] at hitems
      obtain ⟨item, hmem, hitem⟩ := hitems
      obtain ⟨i, hi⟩ := List.mem_iff_getElem?.mp hmem
      exact .inr ⟨i, _, .listedText hi hitem⟩
  | tags names =>
    by_cases hitems : ∀ item ∈ items, IsListedTag names item
    · exact .inl (.inr ⟨items, rfl, hitems⟩)
    · simp only [not_forall] at hitems
      obtain ⟨item, hmem, hitem⟩ := hitems
      obtain ⟨i, hi⟩ := List.mem_iff_getElem?.mp hmem
      obtain ⟨violation, hflaw⟩ := (isListedTag_or_tagFlaw names item).resolve_left hitem
      exact .inr ⟨i, _, .listedTag hi hflaw⟩

/-- A value has a shape if it has no flaw. -/
theorem Shape.fits_iff {shape : Shape} {v : Value} :
    shape.Fits v ↔ ∀ i violation, ¬shape.Flaw v i violation := by
  constructor
  · intro hfits i violation hflaw
    exact hflaw.not_fits hfits
  · intro hflawless
    apply (shape.fits_or_flaw v).resolve_right
    rintro ⟨i, violation, hflaw⟩
    exact hflawless i violation hflaw

/-! ## Texts and tags -/

theorem asText?_eq_some_iff {v : Value} {text : String} : asText? v = some text ↔ Reads v text := by
  constructor
  · intro h
    cases v <;> cases h
    · exact .string _
    · exact .moment _
  · rintro (_ | _) <;> rfl

theorem asText?_eq_none_iff {v : Value} : asText? v = none ↔ ¬IsText v := by
  rw [Option.eq_none_iff_forall_ne_some]
  simp [IsText, asText?_eq_some_iff]

theorem textOf_eq_ok_iff {v : Value} {text : String} : textOf v = .ok text ↔ Reads v text := by
  rw [textOf, ← asText?_eq_some_iff]
  cases asText? v <;> simp

theorem textOf_eq_error_iff {v : Value} {violation : Violation} :
    textOf v = .error violation ↔ ¬IsText v ∧ violation = .wrongType v "a string" := by
  rw [textOf, ← asText?_eq_none_iff]
  cases asText? v <;> simp [eq_comm]

def tagNames (α : Type) [Tagged α] : List String := (Tagged.all : List α).map tag

/-- Alternatives that are all listed, each under a name of its own. -/
class LawfulTagged (α : Type) [Tagged α] : Prop where
  ofTag?_tag : ∀ a : α, ofTag? (tag a) = some a

instance : LawfulTagged Os := ⟨fun os ↦ by cases os <;> decide⟩

instance : LawfulTagged Arch := ⟨fun arch ↦ by cases arch <;> decide⟩

instance : LawfulTagged Shell := ⟨fun shell ↦ by cases shell <;> decide⟩

section Tags

variable {α : Type} [Tagged α]

theorem ofTag?_eq_some_iff [LawfulTagged α] {name : String} {a : α} :
    ofTag? name = some a ↔ tag a = name := by
  constructor
  · exact tag_of_ofTag?_eq_some
  · rintro rfl
    exact LawfulTagged.ofTag?_tag a

theorem mem_tagNames_iff [LawfulTagged α] {name : String} :
    name ∈ tagNames α ↔ ∃ a : α, tag a = name := by
  simp only [tagNames, List.mem_map]
  constructor
  · rintro ⟨a, _, ha⟩
    exact ⟨a, ha⟩
  · rintro ⟨a, ha⟩
    exact ⟨a, List.mem_of_find?_eq_some (ofTag?_eq_some_iff.mpr ha), ha⟩

theorem tagOf_eq_ok_iff [LawfulTagged α] {name : String} {a : α} :
    (tagOf name : Except Violation α) = .ok a ↔ tag a = name := by
  rw [← ofTag?_eq_some_iff, tagOf]
  cases (ofTag? name : Option α) <;> simp

theorem tagOf_eq_error_iff [LawfulTagged α] {name : String} {violation : Violation} :
    (tagOf name : Except Violation α) = .error violation ↔
      name ∉ tagNames α ∧ violation = .unknownTag name (tagNames α) := by
  have hunknown : (ofTag? name : Option α) = none ↔ name ∉ tagNames α := by
    rw [mem_tagNames_iff, Option.eq_none_iff_forall_ne_some, not_exists]
    simp only [ne_eq, ofTag?_eq_some_iff]
  rw [← hunknown, tagOf]
  cases (ofTag? name : Option α) <;> simp [tagNames, eq_comm]

theorem listedTagOf_of_reads {v : Value} {name : String} (h : Reads v name) :
    (listedTagOf v : Except Violation α) = tagOf name := by
  cases h <;> rfl

theorem listedTagOf_emptyTable (name : String) :
    (listedTagOf (.table [(name, .table [])]) : Except Violation α) = tagOf name := by
  change (tagOf name >>= fun a ↦ Except.ok a) = _
  exact bind_pure (tagOf name : Except Violation α)

theorem listedTagOf_content {name : String} {content : Value} (h : content ≠ .table []) :
    (listedTagOf (.table [(name, content)]) : Except Violation α) =
      (tagOf name : Except Violation α) >>= fun _ ↦ .error (.wrongType content "unit") := by
  simp only [listedTagOf, asText?]
  rfl

theorem listedTagOf_keys {t : Table} (h : t.length ≠ 1) :
    (listedTagOf (.table t) : Except Violation α) = .error .notSingleKey := by
  match t with
  | [] => rfl
  | [_] => exact absurd rfl h
  | _ :: _ :: _ => rfl

theorem listedTagOf_noTag {v : Value} (htext : ¬IsText v) (htable : ∀ t : Table, v ≠ .table t) :
    (listedTagOf v : Except Violation α) = .error (.wrongType v "string or map") := by
  cases v with
  | string text => exact absurd ⟨text, .string text⟩ htext
  | moment m => exact absurd ⟨m.text, .moment m⟩ htext
  | table t => exact absurd rfl (htable t)
  | _ => rfl

theorem listedTagOf_unknownKey [LawfulTagged α] {name : String} (h : name ∉ tagNames α)
    (content : Value) :
    (listedTagOf (.table [(name, content)]) : Except Violation α) =
      .error (.unknownTag name (tagNames α)) := by
  have htag : (tagOf name : Except Violation α) = .error (.unknownTag name (tagNames α)) :=
    tagOf_eq_error_iff.mpr ⟨h, rfl⟩
  by_cases hcontent : content = .table []
  · rw [hcontent, listedTagOf_emptyTable, htag]
  · rw [listedTagOf_content hcontent, htag]
    rfl

theorem listedTagOf_eq_error_of_flaw [LawfulTagged α] {v : Value} {violation : Violation}
    (h : TagFlaw (tagNames α) v violation) :
    (listedTagOf v : Except Violation α) = .error violation := by
  cases h with
  | unknown hv hname =>
    rw [listedTagOf_of_reads hv, tagOf_eq_error_iff]
    exact ⟨hname, rfl⟩
  | unknownKey hname => exact listedTagOf_unknownKey hname _
  | content hname hcontent =>
    obtain ⟨a, ha⟩ := mem_tagNames_iff.mp hname
    rw [listedTagOf_content hcontent, tagOf_eq_ok_iff.mpr ha]
    rfl
  | keys hkeys => exact listedTagOf_keys hkeys
  | noTag htext htable => exact listedTagOf_noTag htext htable

theorem isListedTag_iff [LawfulTagged α] {v : Value} :
    IsListedTag (tagNames α) v ↔ ∃ a : α, Reads v (tag a) ∨ v = .table [(tag a, .table [])] := by
  simp only [IsListedTag, mem_tagNames_iff]
  constructor
  · rintro ⟨_, ⟨a, rfl⟩, h⟩
    exact ⟨a, h⟩
  · rintro ⟨a, h⟩
    exact ⟨tag a, ⟨a, rfl⟩, h⟩

theorem listedTagOf_eq_ok_of_names [LawfulTagged α] {v : Value} {a : α}
    (h : Reads v (tag a) ∨ v = .table [(tag a, .table [])]) : listedTagOf v = .ok a := by
  rcases h with hv | rfl
  · rw [listedTagOf_of_reads hv, tagOf_eq_ok_iff]
  · rw [listedTagOf_emptyTable, tagOf_eq_ok_iff]

/-- An item of a list gives a tag by its name, or by a table with nothing but the name. -/
theorem listedTagOf_eq_ok_iff [LawfulTagged α] {v : Value} {a : α} :
    listedTagOf v = .ok a ↔ Reads v (tag a) ∨ v = .table [(tag a, .table [])] := by
  refine ⟨fun h ↦ ?_, listedTagOf_eq_ok_of_names⟩
  rcases isListedTag_or_tagFlaw (tagNames α) v with hlisted | ⟨violation, hflaw⟩
  · obtain ⟨b, hb⟩ := isListedTag_iff.mp hlisted
    obtain rfl : b = a := Except.ok.inj ((listedTagOf_eq_ok_of_names hb).symm.trans h)
    exact hb
  · cases h.symm.trans (listedTagOf_eq_error_of_flaw hflaw)

/-- An item of a list is refused for the flaw that it has. -/
theorem listedTagOf_eq_error_iff [LawfulTagged α] {v : Value} {violation : Violation} :
    (listedTagOf v : Except Violation α) = .error violation ↔ TagFlaw (tagNames α) v violation := by
  refine ⟨fun h ↦ ?_, listedTagOf_eq_error_of_flaw⟩
  rcases isListedTag_or_tagFlaw (tagNames α) v with hlisted | ⟨violation', hflaw⟩
  · obtain ⟨b, hb⟩ := isListedTag_iff.mp hlisted
    cases h.symm.trans (listedTagOf_eq_ok_of_names hb)
  · obtain rfl : violation' = violation :=
      Except.error.inj ((listedTagOf_eq_error_of_flaw (α := α) hflaw).symm.trans h)
    exact hflaw

end Tags

/-! ## Selections -/

section Selections

variable {α : Type} {bare : String → Except Violation α} {item : Value → Except Violation α} {v : Value}

theorem selectionOf_of_reads {text : String} (h : Reads v text) :
    selectionOf bare item v = (bare text).map .one := by
  cases h <;> rfl

theorem selectionOf_array (items : List Value) :
    selectionOf bare item (.array items) = (items.mapM item).map .many := rfl

theorem selectionOf_neither (htext : ¬IsText v) (harray : ∀ items, v ≠ .array items) :
    selectionOf bare item v = .error (.wrongType v "a string or a list of strings") := by
  cases v with
  | string text => exact absurd ⟨text, .string text⟩ htext
  | moment m => exact absurd ⟨m.text, .moment m⟩ htext
  | array items => exact absurd rfl (harray items)
  | _ => rfl

/-- What is wrong with a selection is wrong with its bare text or with its items, unless it is neither a
text nor a list. -/
theorem reports_selectionOf {flaw : ℕ → Violation → Prop}
    (hbare : ∀ text, Reads v text → ∀ i e, i = 0 ∧ bare text = .error e ↔ flaw i e)
    (hitems : ∀ items : List Value, v = .array items →
      ∀ (i : ℕ) e, (∃ x, items[i]? = some x ∧ item x = .error e) ↔ flaw i e)
    (hneither : ¬IsText v → (∀ items, v ≠ .array items) →
      ∀ i e, i = 0 ∧ e = .wrongType v "a string or a list of strings" ↔ flaw i e) :
    Reports (selectionOf bare item v) flaw := by
  by_cases htext : IsText v
  · obtain ⟨text, hv⟩ := htext
    rw [selectionOf_of_reads hv]
    exact ((Reports.single (bare text) 0).map Selection.one).congr (hbare text hv)
  rcases ne_array_or v with harray | ⟨items, rfl⟩
  · apply (Reports.single (selectionOf bare item v) 0).congr
    intro i e
    rw [← hneither htext harray, selectionOf_neither htext harray, Except.error.injEq, eq_comm (b := e)]
  · rw [selectionOf_array]
    exact ((Reports.mapM items).map Selection.many).congr (hitems items rfl)

end Selections

/-! ## Reading options -/

theorem reports_textOf (v : Value) : Reports (textOf v) (Shape.Flaw .text v) := by
  apply (Reports.single (textOf v) 0).congr
  intro i e
  rw [textOf_eq_error_iff]
  constructor
  · rintro ⟨rfl, htext, rfl⟩
    exact .noText htext
  · rintro (htext | ⟨hshape⟩)
    · exact ⟨rfl, htext, rfl⟩
    · exact absurd rfl hshape

theorem reports_textsOf (v : Value) : Reports (textsOf v) (Shape.Flaw .texts v) := by
  apply reports_selectionOf
  · intro text hv i e
    constructor
    · rintro ⟨_, ⟨⟩⟩
    · rintro (_ | ⟨_, htext, _⟩ | _ | _)
      · exact absurd ⟨text, hv⟩ htext
      · cases hv
  · rintro items rfl i e
    simp only [textOf_eq_error_iff]
    constructor
    · rintro ⟨x, hx, htext, rfl⟩
      exact .listedText hx htext
    · rintro (_ | ⟨_, _, harray⟩ | _ | ⟨hx, htext⟩)
      · exact absurd rfl (harray items)
      · exact ⟨_, hx, htext, rfl⟩
  · intro htext harray i e
    constructor
    · rintro ⟨rfl, rfl⟩
      exact .neither nofun htext harray
    · rintro (_ | _ | _ | _)
      · exact ⟨rfl, rfl⟩
      · exact absurd rfl (harray _)

theorem reports_tagsOf (α : Type) [Tagged α] [LawfulTagged α] (v : Value) :
    Reports (tagsOf v : Except Violation (Selection α)) (Shape.Flaw (.tags (tagNames α)) v) := by
  apply reports_selectionOf
  · intro name hv i e
    rw [tagOf_eq_error_iff]
    constructor
    · rintro ⟨rfl, hname, rfl⟩
      exact .unknown hv hname
    · rintro (_ | ⟨_, htext, _⟩ | ⟨hv', hname⟩ | _)
      · exact absurd ⟨name, hv⟩ htext
      · obtain rfl := hv.unique hv'
        exact ⟨rfl, hname, rfl⟩
      · cases hv
  · rintro items rfl i e
    simp only [listedTagOf_eq_error_iff]
    constructor
    · rintro ⟨x, hx, hflaw⟩
      exact .listedTag hx hflaw
    · rintro (_ | ⟨_, _, harray⟩ | ⟨⟨⟩, _⟩ | _ | ⟨hx, hflaw⟩)
      · exact absurd rfl (harray items)
      · exact ⟨_, hx, hflaw⟩
  · intro htext harray i e
    constructor
    · rintro ⟨rfl, rfl⟩
      exact .neither nofun htext harray
    · rintro (_ | _ | ⟨hv, _⟩ | _ | _)
      · exact ⟨rfl, rfl⟩
      · exact absurd ⟨_, hv⟩ htext
      · exact absurd rfl (harray _)

theorem optional_eq_ok_iff {α : Type} {decode : Value → Except Violation α}
    {meaning : Value → α → Prop} (h : ∀ v a, decode v = .ok a ↔ meaning v a) {t : Table}
    {key : String} {value? : Option α} :
    optional t key decode = .ok value? ↔ Option.Rel meaning (t.get? key) value? := by
  rw [optional]
  cases t.get? key with
  | none =>
    constructor
    · intro hnone
      obtain rfl : none = value? := Except.ok.inj hnone
      exact .none
    · rintro ⟨⟩
      rfl
  | some v =>
    have hsome : (some v).mapM decode = (decode v).map some := rfl
    simp only [hsome, map_eq_ok_iff, h]
    constructor
    · rintro ⟨a, ha, rfl⟩
      exact .some ha
    · rintro (ha | _)
      exact ⟨_, ha, rfl⟩

end ShellInit
