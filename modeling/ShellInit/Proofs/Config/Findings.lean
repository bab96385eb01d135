import Mathlib.Data.String.Basic
import ShellInit.Config.Lint

/-!
# What is found about labels

A directive is reported for an empty label, or for waiting for its own one; a label is reported if at
least two directives have it, with their number. Nothing is said here of the order of the findings.
-/

namespace ShellInit

/-! ## Ascending texts -/

theorem mem_insertText {s t : String} {texts : List String} :
    t ∈ insertText s texts ↔ t = s ∨ t ∈ texts := by
  induction texts with
  | nil => simp [insertText]
  | cons u rest ih =>
    rw [insertText]
    split
    · exact List.mem_cons
    · split
      case isTrue heq => simp [heq]
      case isFalse => rw [List.mem_cons, ih, List.mem_cons, or_left_comm]

@[simp]
theorem mem_ascending {t : String} {texts : List String} : t ∈ ascending texts ↔ t ∈ texts := by
  induction texts with
  | nil => rfl
  | cons u rest ih =>
    rw [List.mem_cons, ← ih]
    exact mem_insertText

theorem pairwise_insertText {s : String} {texts : List String} (h : texts.Pairwise (· < ·)) :
    (insertText s texts).Pairwise (· < ·) := by
  induction texts with
  | nil => simp [insertText]
  | cons t rest ih =>
    obtain ⟨hfirst, hrest⟩ := List.pairwise_cons.mp h
    rw [insertText]
    split
    case isTrue hlt =>
      refine List.pairwise_cons.mpr ⟨?_, h⟩
      intro u hu
      rcases List.mem_cons.mp hu with rfl | hu
      · exact hlt
      · exact hlt.trans (hfirst u hu)
    case isFalse hge =>
      split
      case isTrue => exact h
      case isFalse hne =>
        refine List.pairwise_cons.mpr ⟨?_, ih hrest⟩
        intro u hu
        rcases mem_insertText.mp hu with rfl | hu
        · exact lt_of_le_of_ne (not_lt.mp hge) (Ne.symm hne)
        · exact hfirst u hu

/-- The texts ascend strictly, so that none is repeated. -/
theorem pairwise_ascending (texts : List String) : (ascending texts).Pairwise (· < ·) := by
  induction texts with
  | nil => exact .nil
  | cons t rest ih => exact pairwise_insertText ih

/-! ## Findings -/

variable {ds : List Directive} {d : Directive} {label : String}

/-- A directive with an empty label is not reported for waiting for itself. -/
theorem ownLabelFinding?_eq_some_iff {finding : Finding} :
    ownLabelFinding? d = some finding ↔
      d.options.label = some "" ∧ finding = .emptyLabel d ∨
        d.waitsFor d = true ∧ finding = .ownLabel d := by
  cases hlabel : d.options.label with
  | none => simp [ownLabelFinding?, Directive.waitsFor, Directive.isLabeled, Directive.label, hlabel]
  | some label =>
    have hown : d.label = label := by simp [Directive.label, hlabel]
    by_cases hempty : label = ""
    · simp only [ownLabelFinding?, Directive.waitsFor, Directive.isLabeled, hlabel, hown, hempty]
      simp [eq_comm (a := finding)]
    · simp only [ownLabelFinding?, Directive.waitsFor, Directive.isLabeled, hlabel, hown, hempty]
      simp [eq_comm (a := finding), hempty]

/-- A shared label is reported with the number of its directives. -/
theorem mem_sharedLabelFindings_iff {finding : Finding} :
    finding ∈ sharedLabelFindings ds ↔
      ∃ label, 1 < (labels ds).count label ∧
        finding = .sharedLabel label ((labels ds).count label) := by
  simp only [sharedLabelFindings, List.mem_filterMap, mem_ascending, Option.ite_none_right_eq_some,
    Option.some.injEq]
  constructor
  · rintro ⟨label, _, hcount, rfl⟩
    exact ⟨label, hcount, rfl⟩
  · rintro ⟨label, hcount, rfl⟩
    exact ⟨label, List.count_pos_iff.mp (by omega), hcount, rfl⟩

/-- The labels that are counted are those that directives set, but for the empty one. -/
theorem count_labels (ds : List Directive) (label : String) :
    (labels ds).count label =
      if label = "" then 0 else ds.countP (·.options.label = some label) := by
  rw [labels, List.count, List.countP_map, List.countP_filter]
  split
  case isTrue hempty =>
    rw [List.countP_eq_zero]
    intro d _
    simp [Directive.isLabeled, hempty]
  case isFalse hne =>
    apply List.countP_congr
    intro d _
    cases hlabel : d.options.label with
    | none => simp [Directive.label, hlabel, Ne.symm hne]
    | some own =>
      have hown : d.label = own := by simp [Directive.label, hlabel]
      simp only [Function.comp_apply, Directive.isLabeled, hown]
      simp +contextual [hne]

theorem emptyLabel_mem_labelFindings_iff :
    .emptyLabel d ∈ labelFindings ds ↔ d ∈ ds ∧ d.options.label = some "" := by
  simp [labelFindings, ownLabelFinding?_eq_some_iff, mem_sharedLabelFindings_iff]

theorem ownLabel_mem_labelFindings_iff :
    .ownLabel d ∈ labelFindings ds ↔ d ∈ ds ∧ d.waitsFor d = true := by
  simp [labelFindings, ownLabelFinding?_eq_some_iff, mem_sharedLabelFindings_iff]

/-- Labels that at least two directives set are reported with their number, but for the empty one.
-/
theorem sharedLabel_mem_labelFindings_iff {n : Nat} :
    .sharedLabel label n ∈ labelFindings ds ↔
      label ≠ "" ∧ 2 ≤ n ∧ ds.countP (·.options.label = some label) = n := by
  have hsingle : .sharedLabel label n ∉ ds.filterMap ownLabelFinding? := by
    simp [ownLabelFinding?_eq_some_iff]
  have hshared : .sharedLabel label n ∈ labelFindings ds ↔
      2 ≤ (labels ds).count label ∧ (labels ds).count label = n := by
    rw [labelFindings, List.mem_append, or_iff_right hsingle, mem_sharedLabelFindings_iff]
    constructor
    · rintro ⟨_, hcount, heq⟩
      cases heq
      exact ⟨hcount, rfl⟩
    · rintro ⟨hcount, rfl⟩
      exact ⟨label, hcount, rfl⟩
  rw [hshared, count_labels]
  split
  case isTrue hempty => simp [hempty]
  case isFalse hne =>
    constructor
    · rintro ⟨hcount, rfl⟩
      exact ⟨hne, hcount, rfl⟩
    · rintro ⟨_, hcount, rfl⟩
      exact ⟨hcount, rfl⟩

end ShellInit
