import Std.Data.HashMap.Lemmas
import Mathlib.Data.List.Induction
import Mathlib.Data.List.Nodup
import ShellInit.Proofs.Config.Findings
import ShellInit.Proofs.Text.ByteOrder

/-!
# Findings by counting labels

One pass over the directives reports what is wrong with single labels, and counts the others in a
table. The table lists its entries in no particular order, and the shared labels among them are
sorted in whatever way; still there is one result, the findings as they are declared: one for each
cause, in the order of the directives or else of the bytes of the labels.
-/

namespace ShellInit

open Text (bytes)

/-! ## One pass -/

/-- What a pass over the directives has reported, and how often it has met each label. -/
structure LabelPass where
  found : List Finding := []
  counts : Std.HashMap String Nat := ∅

namespace LabelPass

/-- The pass comes to the next directive. -/
def visit (p : LabelPass) (d : Directive) : LabelPass :=
  match d.options.label with
  | none => p
  | some label =>
    if label = "" then { p with found := p.found ++ [.emptyLabel d] }
    else
      { found := if d.dependsOn label then p.found ++ [.ownLabel d] else p.found
        counts := p.counts.insert label (p.counts.getD label 0 + 1) }

def along (ds : List Directive) : LabelPass := ds.foldl visit {}

/-- What a pass knows once it has met these directives. -/
structure Knows (p : LabelPass) (ds : List Directive) : Prop where
  found_eq : p.found = ds.filterMap ownLabelFinding?
  getElem?_counts : ∀ label n, p.counts[label]? = some n ↔ 0 < n ∧ (labels ds).count label = n

variable {p : LabelPass} {ds : List Directive} {d : Directive}

theorem labels_concat (ds : List Directive) (d : Directive) :
    labels (ds ++ [d]) = labels ds ++ if d.isLabeled then [d.label] else [] := by
  cases h : d.isLabeled <;> simp [labels, h]

/-- A visit reports at most one thing, about the label of the directive itself. -/
theorem found_visit (p : LabelPass) (d : Directive) :
    (p.visit d).found = p.found ++ (ownLabelFinding? d).toList := by
  cases hlabel : d.options.label with
  | none => simp [visit, ownLabelFinding?, hlabel]
  | some label =>
    by_cases hempty : label = ""
    · simp [visit, ownLabelFinding?, hlabel, hempty]
    · cases hself : d.dependsOn label <;>
        simp [visit, ownLabelFinding?, hlabel, hempty, hself]

theorem counts_visit (p : LabelPass) (d : Directive) :
    (p.visit d).counts =
      if d.isLabeled then p.counts.insert d.label (p.counts.getD d.label 0 + 1) else p.counts := by
  cases hlabel : d.options.label with
  | none => simp [visit, Directive.isLabeled, Directive.label, hlabel]
  | some label =>
    by_cases hempty : label = "" <;>
      simp [visit, Directive.isLabeled, Directive.label, hlabel, hempty]

theorem Knows.getD_counts (h : p.Knows ds) (label : String) :
    p.counts.getD label 0 = (labels ds).count label := by
  rw [Std.HashMap.getD_eq_getD_getElem?]
  cases hcount : p.counts[label]? with
  | some n => exact ((h.getElem?_counts label n).mp hcount).2.symm
  | none =>
    by_contra hne
    have hpos : 0 < (labels ds).count label := Nat.pos_of_ne_zero (Ne.symm hne)
    rw [(h.getElem?_counts label _).mpr ⟨hpos, rfl⟩] at hcount
    cases hcount

/-- The table counts one more of the label, and none of any other. -/
theorem Knows.getElem?_insert (h : p.Knows ds) (own label : String) (n : Nat) :
    (p.counts.insert own (p.counts.getD own 0 + 1))[label]? = some n ↔
      0 < n ∧ (labels ds ++ [own]).count label = n := by
  rw [Std.HashMap.getElem?_insert, List.count_append, List.count_singleton, h.getD_counts]
  by_cases heq : own = label
  · subst heq
    simp only [BEq.rfl, if_true, Option.some.injEq]
    omega
  · simp only [beq_iff_eq, heq, if_false]
    exact h.getElem?_counts label n

theorem Knows.visit (h : p.Knows ds) (d : Directive) : (p.visit d).Knows (ds ++ [d]) := by
  constructor
  · rw [found_visit, h.found_eq, List.filterMap_append]
    cases hfinding : ownLabelFinding? d <;> simp [hfinding]
  · intro label n
    rw [counts_visit, labels_concat]
    split
    case isTrue => exact h.getElem?_insert d.label label n
    case isFalse => simpa using h.getElem?_counts label n

/-- A pass knows what there is about the directives that it has met. -/
theorem knows_along (ds : List Directive) : (along ds).Knows ds := by
  induction ds using List.reverseRecOn with
  | nil =>
    refine ⟨rfl, ?_⟩
    intro label n
    have hnone : (along []).counts[label]? = none := Std.HashMap.getElem?_empty
    have hcount : (labels []).count label = 0 := rfl
    rw [hnone, hcount]
    simp only [reduceCtorEq, false_iff]
    omega
  | append_singleton ds d ih =>
    rw [along, List.foldl_concat]
    exact ih.visit d

end LabelPass

/-! ## Shared labels -/

/-- The labels that several directives have, with their numbers. -/
def sharedCounts (ds : List Directive) : List (String × Nat) :=
  ((ascending (labels ds)).filter (1 < (labels ds).count ·)).map fun label ↦
    (label, (labels ds).count label)

/-- The order in which label counts are sorted: by the bytes of the label, then by the number. -/
def CountBefore (a b : String × Nat) : Prop := bytes a.1 < bytes b.1 ∨ a.1 = b.1 ∧ a.2 ≤ b.2

section SharedCounts

variable {ds : List Directive}

theorem sharedLabelFindings_eq (ds : List Directive) :
    sharedLabelFindings ds = (sharedCounts ds).map fun x ↦ .sharedLabel x.1 x.2 := by
  rw [sharedLabelFindings, sharedCounts, List.map_map, ← List.filterMap_eq_map,
    List.filterMap_filter]
  simp [Function.comp_def]

theorem mem_sharedCounts_iff {label : String} {n : Nat} :
    (label, n) ∈ sharedCounts ds ↔ 1 < n ∧ (labels ds).count label = n := by
  simp only [sharedCounts, List.mem_map, List.mem_filter, mem_ascending, decide_eq_true_eq,
    Prod.mk.injEq]
  constructor
  · rintro ⟨_, ⟨_, hcount⟩, rfl, rfl⟩
    exact ⟨hcount, rfl⟩
  · rintro ⟨hcount, rfl⟩
    exact ⟨label, ⟨List.count_pos_iff.mp (by omega), hcount⟩, rfl, rfl⟩

/-- In terms of what is declared: labels that are not empty and stand in at least two directives. -/
theorem mem_sharedCounts_iff_countP {label : String} {n : Nat} :
    (label, n) ∈ sharedCounts ds ↔
      label ≠ "" ∧ 2 ≤ n ∧ ds.countP (·.options.label = some label) = n := by
  rw [mem_sharedCounts_iff, count_labels]
  split
  case isTrue hempty =>
    simp only [hempty, ne_eq, not_true_eq_false, false_and, iff_false]
    omega
  case isFalse hne => rw [and_iff_right hne, Nat.succ_le_iff]

theorem pairwise_sharedCounts (ds : List Directive) :
    (sharedCounts ds).Pairwise fun a b ↦ bytes a.1 < bytes b.1 := by
  rw [sharedCounts, List.pairwise_map]
  simp only [Text.bytes_lt_bytes_iff]
  exact (pairwise_ascending _).filter _

theorem nodup_of_pairwise_bytes {shared : List (String × Nat)}
    (h : shared.Pairwise fun a b ↦ bytes a.1 < bytes b.1) : shared.Nodup := by
  refine h.imp ?_
  rintro a b hlt rfl
  exact List.lt_irrefl _ hlt

theorem CountBefore.antisymm {a b : String × Nat} (hab : CountBefore a b) (hba : CountBefore b a) :
    a = b := by
  rcases hab with hab | ⟨hlabel, hle⟩ <;> rcases hba with hba | ⟨hlabel', hge⟩
  · exact absurd hba (List.lt_asymm hab)
  · exact absurd hab (hlabel' ▸ List.lt_irrefl _)
  · exact absurd hba (hlabel ▸ List.lt_irrefl _)
  · exact Prod.ext hlabel (Nat.le_antisymm hle hge)

/-- A table without repeated keys lists each of its entries once. -/
theorem nodup_toList (counts : Std.HashMap String Nat) : counts.toList.Nodup := by
  refine Std.HashMap.distinct_keys_toList.imp ?_
  rintro a _ hne rfl
  simp at hne

variable {p : LabelPass} {listed shared : List (String × Nat)}

/-- The shared labels are those that the table lists with a greater number than one. -/
theorem LabelPass.Knows.perm_sharedCounts (h : p.Knows ds) (hlisted : listed.Perm p.counts.toList) :
    (listed.filter (1 < ·.2)).Perm (sharedCounts ds) := by
  have hnodup := (nodup_toList p.counts).perm hlisted.symm
  rw [List.perm_ext_iff_of_nodup (hnodup.filter _)
    (nodup_of_pairwise_bytes (pairwise_sharedCounts ds))]
  rintro ⟨label, n⟩
  rw [List.mem_filter, hlisted.mem_iff, Std.HashMap.mem_toList_iff_getElem?_eq_some,
    h.getElem?_counts, mem_sharedCounts_iff]
  simp only [decide_eq_true_eq]
  omega

/-- The order in which a table lists its entries, and the way they are sorted, do not matter. -/
theorem LabelPass.Knows.eq_sharedCounts (h : p.Knows ds) (hlisted : listed.Perm p.counts.toList)
    (hshared : shared.Perm (listed.filter (1 < ·.2))) (hsorted : shared.Pairwise CountBefore) :
    shared = sharedCounts ds := by
  have hsorted' : (sharedCounts ds).Pairwise CountBefore := (pairwise_sharedCounts ds).imp .inl
  exact (hshared.trans (h.perm_sharedCounts hlisted)).eq_of_pairwise
    (fun _ _ _ _ ↦ CountBefore.antisymm) hsorted hsorted'

end SharedCounts

namespace Config

/-- What may come of a pass: its table lists the counts in some order, and of these, those of shared
labels are sorted in some way. -/
def MayReport (c : Config) (findings : List Finding) : Prop :=
  ∃ listed shared : List (String × Nat),
    listed.Perm (LabelPass.along c.directives).counts.toList ∧
      shared.Perm (listed.filter (1 < ·.2)) ∧ shared.Pairwise CountBefore ∧
      findings = (LabelPass.along c.directives).found ++
        (shared.map fun x ↦ .sharedLabel x.1 x.2) ++ fieldFindings c.directives

/-- Every pass comes to the same findings. -/
theorem mayReport_iff {c : Config} {findings : List Finding} :
    c.MayReport findings ↔ findings = c.findings := by
  have hknows := LabelPass.knows_along c.directives
  rw [Config.findings, labelFindings, sharedLabelFindings_eq, ← hknows.found_eq]
  constructor
  · rintro ⟨listed, shared, hlisted, hshared, hsorted, rfl⟩
    rw [hknows.eq_sharedCounts hlisted hshared hsorted]
  · rintro rfl
    exact ⟨_, _, .refl _, (hknows.perm_sharedCounts (.refl _)).symm,
      (pairwise_sharedCounts _).imp .inl, rfl⟩

/-! ## All findings -/

section Causes

variable {d : Directive} {ds : List Directive}

/-- Directive by directive: an empty label hides that the directive waits for itself. -/
theorem filterMap_ownLabelFinding? (ds : List Directive) :
    ds.filterMap ownLabelFinding? = ds.flatMap fun d ↦
      if d.options.label = some "" then [.emptyLabel d]
      else if d.options.label.any (· ∈ d.depends) then [.ownLabel d] else [] := by
  rw [List.filterMap_eq_flatMap_toList]
  refine List.flatMap_congr fun d _ ↦ ?_
  cases hlabel : d.options.label with
  | none => simp [ownLabelFinding?, hlabel]
  | some label =>
    by_cases hempty : label = ""
    · simp [ownLabelFinding?, hlabel, hempty]
    · by_cases hself : label ∈ d.depends <;>
        simp [ownLabelFinding?, hlabel, hempty, Directive.dependsOn, hself]

theorem fieldFindings_eq (ds : List Directive) :
    fieldFindings ds = ds.flatMap fun d ↦ d.action.fields.flatMap fun (field, value) ↦
      if value.toList.all Text.isBlank then [.blankField d field] else [] := by
  rw [fieldFindings]
  refine List.flatMap_congr fun d _ ↦ ?_
  rw [← List.filterMap_eq_map, List.filterMap_filter, List.filterMap_eq_flatMap_toList]
  refine List.flatMap_congr fun (field, value) _ ↦ ?_
  cases hblank : value.toList.all Text.isBlank <;> simp [Text.allBlank, hblank]

theorem nodup_filterMap_ownLabelFinding? (h : ds.Nodup) :
    (ds.filterMap ownLabelFinding?).Nodup := by
  refine h.filterMap ?_
  intro d d' finding hd hd'
  rw [Option.mem_def, ownLabelFinding?_eq_some_iff] at hd hd'
  rcases hd with ⟨_, rfl⟩ | ⟨_, rfl⟩ <;> rcases hd' with ⟨_, heq⟩ | ⟨_, heq⟩ <;> cases heq <;> rfl

theorem nodup_fields (action : Action) : (action.fields.map Prod.fst).Nodup := by
  cases action <;> simp [Action.fields]

theorem exists_of_mem_fieldFindings {finding : Finding} (h : finding ∈ fieldFindings ds) :
    ∃ d ∈ ds, ∃ field, finding = .blankField d field := by
  obtain ⟨d, hd, hmem⟩ := List.mem_flatMap.mp h
  obtain ⟨⟨field, _⟩, _, rfl⟩ := List.mem_map.mp hmem
  exact ⟨d, hd, field, rfl⟩

/-- The fields of different directives are reported separately. -/
theorem nodup_fieldFindings (h : ds.Nodup) : (fieldFindings ds).Nodup := by
  induction ds with
  | nil => exact List.nodup_nil
  | cons d ds ih =>
    obtain ⟨hd, hrest⟩ := List.nodup_cons.mp h
    rw [fieldFindings, List.flatMap_cons]
    refine List.Nodup.append ?own (ih hrest) ?apart
    case own =>
      have hfields : ((d.action.fields.filter fun (_, value) ↦ Text.allBlank value).map
          Prod.fst).Nodup := (nodup_fields d.action).sublist (List.filter_sublist.map _)
      have hinjective : Function.Injective (Finding.blankField d) := by
        intro _ _ heq
        cases heq
        rfl
      simpa [List.map_map, Function.comp_def] using hfields.map hinjective
    case apart =>
      intro finding hmem hmem'
      obtain ⟨_, _, rfl⟩ := List.mem_map.mp hmem
      obtain ⟨d', hd', _, heq⟩ := exists_of_mem_fieldFindings hmem'
      cases heq
      exact hd hd'

end Causes

/-- Of directives that differ from each other, nothing is reported twice. -/
theorem nodup_findings {c : Config} (h : c.directives.Nodup) : c.findings.Nodup := by
  rw [findings, labelFindings]
  refine List.Nodup.append (List.Nodup.append (nodup_filterMap_ownLabelFinding? h) ?_ ?_)
    (nodup_fieldFindings h) ?_
  · rw [sharedLabelFindings_eq]
    refine (nodup_of_pairwise_bytes (pairwise_sharedCounts _)).map ?_
    rintro ⟨label, n⟩ ⟨label', n'⟩ heq
    cases heq
    rfl
  · intro finding hown hshared
    obtain ⟨_, _, rfl⟩ := mem_sharedLabelFindings_iff.mp hshared
    simp [ownLabelFinding?_eq_some_iff] at hown
  · intro finding hlabel hfield
    obtain ⟨d, _, field, rfl⟩ := exists_of_mem_fieldFindings hfield
    simp [ownLabelFinding?_eq_some_iff, mem_sharedLabelFindings_iff] at hlabel

/-- The findings are what comes of every pass, whatever the order of its table; they are those about
single labels, then the shared labels, then the fields, each cause in its order and once. -/
theorem findings_in_order (c : Config) :
    (∀ findings, c.MayReport findings ↔ findings = c.findings) ∧
    (∃ shared : List (String × Nat),
      c.findings =
        (c.directives.flatMap fun d ↦
          if d.options.label = some "" then [.emptyLabel d]
          else if d.options.label.any (· ∈ d.depends) then [.ownLabel d] else []) ++
        (shared.map fun x ↦ .sharedLabel x.1 x.2) ++
        (c.directives.flatMap fun d ↦ d.action.fields.flatMap fun (field, value) ↦
          if value.toList.all Text.isBlank then [.blankField d field] else []) ∧
      (shared.Pairwise fun a b ↦ bytes a.1 < bytes b.1) ∧
      ∀ label n, (label, n) ∈ shared ↔
        label ≠ "" ∧ 2 ≤ n ∧ c.directives.countP (·.options.label = some label) = n) ∧
    (c.directives.Nodup → c.findings.Nodup) := by
  refine ⟨fun _ ↦ mayReport_iff, ⟨sharedCounts c.directives, ?_, pairwise_sharedCounts _,
    fun _ _ ↦ mem_sharedCounts_iff_countP⟩, nodup_findings⟩
  rw [findings, labelFindings, sharedLabelFindings_eq, filterMap_ownLabelFinding?,
    fieldFindings_eq]

def selfish : Declared String := ⟨"x", { label := some "x", depends := some (.many ["y", "x"]) }⟩

/-- A file whose name cannot be seen. -/
def unseen : Declared String := ⟨"\t", { label := some "é" }⟩

/-- A name for nothing, with an empty label. -/
def hollow : Declared Binding := ⟨⟨" ", "ll"⟩, { label := some "" }⟩

/-- These three, and three directories with labels that are shared. -/
def neglected : Config where
  evaluates := [selfish]
  sources := [unseen]
  aliases := [hollow]
  paths := [⟨"/opt/bin", { label := some "é" }⟩, ⟨"/srv/bin", { label := some "z" }⟩,
    ⟨"/usr/bin", { label := some "z" }⟩]

/-- The label `z` comes before `é`, whose bytes are greater, though a directive with `é` is declared
first. -/
theorem findings_in_order_neglected :
    neglected.MayReport
        [.ownLabel (selfish.directive .run), .emptyLabel (hollow.directive .defineAlias),
          .sharedLabel "z" 2, .sharedLabel "é" 2,
          .blankField (unseen.directive .sourceFile) "path",
          .blankField (hollow.directive .defineAlias) "from"] ∧
      neglected.directives.Nodup ∧ neglected.findings.Nodup := by
  obtain ⟨hpass, _, hnodup⟩ := findings_in_order neglected
  have hdirectives : neglected.directives.Nodup := by decide
  exact ⟨(hpass _).mpr (by decide +kernel), hdirectives, hnodup hdirectives⟩

/-! ## What is told of the findings -/

/-- The list and the item that a finding is about, and the message. -/
def told (f : Finding) : String × String × String := (f.place, f.item, f.message)

theorem map_told_filterMap_ownLabelFinding? (ds : List Directive) :
    (ds.filterMap ownLabelFinding?).map told = ds.flatMap fun d ↦
      match d.options.label with
      | none => []
      | some label =>
        if label = "" then
          [(tag d.action.kind, s!"label={label}", "empty label cannot be depended on")]
        else if label ∈ d.depends then
          [(tag d.action.kind, s!"label={label}", "entry depends on its own label")]
        else [] := by
  rw [filterMap_ownLabelFinding?, List.map_flatMap]
  refine List.flatMap_congr fun d _ ↦ ?_
  cases hlabel : d.options.label with
  | none => rfl
  | some label =>
    by_cases hempty : label = ""
    · simp [hempty, told, Finding.place, Finding.item, Finding.message, Directive.title, hlabel]
    · by_cases hself : label ∈ d.depends <;>
        simp [hempty, hself, told, Finding.place, Finding.item, Finding.message, Directive.title,
          hlabel]

theorem map_told_fieldFindings (ds : List Directive) :
    (fieldFindings ds).map told = ds.flatMap fun d ↦
      d.action.fields.flatMap fun (field, value) ↦
        if value.toList.all Text.isBlank then [(tag d.action.kind, d.title, s!"`{field}` is empty")]
        else [] := by
  rw [fieldFindings_eq, List.map_flatMap]
  refine List.flatMap_congr fun d _ ↦ ?_
  rw [List.map_flatMap]
  refine List.flatMap_congr fun (field, value) _ ↦ ?_
  cases hblank : value.toList.all Text.isBlank <;>
    simp [told, Finding.place, Finding.item, Finding.message, hblank]

/-- Of each finding the list, the item and the message are told, in the same order. -/
theorem map_told_findings (c : Config) :
    ∃ shared : List (String × Nat),
      c.findings.map told =
        (c.directives.flatMap fun d ↦
          match d.options.label with
          | none => []
          | some label =>
            if label = "" then
              [(tag d.action.kind, s!"label={label}", "empty label cannot be depended on")]
            else if label ∈ d.depends then
              [(tag d.action.kind, s!"label={label}", "entry depends on its own label")]
            else []) ++
        (shared.map fun (label, n) ↦
          ("labels", label, s!"declared by {n} entries; dependents wait for all of them")) ++
        (c.directives.flatMap fun d ↦ d.action.fields.flatMap fun (field, value) ↦
          if value.toList.all Text.isBlank then
            [(tag d.action.kind, d.title, s!"`{field}` is empty")]
          else []) ∧
      (shared.Pairwise fun a b ↦ bytes a.1 < bytes b.1) ∧
      ∀ label n, (label, n) ∈ shared ↔
        label ≠ "" ∧ 2 ≤ n ∧ c.directives.countP (·.options.label = some label) = n := by
  refine ⟨sharedCounts c.directives, ?_, pairwise_sharedCounts _,
    fun _ _ ↦ mem_sharedCounts_iff_countP⟩
  rw [findings, labelFindings, List.map_append, List.map_append,
    map_told_filterMap_ownLabelFinding?, map_told_fieldFindings, sharedLabelFindings_eq,
    List.map_map]
  rfl

end Config

end ShellInit
