import Mathlib.Data.List.Forall2
import ShellInit.Proofs.Compile.Comparison

/-!
# Selections as sets

A selection is asked for its members only, and so are the labels that a directive waits for. Members
may therefore be written bare or as a list, in any order and more than once: the outcome is the same,
except that of several undeclared labels of one directive the first that is written is shown.
-/

namespace ShellInit

/-! ## Other spellings -/

/-- The same members, perhaps written otherwise. -/
def Selection.Respelled {α : Type} (s t : Selection α) : Prop :=
  s.toList ⊆ t.toList ∧ t.toList ⊆ s.toList

instance {α : Type} [DecidableEq α] (s t : Selection α) : Decidable (s.Respelled t) :=
  inferInstanceAs (Decidable (s.toList ⊆ t.toList ∧ t.toList ⊆ s.toList))

/-- The same options, with selections of the same members; to wait for no label can be written as an
empty list, or left out. -/
structure Options.Respelled (o o' : Options) : Prop where
  os : Option.Rel Selection.Respelled o.os o'.os
  arch : Option.Rel Selection.Respelled o.arch o'.arch
  shell : Option.Rel Selection.Respelled o.shell o'.shell
  ifExecutable : o.ifExecutable = o'.ifExecutable
  ifExists : o.ifExists = o'.ifExists
  label : o.label = o'.label
  depends : (o.depends.getD (.many [])).Respelled (o'.depends.getD (.many []))

structure Declared.Respelled {α : Type} (item item' : Declared α) : Prop where
  fields : item.fields = item'.fields
  options : item.options.Respelled item'.options

structure Directive.Respelled (d d' : Directive) : Prop where
  action : d.action = d'.action
  options : d.options.Respelled d'.options

/-- The same items in the same order, each with its selections written perhaps otherwise. -/
structure Config.Respelled (c c' : Config) : Prop where
  evaluates : List.Forall₂ Declared.Respelled c.evaluates c'.evaluates
  sources : List.Forall₂ Declared.Respelled c.sources c'.sources
  aliases : List.Forall₂ Declared.Respelled c.aliases c'.aliases
  environments : List.Forall₂ Declared.Respelled c.environments c'.environments
  paths : List.Forall₂ Declared.Respelled c.paths c'.paths

/-- What a selection admits depends on its members alone. -/
theorem Selection.Respelled.admits_iff {α : Type} {s t : Option (Selection α)}
    (h : Option.Rel Selection.Respelled s t) (current : Option α) :
    Admits s current ↔ Admits t current := by
  cases h with
  | none => rfl
  | @some s t h =>
    have hmem (value : α) : value ∈ s.toList ↔ value ∈ t.toList :=
      ⟨fun hvalue ↦ h.1 hvalue, fun hvalue ↦ h.2 hvalue⟩
    simp [Admits, hmem]

namespace Directive.Respelled

variable {d d' : Directive} (h : d.Respelled d')

include h

theorem label_eq : d.label = d'.label := by
  rw [label, label, h.options.label]

theorem mem_depends_iff {label : String} : label ∈ d.depends ↔ label ∈ d'.depends := by
  have hdepends (d : Directive) : d.depends = (d.options.depends.getD (.many [])).toList := by
    rw [depends]
    cases d.options.depends <;> rfl
  rw [hdepends, hdepends]
  exact ⟨fun hlabel ↦ h.options.depends.1 hlabel, fun hlabel ↦ h.options.depends.2 hlabel⟩

theorem applies_iff (shell : Shell) (platform : Platform) :
    d.Applies shell platform ↔ d'.Applies shell platform := by
  rw [Applies, Applies, Selection.Respelled.admits_iff h.options.shell,
    Selection.Respelled.admits_iff h.options.arch, Selection.Respelled.admits_iff h.options.os]

theorem command_eq (dialect : Dialect) : d.command dialect = d'.command dialect := by
  rw [command, command, h.action]

theorem line_eq (dialect : Dialect) : d.line dialect = d'.line dialect := by
  rw [line, line, guarded, guarded, h.command_eq, h.options.ifExecutable, h.options.ifExists]

end Directive.Respelled

theorem Directive.Respelled.waitsFor_eq {d d' e e' : Directive} (hd : d.Respelled d')
    (he : e.Respelled e') : e.waitsFor d = e'.waitsFor d' := by
  rw [← Bool.coe_iff_coe, waitsFor_iff, waitsFor_iff, hd.label_eq, he.mem_depends_iff]

namespace Config

theorem Respelled.ofKind {c c' : Config} (h : c.Respelled c') (kind : Kind) :
    List.Forall₂ Directive.Respelled (c.ofKind kind) (c'.ofKind kind) := by
  have hmap {α : Type} {action : α → Action} {items items' : List (Declared α)}
      (hitems : List.Forall₂ Declared.Respelled items items') :
      List.Forall₂ Directive.Respelled (items.map (Declared.directive action))
        (items'.map (Declared.directive action)) := by
    rw [List.forall₂_map_left_iff, List.forall₂_map_right_iff]
    apply hitems.imp
    intro item item' hitem
    exact ⟨congrArg action hitem.fields, hitem.options⟩
  cases kind with
  | evaluates => exact hmap h.evaluates
  | sources => exact hmap h.sources
  | aliases => exact hmap h.aliases
  | environments => exact hmap h.environments
  | paths => exact hmap h.paths

theorem Respelled.directives {c c' : Config} (h : c.Respelled c') :
    List.Forall₂ Directive.Respelled c.directives c'.directives := by
  have hkinds : List.Forall₂ Eq (Tagged.all : List Kind) Tagged.all :=
    List.forall₂_eq_eq_eq ▸ rfl
  apply List.rel_flatMap hkinds
  rintro kind _ rfl
  exact h.ofKind kind

/-- The directives of two spellings, side by side. -/
theorem Respelled.exists_items {c c' : Config} (h : c.Respelled c') :
    ∃ items : List (Directive × Directive), c.directives = items.map Prod.fst ∧
      c'.directives = items.map Prod.snd ∧ ∀ x ∈ items, x.1.Respelled x.2 := by
  have hlength := h.directives.length_eq
  refine ⟨c.directives.zip c'.directives, ?_, ?_, ?_⟩
  · rw [List.map_fst_zip hlength.le]
  · rw [List.map_snd_zip hlength.ge]
  · rintro ⟨d, d'⟩ hmem
    exact (List.forall₂_iff_zip.mp h.directives).2 hmem

end Config

/-! ## The same outcome -/

/-- Where a label is undeclared, some label is found to be. -/
theorem exists_find?_undeclared {ds : List Directive} {labels : List String} {label : String}
    (hlabel : label ∈ labels) (hnot : ¬IsDeclared ds label) :
    ∃ other, labels.find? (!declares ds ·) = some other := by
  cases hfound : labels.find? (!declares ds ·) with
  | none => exact absurd (find?_undeclared_eq_none_iff.mp hfound label hlabel) hnot
  | some other => exact ⟨other, rfl⟩

/-- The first directive with an undeclared label stands behind those before it. -/
theorem idxOf_refused {ds before after : List Directive} {d : Directive} {label : String}
    (hbefore : ∀ e ∈ before, ∀ other ∈ e.depends, IsDeclared ds other)
    (hlabel : label ∈ d.depends) (hnot : ¬IsDeclared ds label) :
    (before ++ d :: after).idxOf d = before.length := by
  have hd : d ∉ before := fun hmem ↦ hnot (hbefore d hmem label hlabel)
  rw [List.idxOf_append_of_notMem hd, List.idxOf_cons_self, Nat.add_zero]

section Items

variable {items : List (Directive × Directive)} (h : ∀ x ∈ items, x.1.Respelled x.2)

include h

theorem declares_respelled : declares (items.map Prod.fst) = declares (items.map Prod.snd) := by
  apply declares_congr
  rw [List.map_map, List.map_map]
  apply List.map_congr_left
  intro x hx
  exact (h x hx).label_eq

theorem isDeclared_respelled_iff {label : String} :
    IsDeclared (items.map Prod.fst) label ↔ IsDeclared (items.map Prod.snd) label := by
  rw [← declares_eq_true_iff, ← declares_eq_true_iff, declares_respelled h]

theorem allDeclared_respelled_iff :
    AllDeclared (items.map Prod.fst) ↔ AllDeclared (items.map Prod.snd) := by
  simp only [AllDeclared, List.forall_mem_map, isDeclared_respelled_iff h]
  apply forall₂_congr
  intro x hx
  simp only [(h x hx).mem_depends_iff]

/-- The directives of two spellings apply together. -/
theorem filter_respelled (shell : Shell) (platform : Platform) :
    (items.map Prod.snd).filter (·.Applies shell platform) =
      (items.filter (·.1.Applies shell platform)).map Prod.snd := by
  rw [List.filter_map]
  congr 1
  apply List.filter_congr
  intro x hx
  exact decide_eq_decide.mpr ((h x hx).applies_iff shell platform).symm

/-- The directives that apply are released in the same order, and written alike. -/
theorem arrange_respelled (shell : Shell) (platform : Platform) :
    (arrange ((items.map Prod.snd).filter (·.Applies shell platform))).map
        (List.map (·.line shell.dialect)) =
      (arrange ((items.map Prod.fst).filter (·.Applies shell platform))).map
        (List.map (·.line shell.dialect)) := by
  rw [filter_respelled h, List.filter_map]
  apply map_arrange_congr
  · apply congrArg releaseOrder
    apply dependents_congr
    intro x hx y hy
    have hx' := h x (List.mem_of_mem_filter hx)
    have hy' := h y (List.mem_of_mem_filter hy)
    exact (hx'.waitsFor_eq hy').symm
  · intro x hx
    exact ((h x (List.mem_of_mem_filter hx)).line_eq shell.dialect).symm

/-- The refused directive stands at the same position, but may be refused for another of its
labels. -/
theorem exists_isFirstUndeclared_respelled {d : Directive} {label : String}
    (hfirst : IsFirstUndeclared (items.map Prod.fst) d label) :
    ∃ d' label', d.Respelled d' ∧ IsFirstUndeclared (items.map Prod.snd) d' label' ∧
      (items.map Prod.fst).idxOf d = (items.map Prod.snd).idxOf d' := by
  obtain ⟨before, after, hsplit, hbefore, first, rest, hdepends, hrest, hlabel⟩ := hfirst
  obtain ⟨items₁, items₂, rfl, rfl, htail⟩ := List.map_eq_append_iff.mp hsplit
  obtain ⟨x, items₃, rfl, rfl, rfl⟩ := List.map_eq_cons_iff.mp htail
  have hx := h x (by simp)
  have hmem : label ∈ x.1.depends := by simp [hdepends]
  have hnot := (isDeclared_respelled_iff h).not.mp hlabel
  obtain ⟨label', hlabel'⟩ := exists_find?_undeclared (hx.mem_depends_iff.mp hmem) hnot
  have hbefore' : ∀ e ∈ items₁.map Prod.snd, ∀ other ∈ e.depends,
      IsDeclared ((items₁ ++ x :: items₃).map Prod.snd) other := by
    rw [List.forall_mem_map] at hbefore ⊢
    intro y hy other hother
    have hy' := h y (List.mem_append_left _ hy)
    exact (isDeclared_respelled_iff h).mp (hbefore y hy other (hy'.mem_depends_iff.mpr hother))
  have hnew := find?_undeclared_eq_some_iff.mp hlabel'
  refine ⟨x.2, label', hx, ⟨items₁.map Prod.snd, items₃.map Prod.snd, by simp, hbefore', hnew⟩, ?_⟩
  have hmem' : label' ∈ x.2.depends := List.mem_of_find?_eq_some hlabel'
  obtain ⟨_, _, _, _, hnot'⟩ := hnew
  rw [List.map_append, List.map_append, List.map_cons, List.map_cons,
    idxOf_refused hbefore hmem (by simpa using hlabel),
    idxOf_refused hbefore' hmem' (by simpa using hnot')]
  simp

end Items

namespace Config

/-- How selections are written changes nothing but which of several undeclared labels of the refused
directive is shown. -/
theorem compile_respelled {c c' : Config} (h : c.Respelled c') (name : String)
    (platform : Platform) :
    c'.compile name platform = c.compile name platform ∨
      ∃ (shell : Shell) (d d' : Directive) (label label' : String), tag shell = name ∧
        IsFirstUndeclared c.directives d label ∧ IsFirstUndeclared c'.directives d' label' ∧
        c.directives.idxOf d = c'.directives.idxOf d' ∧
        label' ∈ d.depends ∧ ¬IsDeclared c.directives label' ∧
        c.compile name platform = .error (.undeclared label (d.command shell.dialect)) ∧
        c'.compile name platform = .error (.undeclared label' (d.command shell.dialect)) := by
  by_cases hname : name ∈ ["bash", "zsh", "fish"]
  · obtain ⟨shell, rfl⟩ := Shell.mem_names_iff.mp hname
    obtain ⟨items, hds, hds', hitems⟩ := h.exists_items
    cases hfirst : firstUndeclared c.directives with
    | none =>
      left
      have hfirst' : firstUndeclared c'.directives = none := by
        rw [firstUndeclared_eq_none_iff, hds] at hfirst
        rw [firstUndeclared_eq_none_iff, hds']
        exact (allDeclared_respelled_iff hitems).mp hfirst
      rw [compile_tag_eq_match, compile_tag_eq_match, hfirst, hfirst', kept_eq_filter,
        kept_eq_filter, hds, hds', arrange_respelled hitems]
    | some found =>
      right
      obtain ⟨d, label⟩ := found
      have hrefused := firstUndeclared_eq_some_iff.mp hfirst
      rw [hds] at hrefused
      obtain ⟨d', label', hd, hrefused', hposition⟩ :=
        exists_isFirstUndeclared_respelled hitems hrefused
      rw [← hds] at hrefused hposition
      rw [← hds'] at hrefused' hposition
      refine ⟨shell, d, d', label, label', rfl, hrefused, hrefused', hposition, ?_, ?_, ?_, ?_⟩
      · obtain ⟨_, _, _, _, _, _, hdepends, _⟩ := hrefused'
        rw [hd.mem_depends_iff, hdepends]
        simp
      · obtain ⟨_, _, _, _, _, _, _, _, hnot⟩ := hrefused'
        rwa [hds, isDeclared_respelled_iff hitems, ← hds']
      · exact compile_eq_error_undeclared_iff.mpr ⟨d, hrefused, rfl⟩
      · exact compile_eq_error_undeclared_iff.mpr
          ⟨d', hrefused', hd.command_eq shell.dialect⟩
  · left
    rw [compile_of_not_mem c platform hname, compile_of_not_mem c' platform hname]

example :
    let prompt (labels : List String) : Config :=
      { evaluates := [⟨"eval prompt", { depends := some (.many labels) }⟩] }
    (prompt ["color", "tool"]).compile "zsh" ⟨none, none⟩ =
        .error (.undeclared "color" "eval prompt") ∧
      (prompt ["tool", "color"]).compile "zsh" ⟨none, none⟩ =
        .error (.undeclared "tool" "eval prompt") := by
  decide +kernel

/-- The prompt with its selections written otherwise. -/
def promptRespelled : Config where
  evaluates :=
    [⟨"eval prompt", { depends := some (.many ["tools", "colors", "tools"]) }⟩,
      ⟨"greet",
        { shell := some (.many [.fish, .fish])
          label := some "greeting"
          depends := some (.many []) }⟩]
  sources := prompt.sources
  paths :=
    [⟨"/opt/bin", { label := some "tools" }⟩,
      ⟨"/opt/brew/bin", { label := some "tools", os := some (.many [.darwin]) }⟩]

theorem prompt_respelled : prompt.Respelled promptRespelled where
  evaluates :=
    .cons ⟨rfl, .none, .none, .none, rfl, rfl, rfl, by decide⟩ <|
      .cons ⟨rfl, .none, .none, .some (by decide), rfl, rfl, rfl, by decide⟩ .nil
  sources := .cons ⟨rfl, .none, .none, .none, rfl, rfl, rfl, by decide⟩ .nil
  aliases := .nil
  environments := .nil
  paths :=
    .cons ⟨rfl, .none, .none, .none, rfl, rfl, rfl, by decide⟩ <|
      .cons ⟨rfl, .some (by decide), .none, .none, rfl, rfl, rfl, by decide⟩ .nil

/-- The tools come before the colors now in what the prompt waits for, but not in the script. -/
theorem compile_respelled_prompt :
    prompt.Respelled promptRespelled ∧
      promptRespelled.compile "bash" ⟨some .linux, some .x64⟩ =
        .ok "[ -e ~/.colors ] && source ~/.colors\nexport PATH=/opt/bin:$PATH\neval prompt" := by
  have hprompt : prompt.compile "bash" ⟨some .linux, some .x64⟩ = _ := compile_prompt
  refine ⟨prompt_respelled, ?_⟩
  rcases compile_respelled prompt_respelled "bash" ⟨some .linux, some .x64⟩ with
    hsame | ⟨_, _, _, _, _, _, _, _, _, _, _, hrefused, _⟩
  · rw [hsame, hprompt]
  · rw [hprompt] at hrefused
    cases hrefused

end Config

end ShellInit
