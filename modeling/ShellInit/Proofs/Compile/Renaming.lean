import Mathlib.Logic.Equiv.Basic
import ShellInit.Proofs.Compile.Comparison

/-!
# Renaming labels

A label is compared with other labels and with the empty one, and shown when it is refused. Nothing
else is done with it, so labels can be renamed throughout a configuration as long as different ones
stay different and the empty one stays empty: the script remains as it is, and a refused label is
shown by its new name.
-/

namespace ShellInit

/-! ## New names -/

def Selection.map {α β : Type} (f : α → β) : Selection α → Selection β
  | .one value => .one (f value)
  | .many values => .many (values.map f)

@[simp]
theorem Selection.toList_map {α β : Type} (f : α → β) (s : Selection α) :
    (s.map f).toList = s.toList.map f := by
  cases s <;> rfl

/-- The options with another name for each label that is declared or waited for. -/
def Options.renamed (rename : String → String) (o : Options) : Options :=
  { o with
    label := o.label.map rename
    depends := o.depends.map (Selection.map rename) }

abbrev Directive.renamed (rename : String → String) : Directive → Directive :=
  Directive.mapOptions (Options.renamed rename)

def Config.renamed (rename : String → String) (c : Config) : Config :=
  c.mapOptions (Options.renamed rename)

def CompileError.renamed (rename : String → String) : CompileError → CompileError
  | .undeclared label command => .undeclared (rename label) command
  | .circular => .circular
  | .unsupportedShell name => .unsupportedShell name

namespace Directive

variable (rename : String → String) (d : Directive)

@[simp]
theorem depends_renamed : (d.renamed rename).depends = d.depends.map rename := by
  rcases d with ⟨action, options⟩
  cases hdepends : options.depends <;>
    simp [depends, renamed, mapOptions, Options.renamed, hdepends]

theorem applies_renamed (shell : Shell) (platform : Platform) :
    (d.renamed rename).Applies shell platform ↔ d.Applies shell platform := Iff.rfl

theorem line_renamed (dialect : Dialect) :
    (d.renamed rename).line dialect = d.line dialect := rfl

end Directive

section Rename

variable {rename : String → String} (hempty : rename "" = "")

include hempty

theorem Directive.label_renamed (d : Directive) : (d.renamed rename).label = rename d.label := by
  rcases d with ⟨action, options⟩
  cases hlabel : options.label <;>
    simp [label, renamed, mapOptions, Options.renamed, hlabel, hempty]

variable (hinjective : Function.Injective rename)

include hinjective

/-- A new name is empty only for the empty label. -/
theorem rename_ne_empty_iff {label : String} : rename label ≠ "" ↔ label ≠ "" := by
  nth_rewrite 1 [← hempty]
  exact hinjective.ne_iff

/-- Directives wait for each other under the new names as under the old. -/
theorem Directive.waitsFor_renamed (d e : Directive) :
    (e.renamed rename).waitsFor (d.renamed rename) = e.waitsFor d := by
  rw [← Bool.coe_iff_coe, waitsFor_iff, waitsFor_iff, label_renamed hempty, depends_renamed,
    rename_ne_empty_iff hempty hinjective, List.mem_map_of_injective hinjective]

theorem isDeclared_renamed_iff {ds : List Directive} {label : String} :
    IsDeclared (ds.map (Directive.renamed rename)) (rename label) ↔ IsDeclared ds label := by
  simp only [IsDeclared, rename_ne_empty_iff hempty hinjective, List.mem_map,
    exists_exists_and_eq_and, Directive.label_renamed hempty, hinjective.eq_iff]

theorem declares_renamed (ds : List Directive) (label : String) :
    declares (ds.map (Directive.renamed rename)) (rename label) = declares ds label := by
  rw [← Bool.coe_iff_coe, declares_eq_true_iff, declares_eq_true_iff,
    isDeclared_renamed_iff hempty hinjective]

/-- The same directive is refused, for the same of its labels under its new name. -/
theorem firstUndeclared_renamed (ds : List Directive) :
    firstUndeclared (ds.map (Directive.renamed rename)) =
      (firstUndeclared ds).map fun x ↦ (x.1.renamed rename, rename x.2) :=
  firstUndeclared_map rename (Directive.depends_renamed rename)
    (declares_renamed hempty hinjective ds)

end Rename

namespace Config

theorem directives_renamed (rename : String → String) (c : Config) :
    (c.renamed rename).directives = c.directives.map (Directive.renamed rename) :=
  c.directives_mapOptions _

theorem kept_renamed (rename : String → String) (c : Config) (shell : Shell)
    (platform : Platform) :
    (c.renamed rename).kept shell platform =
      (c.kept shell platform).map (Directive.renamed rename) :=
  kept_mapOptions (fun d ↦ d.applies_renamed rename shell platform) c

section Rename

variable {rename : String → String} (hempty : rename "" = "")
  (hinjective : Function.Injective rename)

include hempty hinjective

/-- The same directives are planned in the same order, or refused for the same reason. -/
theorem plan_renamed (c : Config) (shell : Shell) (platform : Platform) :
    (c.renamed rename).plan shell platform =
      ((c.plan shell platform).map (List.map (Directive.renamed rename))).mapError
        (CompileError.renamed rename) := by
  rw [plan_eq_match, plan_eq_match, directives_renamed,
    firstUndeclared_renamed hempty hinjective, kept_renamed,
    arrange_map fun d _ e _ ↦ Directive.waitsFor_renamed hempty hinjective d e]
  cases firstUndeclared c.directives with
  | some found => rfl
  | none =>
    by_cases hcyclic : Cyclic (c.kept shell platform)
    · rw [arrange_of_cyclic hcyclic]
      rfl
    · rw [arrange_of_not_cyclic hcyclic]
      rfl

theorem isFirstUndeclared_renamed {c : Config} {d : Directive} {label : String}
    (h : IsFirstUndeclared c.directives d label) :
    IsFirstUndeclared (c.renamed rename).directives (d.renamed rename) (rename label) := by
  rw [← firstUndeclared_eq_some_iff] at h ⊢
  rw [directives_renamed, firstUndeclared_renamed hempty hinjective, h]
  rfl

theorem compile_tag_renamed (c : Config) (shell : Shell) (platform : Platform) :
    (c.renamed rename).compile (tag shell) platform =
      (c.compile (tag shell) platform).mapError (CompileError.renamed rename) := by
  rw [compile_tag, compile_tag, plan_renamed hempty hinjective]
  cases c.plan shell platform with
  | error => rfl
  | ok out =>
    simp only [Except.map, Except.mapError, List.map_map, Function.comp_def,
      Directive.line_renamed]

/-- Renaming labels changes nothing but the name under which a label is refused. -/
theorem compile_renamed (c : Config) (name : String) (platform : Platform) :
    (c.renamed rename).compile name platform =
        (c.compile name platform).mapError (CompileError.renamed rename) ∧
      ∀ label command, c.compile name platform = .error (.undeclared label command) →
        ∃ (shell : Shell) (d : Directive), tag shell = name ∧
          command = d.command shell.dialect ∧ IsFirstUndeclared c.directives d label ∧
          IsFirstUndeclared (c.renamed rename).directives (d.renamed rename) (rename label) := by
  by_cases hname : name ∈ ["bash", "zsh", "fish"]
  · obtain ⟨shell, rfl⟩ := Shell.mem_names_iff.mp hname
    refine ⟨compile_tag_renamed hempty hinjective c shell platform, ?_⟩
    intro label command herror
    obtain ⟨d, hfirst, hcommand⟩ := compile_eq_error_undeclared_iff.mp herror
    exact ⟨shell, d, rfl, hcommand, hfirst,
      isFirstUndeclared_renamed hempty hinjective hfirst⟩
  · simp only [compile_of_not_mem _ platform hname]
    refine ⟨rfl, ?_⟩
    intro label command herror
    cases herror

end Rename

/-- A prompt that waits for a label that nobody declares. -/
def mistyped : Config where
  evaluates := [⟨"eval prompt", { depends := some (.many ["tools", "color"]) }⟩]
  sources := [⟨"~/.colors", { label := some "colors" }⟩]
  paths := [⟨"/opt/bin", { label := some "tools" }⟩]

/-- Of two labels that are exchanged, the other one is refused; of two that are declared, neither. -/
theorem compile_renamed_swap :
    (mistyped.renamed (Equiv.swap "tools" "color")).compile "zsh" ⟨none, none⟩ =
        .error (.undeclared "tools" "eval prompt") ∧
      (prompt.renamed (Equiv.swap "tools" "colors")).compile "bash" ⟨some .linux, some .x64⟩ =
        .ok "[ -e ~/.colors ] && source ~/.colors\nexport PATH=/opt/bin:$PATH\neval prompt" := by
  have hmistyped : mistyped.compile "zsh" ⟨none, none⟩ =
      .error (.undeclared "color" "eval prompt") := by
    decide +kernel
  have hempty (label : String) (h : "" ≠ label) : Equiv.swap "tools" label "" = "" :=
    Equiv.swap_apply_of_ne_of_ne (by decide) h
  have hcolor := compile_renamed (hempty "color" (by decide))
    (Equiv.injective _) mistyped "zsh" ⟨none, none⟩
  have hcolors := compile_renamed (hempty "colors" (by decide))
    (Equiv.injective _) prompt "bash" ⟨some .linux, some .x64⟩
  have hprompt : prompt.compile "bash" ⟨some .linux, some .x64⟩ = _ := compile_prompt
  refine ⟨?_, ?_⟩
  · rw [hcolor.1, hmistyped, Except.mapError, CompileError.renamed, Equiv.swap_apply_right]
  · rw [hcolors.1, hprompt, Except.mapError]

end Config

end ShellInit
