import ShellInit.Proofs.Arrangement

/-!
# The outcome of compiling

When there is a script, and why there is none: the shell has no dialect, a label that is waited for is
declared nowhere, or the directives that apply wait for each other in a circle, asked in this order.
A script holds the lines of the directives that apply, each once, and each after those it waits for.
-/

open Relation

namespace ShellInit

/-! ## Directives that apply -/

/-- What an axis admits: an unset selection admits everything, a set one its members; an unknown
value is a member of none. -/
def Selection.Admits {α : Type} (selection : Option (Selection α)) (current : Option α) : Prop :=
  ∀ s, selection = some s → ∃ value, current = some value ∧ value ∈ s.toList

/-- The test for one axis is right. -/
theorem Selection.admits_eq_true_iff {α : Type} [DecidableEq α] (selection : Option (Selection α))
    (current : Option α) : admits selection current = true ↔ Admits selection current := by
  cases selection with
  | none => simp [admits, Admits]
  | some s => cases current <;> simp [admits, Admits, Selection.contains]

/-- A directive applies if all its axes admit the shell and the platform. -/
def Directive.Applies (d : Directive) (shell : Shell) (platform : Platform) : Prop :=
  Selection.Admits d.options.shell (some shell) ∧
    Selection.Admits d.options.arch platform.arch ∧ Selection.Admits d.options.os platform.os

/-- A directive passes the test for all axes exactly if it applies. -/
theorem Directive.appliesTo_eq_true_iff (d : Directive) (shell : Shell) (platform : Platform) :
    d.appliesTo shell platform = true ↔ d.Applies shell platform := by
  simp only [appliesTo, Bool.and_eq_true, Selection.admits_eq_true_iff, Applies, and_assoc]

instance (d : Directive) (shell : Shell) (platform : Platform) :
    Decidable (d.Applies shell platform) :=
  decidable_of_iff _ (d.appliesTo_eq_true_iff shell platform)

theorem Config.kept_eq_filter (c : Config) (shell : Shell) (platform : Platform) :
    c.kept shell platform = c.directives.filter (·.Applies shell platform) := by
  apply List.filter_congr
  intro d _
  rw [← Bool.coe_iff_coe, d.appliesTo_eq_true_iff, decide_eq_true_iff]

/-! ## Declared labels -/

/-- A label that can be waited for: it is not empty, and some directive has it. -/
def IsDeclared (ds : List Directive) (label : String) : Prop :=
  label ≠ "" ∧ ∃ d ∈ ds, d.label = label

theorem declares_eq_true_iff {ds : List Directive} {label : String} :
    declares ds label = true ↔ IsDeclared ds label := by
  simp only [declares, List.any_eq_true, Bool.and_eq_true, Directive.isLabeled, IsDeclared,
    decide_eq_true_eq, beq_iff_eq]
  constructor
  · rintro ⟨d, hd, hne, rfl⟩
    exact ⟨hne, d, hd, rfl⟩
  · rintro ⟨hne, d, hd, rfl⟩
    exact ⟨d, hd, hne, rfl⟩

def AllDeclared (ds : List Directive) : Prop := ∀ d ∈ ds, ∀ label ∈ d.depends, IsDeclared ds label

/-- The first undeclared label of the first directive that waits for one. -/
def IsFirstUndeclared (ds : List Directive) (d : Directive) (label : String) : Prop :=
  ∃ before after, ds = before ++ d :: after ∧
    (∀ e ∈ before, ∀ other ∈ e.depends, IsDeclared ds other) ∧
    ∃ first rest, d.depends = first ++ label :: rest ∧
      (∀ other ∈ first, IsDeclared ds other) ∧ ¬IsDeclared ds label

theorem find?_undeclared_eq_none_iff {ds : List Directive} {labels : List String} :
    (labels.find? fun label ↦ !declares ds label) = none ↔
      ∀ label ∈ labels, IsDeclared ds label := by
  simp [declares_eq_true_iff]

theorem find?_undeclared_eq_some_iff {ds : List Directive} {labels : List String}
    {label : String} :
    (labels.find? fun label ↦ !declares ds label) = some label ↔
      ∃ first rest, labels = first ++ label :: rest ∧
        (∀ other ∈ first, IsDeclared ds other) ∧ ¬IsDeclared ds label := by
  rw [List.find?_eq_some_iff_append, ← declares_eq_true_iff]
  constructor
  · rintro ⟨hlabel, first, rest, hsplit, hfirst⟩
    refine ⟨first, rest, hsplit, ?_, by simpa using hlabel⟩
    intro other hother
    simpa [declares_eq_true_iff] using hfirst other hother
  · rintro ⟨first, rest, hsplit, hfirst, hlabel⟩
    refine ⟨by simpa using hlabel, first, rest, hsplit, ?_⟩
    intro other hother
    simpa [declares_eq_true_iff] using hfirst other hother

theorem firstUndeclared_eq_none_iff {ds : List Directive} :
    firstUndeclared ds = none ↔ AllDeclared ds := by
  simp only [firstUndeclared, List.findSome?_eq_none_iff, Option.map_eq_none_iff,
    find?_undeclared_eq_none_iff, AllDeclared]

/-- The search finds the first undeclared label of the first directive that has one. -/
theorem firstUndeclared_eq_some_iff {ds : List Directive} {d : Directive} {label : String} :
    firstUndeclared ds = some (d, label) ↔ IsFirstUndeclared ds d label := by
  simp only [firstUndeclared, List.findSome?_eq_some_iff, Option.map_eq_none_iff,
    Option.map_eq_some_iff, find?_undeclared_eq_none_iff, find?_undeclared_eq_some_iff,
    Prod.mk.injEq, IsFirstUndeclared]
  constructor
  · rintro ⟨before, e, after, hsplit, ⟨other, hother, rfl, rfl⟩, hbefore⟩
    exact ⟨before, after, hsplit, hbefore, hother⟩
  · rintro ⟨before, after, hsplit, hbefore, hlabel⟩
    exact ⟨before, d, after, hsplit, ⟨label, hlabel, rfl, rfl⟩, hbefore⟩

/-- There is a first undeclared label exactly if some label that is waited for is undeclared. -/
theorem exists_isFirstUndeclared_iff {ds : List Directive} :
    (∃ label d, IsFirstUndeclared ds d label) ↔
      ∃ d ∈ ds, ∃ label ∈ d.depends, ¬IsDeclared ds label := by
  have hall : (∃ d ∈ ds, ∃ label ∈ d.depends, ¬IsDeclared ds label) ↔ ¬AllDeclared ds := by
    unfold AllDeclared
    push Not
    rfl
  rw [hall, ← firstUndeclared_eq_none_iff]
  simp only [← firstUndeclared_eq_some_iff]
  cases firstUndeclared ds with
  | none => simp
  | some found => exact iff_of_true ⟨found.2, found.1, rfl⟩ (by simp)

/-! ## Names of shells -/

theorem Shell.named_tag (shell : Shell) : Shell.named (tag shell) = .ok shell := by
  cases shell <;> rfl

theorem Shell.mem_names_iff {name : String} :
    name ∈ ["bash", "zsh", "fish"] ↔ ∃ shell : Shell, tag shell = name := by
  simp only [List.mem_cons, List.not_mem_nil, or_false]
  constructor
  · rintro (rfl | rfl | rfl)
    · exact ⟨.bash, rfl⟩
    · exact ⟨.zsh, rfl⟩
    · exact ⟨.fish, rfl⟩
  · rintro ⟨shell, rfl⟩
    cases shell <;> simp [tag]

theorem Shell.tag_injective : Function.Injective (tag : Shell → String) := by
  intro shell other h
  have hnamed := Shell.named_tag shell
  rw [h, Shell.named_tag] at hnamed
  exact (Except.ok.inj hnamed).symm

theorem Shell.named_of_not_mem {name : String} (h : name ∉ ["bash", "zsh", "fish"]) :
    Shell.named name = .error (.unsupportedShell name) := by
  rw [Shell.mem_names_iff] at h
  cases hshell : (ofTag? name : Option Shell) with
  | none => simp [Shell.named, hshell]
  | some shell => exact absurd ⟨shell, tag_of_ofTag?_eq_some hshell⟩ h

/-! ## Plans -/

namespace Config

variable {c : Config} {shell : Shell} {platform : Platform}

/-- Labels are checked for all directives, but only those that apply are arranged. -/
theorem plan_eq_match (c : Config) (shell : Shell) (platform : Platform) :
    c.plan shell platform =
      match firstUndeclared c.directives with
      | some (d, label) => .error (.undeclared label (d.command shell.dialect))
      | none => arrange (c.kept shell platform) := by
  rw [plan, checkDeclared]
  cases firstUndeclared c.directives <;> rfl

theorem plan_of_allDeclared (h : AllDeclared c.directives) :
    c.plan shell platform = arrange (c.kept shell platform) := by
  rw [plan_eq_match, firstUndeclared_eq_none_iff.mpr h]

theorem plan_eq_error_undeclared_iff {label command : String} :
    c.plan shell platform = .error (.undeclared label command) ↔
      ∃ d, IsFirstUndeclared c.directives d label ∧ command = d.command shell.dialect := by
  simp only [plan_eq_match, ← firstUndeclared_eq_some_iff]
  cases firstUndeclared c.directives with
  | none => simp [arrange_eq_error_iff]
  | some found =>
    simp only [Except.error.injEq, CompileError.undeclared.injEq, Option.some.injEq]
    constructor
    · rintro ⟨rfl, rfl⟩
      exact ⟨found.1, rfl, rfl⟩
    · rintro ⟨d, rfl, rfl⟩
      exact ⟨rfl, rfl⟩

/-- Circles count among the directives that apply, and only if all labels are declared. -/
theorem plan_eq_error_circular_iff :
    c.plan shell platform = .error .circular ↔
      AllDeclared c.directives ∧ Cyclic (c.kept shell platform) := by
  rw [plan_eq_match, ← firstUndeclared_eq_none_iff]
  cases firstUndeclared c.directives <;> simp [arrange_eq_error_iff]

theorem plan_eq_ok_iff {out : List Directive} :
    c.plan shell platform = .ok out ↔
      AllDeclared c.directives ∧ ¬Cyclic (c.kept shell platform) ∧
        arranged id (c.kept shell platform) = out := by
  rw [plan_eq_match, ← firstUndeclared_eq_none_iff]
  cases firstUndeclared c.directives <;> simp [arrange_eq_ok_iff]

theorem plan_ne_error_unsupportedShell {other : String} :
    c.plan shell platform ≠ .error (.unsupportedShell other) := by
  rw [plan_eq_match]
  cases firstUndeclared c.directives <;> simp [arrange_eq_error_iff]

/-! ## Outcomes -/

/-- An unknown shell is refused before anything else is looked at. -/
theorem compile_of_not_mem (c : Config) (platform : Platform) {name : String}
    (h : name ∉ ["bash", "zsh", "fish"]) :
    c.compile name platform = .error (.unsupportedShell name) := by
  rw [compile, Shell.named_of_not_mem h]
  rfl

/-- For a supported shell, the script holds the lines of what is planned. -/
theorem compile_tag (c : Config) (shell : Shell) (platform : Platform) :
    c.compile (tag shell) platform =
      (c.plan shell platform).map fun out ↦ script (out.map (·.line shell.dialect)) := by
  rw [compile, Shell.named_tag]
  change (c.plan shell platform >>= fun out ↦ .ok (script (out.map (·.line shell.dialect)))) = _
  cases c.plan shell platform <;> rfl

/-- The outcome as one choice: the first undeclared label, or what becomes of the arrangement. -/
theorem compile_tag_eq_match (c : Config) (shell : Shell) (platform : Platform) :
    c.compile (tag shell) platform =
      match (firstUndeclared c.directives).map
        fun x ↦ CompileError.undeclared x.2 (x.1.command shell.dialect) with
      | some error => .error error
      | none => ((arrange (c.kept shell platform)).map (List.map (·.line shell.dialect))).map
          script := by
  rw [compile_tag, plan_eq_match]
  cases firstUndeclared c.directives with
  | none => cases arrange (c.kept shell platform) <;> rfl
  | some => rfl

theorem compile_tag_eq_error_iff {error : CompileError} :
    c.compile (tag shell) platform = .error error ↔ c.plan shell platform = .error error := by
  rw [compile_tag]
  cases c.plan shell platform <;> simp [Except.map]

theorem compile_tag_eq_ok_iff {text : String} :
    c.compile (tag shell) platform = .ok text ↔
      ∃ out, c.plan shell platform = .ok out ∧
        script (out.map (·.line shell.dialect)) = text := by
  rw [compile_tag]
  cases c.plan shell platform <;> simp [Except.map]

theorem compile_eq_error_undeclared_iff {label command : String} :
    c.compile (tag shell) platform = .error (.undeclared label command) ↔
      ∃ d, IsFirstUndeclared c.directives d label ∧ command = d.command shell.dialect := by
  rw [compile_tag_eq_error_iff, plan_eq_error_undeclared_iff]

theorem exists_compile_eq_error_undeclared_iff :
    (∃ label command, c.compile (tag shell) platform = .error (.undeclared label command)) ↔
      ¬AllDeclared c.directives := by
  rw [← firstUndeclared_eq_none_iff]
  simp only [compile_tag_eq_error_iff, plan_eq_match]
  cases firstUndeclared c.directives with
  | none => simp [arrange_eq_error_iff]
  | some found => simp

/-- Every outcome of compiling, and when it arises. -/
theorem compile_outcome (c : Config) (name : String) (platform : Platform) :
    (∀ other, c.compile name platform = .error (.unsupportedShell other) ↔
      name ∉ ["bash", "zsh", "fish"] ∧ other = name) ∧
    (∀ label command, c.compile name platform = .error (.undeclared label command) ↔
      ∃ shell : Shell, tag shell = name ∧
        ∃ d, IsFirstUndeclared c.directives d label ∧ command = d.command shell.dialect) ∧
    ((∃ label command, c.compile name platform = .error (.undeclared label command)) ↔
      ∃ shell : Shell, tag shell = name ∧
        ∃ d ∈ c.directives, ∃ label ∈ d.depends, ¬IsDeclared c.directives label) ∧
    (c.compile name platform = .error .circular ↔
      ∃ shell : Shell, tag shell = name ∧ AllDeclared c.directives ∧
        Cyclic (c.directives.filter (·.Applies shell platform))) ∧
    ((∃ text, c.compile name platform = .ok text) ↔
      ∃ shell : Shell, tag shell = name ∧ AllDeclared c.directives ∧
        ¬Cyclic (c.directives.filter (·.Applies shell platform))) := by
  by_cases hname : name ∈ ["bash", "zsh", "fish"]
  · obtain ⟨shell, rfl⟩ := Shell.mem_names_iff.mp hname
    have honly {holds : Shell → Prop} :
        (∃ other, tag other = tag shell ∧ holds other) ↔ holds shell := by
      simp [Shell.tag_injective.eq_iff]
    simp only [honly, compile_tag_eq_error_iff, compile_tag_eq_ok_iff, ← kept_eq_filter]
    refine ⟨?_, ?_, ?_, plan_eq_error_circular_iff, ?_⟩
    · intro other
      simp [plan_ne_error_unsupportedShell, hname]
    · intro label command
      exact plan_eq_error_undeclared_iff
    · rw [← exists_isFirstUndeclared_iff]
      simp [plan_eq_error_undeclared_iff]
    · simp [plan_eq_ok_iff]
  · have hnone (holds : Shell → Prop) : ¬∃ shell, tag shell = name ∧ holds shell := by
      rintro ⟨shell, hshell, _⟩
      exact hname (Shell.mem_names_iff.mpr ⟨shell, hshell⟩)
    simp only [compile_of_not_mem c platform hname, hnone, hname]
    refine ⟨?_, ?_, ?_, ?_, ?_⟩
    · intro other
      simp [eq_comm]
    all_goals simp

/-! ## Scripts -/

/-- A script holds the lines of the directives that apply, each once, and each directive stands
behind those it waits for, if only over others. -/
theorem compile_arranges (c : Config) (shell : Shell) (platform : Platform) {text : String}
    (h : c.compile (tag shell) platform = .ok text) :
    ∃ out : List Directive, out.Perm (c.directives.filter (·.Applies shell platform)) ∧
      text = "\n".intercalate (out.map (·.line shell.dialect)) ∧
      ∀ p q (hp : p < out.length) (hq : q < out.length),
        TransGen (Gates out) out[p] out[q] → p < q := by
  obtain ⟨out, hplan, rfl⟩ := compile_tag_eq_ok_iff.mp h
  obtain ⟨_, hacyclic, rfl⟩ := plan_eq_ok_iff.mp hplan
  rw [← kept_eq_filter]
  have hacyclic' : ¬Cyclic ((c.kept shell platform).map id) := by rwa [List.map_id]
  have hperm := arranged_perm hacyclic'
  refine ⟨_, hperm, rfl, ?_⟩
  intro p q hp hq hpath
  have hmono : Gates (arranged id (c.kept shell platform)) ≤
      Gates ((c.kept shell platform).map id) := fun _ _ ↦
    Gates.mono (by rw [List.map_id]; exact hperm.subset)
  exact lt_of_gates_arranged hp hq (TransGen.mono hmono _ _ hpath)

/-- A prompt that waits for two labels; one of them is shared with a directive for another system. -/
def prompt : Config where
  evaluates :=
    [⟨"eval prompt", { depends := some (.many ["colors", "tools"]) }⟩,
      ⟨"greet", { shell := some (.one .fish), label := some "greeting" }⟩]
  sources := [⟨"~/.colors", { label := some "colors", ifExists := some "~/.colors" }⟩]
  paths :=
    [⟨"/opt/bin", { label := some "tools" }⟩,
      ⟨"/opt/brew/bin", { label := some "tools", os := some (.one .darwin) }⟩]

/-- The script of the prompt for one shell on one platform. -/
theorem compile_prompt :
    prompt.compile (tag Shell.bash) ⟨some .linux, some .x64⟩ =
      .ok "[ -e ~/.colors ] && source ~/.colors\nexport PATH=/opt/bin:$PATH\neval prompt" := by
  decide +kernel

theorem compile_arranges_prompt :
    ∃ out : List Directive,
      out.Perm (prompt.directives.filter (·.Applies .bash ⟨some .linux, some .x64⟩)) ∧
      "[ -e ~/.colors ] && source ~/.colors\nexport PATH=/opt/bin:$PATH\neval prompt" =
        "\n".intercalate (out.map (·.line Shell.bash.dialect)) ∧
      ∀ p q (hp : p < out.length) (hq : q < out.length),
        TransGen (Gates out) out[p] out[q] → p < q :=
  compile_arranges prompt .bash ⟨some .linux, some .x64⟩ compile_prompt

end Config

end ShellInit
