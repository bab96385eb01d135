import ShellInit.Proofs.Compile.Outcome

/-!
# Restricting a configuration to a shell and a platform

What does not apply can be removed from a configuration beforehand, together with all selections and
with the labels that nobody declares any more. Only the check of the labels could tell the two
configurations apart: it is made on the whole configuration.
-/

namespace ShellInit

/-- The options for a directive that is known to apply, waiting for some of its labels only. -/
def Options.reduced (declared : String → Bool) (o : Options) : Options :=
  { o with
    os := none
    arch := none
    shell := none
    depends := o.depends.map fun labels ↦ .many (labels.toList.filter declared) }

def Directive.reduced (declared : String → Bool) (d : Directive) : Directive :=
  { d with options := d.options.reduced declared }

/-- The items of a list whose directives apply, reduced. -/
def Declared.restrict {α : Type} (action : α → Action) (applies : Directive → Bool)
    (declared : String → Bool) (items : List (Declared α)) : List (Declared α) :=
  (items.filter fun item ↦ applies (item.directive action)).map
    fun item ↦ { item with options := item.options.reduced declared }

/-- The configuration of the directives that apply, waiting only for labels of each other. -/
def Config.restricted (c : Config) (shell : Shell) (platform : Platform) : Config :=
  let applies : Directive → Bool := (·.Applies shell platform)
  let declared := declares (c.directives.filter applies)
  { evaluates := Declared.restrict .run applies declared c.evaluates
    sources := Declared.restrict .sourceFile applies declared c.sources
    aliases := Declared.restrict .defineAlias applies declared c.aliases
    environments := Declared.restrict .exportVariable applies declared c.environments
    paths := Declared.restrict .addPath applies declared c.paths }

namespace Directive

@[simp]
theorem label_reduced (declared : String → Bool) (d : Directive) :
    (d.reduced declared).label = d.label := rfl

@[simp]
theorem line_reduced (declared : String → Bool) (d : Directive) (dialect : Dialect) :
    (d.reduced declared).line dialect = d.line dialect := rfl

@[simp]
theorem depends_reduced (declared : String → Bool) (d : Directive) :
    (d.reduced declared).depends = d.depends.filter declared := by
  rcases d with ⟨action, options⟩
  cases hdepends : options.depends <;> simp [depends, reduced, Options.reduced, hdepends]

theorem applies_reduced (declared : String → Bool) (d : Directive) (shell : Shell)
    (platform : Platform) : (d.reduced declared).Applies shell platform := by
  simp [Applies, Selection.Admits, reduced, Options.reduced]

/-- Reduced to the labels of a list, the directives of the list wait for each other as before. -/
theorem waitsFor_reduced {ds : List Directive} {d : Directive} (hd : d ∈ ds) (e : Directive) :
    (e.reduced (declares ds)).waitsFor (d.reduced (declares ds)) = e.waitsFor d := by
  rw [← Bool.coe_iff_coe, waitsFor_iff, waitsFor_iff, label_reduced, depends_reduced,
    List.mem_filter, declares_eq_true_iff]
  constructor
  · rintro ⟨hlabel, hdepends, _⟩
    exact ⟨hlabel, hdepends⟩
  · rintro ⟨hlabel, hdepends⟩
    exact ⟨hlabel, hdepends, hlabel, d, hd, rfl⟩

end Directive

theorem Declared.map_restrict {α : Type} (action : α → Action) (applies : Directive → Bool)
    (declared : String → Bool) (items : List (Declared α)) :
    (Declared.restrict action applies declared items).map (Declared.directive action) =
      ((items.map (Declared.directive action)).filter applies).map
        (Directive.reduced declared) := by
  simp only [restrict, List.filter_map, List.map_map]
  rfl

namespace Config

variable {c : Config} {shell : Shell} {platform : Platform}

theorem directives_restricted (c : Config) (shell : Shell) (platform : Platform) :
    (c.restricted shell platform).directives =
      (c.kept shell platform).map (Directive.reduced (declares (c.kept shell platform))) := by
  simp only [kept_eq_filter, directives, Tagged.all, List.flatMap_cons, List.flatMap_nil, ofKind,
    restricted, Declared.map_restrict, List.filter_append, List.map_append, List.filter_nil,
    List.map_nil]

/-- What has been kept applies on every platform. -/
theorem kept_restricted (c : Config) (shell : Shell) (platform platform' : Platform) :
    (c.restricted shell platform).kept shell platform' =
      (c.restricted shell platform).directives := by
  rw [kept_eq_filter, List.filter_eq_self, directives_restricted]
  intro d hd
  obtain ⟨e, _, rfl⟩ := List.mem_map.mp hd
  exact decide_eq_true (e.applies_reduced _ shell platform')

/-- Dependencies on directives that do not apply are gone, and the others are declared. -/
theorem allDeclared_restricted (c : Config) (shell : Shell) (platform : Platform) :
    AllDeclared (c.restricted shell platform).directives := by
  rw [directives_restricted]
  intro d hd label hlabel
  obtain ⟨e, _, rfl⟩ := List.mem_map.mp hd
  rw [Directive.depends_reduced, List.mem_filter, declares_eq_true_iff] at hlabel
  obtain ⟨_, hne, e', he', rfl⟩ := hlabel
  exact ⟨hne, _, List.mem_map_of_mem he', rfl⟩

theorem allDeclared_of_compile_ne
    (h : ∀ label command, c.compile (tag shell) platform ≠ .error (.undeclared label command)) :
    AllDeclared c.directives := by
  by_contra hnot
  obtain ⟨label, command, herror⟩ := exists_compile_eq_error_undeclared_iff.mpr hnot
  exact h label command herror

/-- Compiling what applies gives what compiling the whole gives, on any platform. -/
theorem compile_restricted (c : Config) (shell : Shell) (platform platform' : Platform)
    (h : ∀ label command, c.compile (tag shell) platform ≠ .error (.undeclared label command)) :
    c.compile (tag shell) platform =
      (c.restricted shell platform).compile (tag shell) platform' := by
  have hplan : (c.restricted shell platform).plan shell platform' =
      (c.plan shell platform).map
        (List.map (Directive.reduced (declares (c.kept shell platform)))) := by
    calc
      _ = arrange (c.restricted shell platform).directives := by
        rw [plan_of_allDeclared (c.allDeclared_restricted shell platform), kept_restricted]
      _ = (arrange (c.kept shell platform)).map
            (List.map (Directive.reduced (declares (c.kept shell platform)))) := by
        rw [directives_restricted]
        exact arrange_map fun d hd e _ ↦ Directive.waitsFor_reduced hd e
      _ = _ := by
        rw [plan_of_allDeclared (allDeclared_of_compile_ne h)]
  rw [compile_tag, compile_tag, hplan]
  cases c.plan shell platform with
  | error error => rfl
  | ok out =>
    simp only [Except.map, List.map_map, Function.comp_def, Directive.line_reduced]

/-- What applies on one system is compiled the same for another. -/
theorem compile_restricted_prompt :
    (∀ label command, prompt.compile (tag Shell.bash) ⟨some .linux, some .x64⟩ ≠
      .error (.undeclared label command)) ∧
    prompt.compile (tag Shell.bash) ⟨some .linux, some .x64⟩ =
      (prompt.restricted .bash ⟨some .linux, some .x64⟩).compile (tag Shell.bash)
        ⟨some .darwin, none⟩ := by
  have hdeclared (label command : String) :
      prompt.compile (tag Shell.bash) ⟨some .linux, some .x64⟩ ≠
        .error (.undeclared label command) := by
    rw [compile_prompt]
    simp
  exact ⟨hdeclared, compile_restricted prompt .bash ⟨some .linux, some .x64⟩
    ⟨some .darwin, none⟩ hdeclared⟩

end Config

end ShellInit
