import ShellInit.Proofs.Compile.Place
import ShellInit.Proofs.Config.Findings

/-!
# Findings about labels, and what comes of them

What is found about labels agrees with what compiling makes of them: a directive that is reported for
its own label has an edge to itself, the directives behind a reported label all come before those that
wait for it, and nothing comes behind an empty label.
-/

namespace ShellInit

section Dependents

variable {ds : List Directive} {i : Nat} {d : Directive} (hd : ds[i]? = some d)

include hd

/-- A directive that waits for its own label is held back by itself. -/
theorem isEdge_self_iff : IsEdge (dependents ds) i i ↔ d.waitsFor d = true := by
  rw [isEdge_dependents_iff]
  constructor
  · rintro ⟨_, _, he, he', h⟩
    cases hd.symm.trans he
    cases hd.symm.trans he'
    exact h
  · intro h
    exact ⟨d, d, hd, hd, h⟩

/-- Nothing waits for a directive without a label. -/
theorem getElem?_dependents_of_label_eq (hlabel : d.label = "") :
    (dependents ds)[i]? = some [] := by
  simp [dependents, hd, Directive.waitsFor, Directive.isLabeled, hlabel]

end Dependents

/-- A directive that waits for itself is a circle of its own. -/
theorem cyclic_of_waitsFor_self {ds : List Directive} {d : Directive} (hd : d ∈ ds)
    (h : d.waitsFor d = true) : Cyclic ds := ⟨d, .single (gates_iff.mpr ⟨hd, hd, h⟩)⟩

namespace Config

variable {c : Config} {shell : Shell} {platform : Platform}

/-- A supported shell gets no script only for an undeclared label or a circle. -/
theorem exists_compile_eq_error_iff :
    (∃ error, c.compile (tag shell) platform = .error error) ↔
      ¬(AllDeclared c.directives ∧ ¬Cyclic (c.kept shell platform)) := by
  rw [← exists_compile_eq_ok_iff]
  cases c.compile (tag shell) platform <;> simp

/-- What waits for another directive is emitted behind it. -/
theorem idxOf_emitted_lt_of_waitsFor (hacyclic : ¬Cyclic (c.kept shell platform))
    {x y : Place × Directive} (hx : x ∈ c.emitted shell platform)
    (hy : y ∈ c.emitted shell platform) (h : y.2.waitsFor x.2 = true) :
    (c.emitted shell platform).idxOf x < (c.emitted shell platform).idxOf y := by
  have hperm := emitted_perm hacyclic
  have hgates : Gates ((c.placed.filter (·.2.Applies shell platform)).map Prod.snd) x.2 y.2 :=
    gates_iff.mpr ⟨List.mem_map_of_mem (hperm.mem_iff.mp hx),
      List.mem_map_of_mem (hperm.mem_iff.mp hy), h⟩
  unfold emitted at hx hy ⊢
  apply lt_of_gates_arranged (List.idxOf_lt_length_of_mem hx) (List.idxOf_lt_length_of_mem hy)
  rw [List.getElem_idxOf, List.getElem_idxOf]
  exact .single hgates

/-- A configuration in which some directive waits for the empty label is never compiled. -/
theorem exists_compile_eq_error_of_empty {d : Directive} (hd : d ∈ c.directives)
    (hempty : "" ∈ d.depends) (name : String) (platform : Platform) :
    ∃ error, c.compile name platform = .error error := by
  by_cases hname : name ∈ ["bash", "zsh", "fish"]
  · obtain ⟨shell, rfl⟩ := Shell.mem_names_iff.mp hname
    rw [exists_compile_eq_error_iff]
    rintro ⟨hdeclared, _⟩
    exact (hdeclared d hd "" hempty).1 rfl
  · exact ⟨_, compile_of_not_mem c platform hname⟩

/-- A directive that waits for its own label cannot be arranged where it applies. -/
theorem exists_compile_eq_error_of_waitsFor_self {d : Directive} (hd : d ∈ c.directives)
    (hself : d.waitsFor d = true) (happlies : d.Applies shell platform) :
    ∃ error, c.compile (tag shell) platform = .error error := by
  rw [exists_compile_eq_error_iff]
  rintro ⟨_, hacyclic⟩
  apply hacyclic
  apply cyclic_of_waitsFor_self _ hself
  rw [kept_eq_filter, List.mem_filter]
  exact ⟨hd, decide_eq_true happlies⟩

/-- Findings about labels and what compiling makes of them: a directive that is reported for its own
label, and no other, has an edge to itself in every graph, and there is no script where it applies; a
label is reported with the number of its directives if there are at least two, and in a script all of
them come before what waits for it; what is reported for an empty label has no edges, and there is
never a script if something waits for the empty label. -/
theorem compile_labelFindings (c : Config) :
    (∀ d ∈ c.directives,
      (∀ (ds : List Directive) (i : Nat), ds[i]? = some d →
        (.ownLabel d ∈ labelFindings c.directives ↔ IsEdge (dependents ds) i i)) ∧
      (.ownLabel d ∈ labelFindings c.directives → ∀ shell platform, d.Applies shell platform →
        ∃ error, c.compile (tag shell) platform = .error error)) ∧
    (∀ label n, .sharedLabel label n ∈ labelFindings c.directives ↔
      label ≠ "" ∧ 2 ≤ n ∧ c.directives.countP (·.options.label = some label) = n) ∧
    (∀ shell platform text, c.compile (tag shell) platform = .ok text →
      ∃ out : List (Place × Directive), out.Perm (c.placed.filter (·.2.Applies shell platform)) ∧
        c.plan shell platform = .ok (out.map Prod.snd) ∧
        text = script (out.map (·.2.line shell.dialect)) ∧
        ∀ label ≠ "", ∀ x ∈ out, ∀ y ∈ out, x.2.label = label → label ∈ y.2.depends →
          out.idxOf x < out.idxOf y) ∧
    (∀ d, .emptyLabel d ∈ labelFindings c.directives →
      ∀ (ds : List Directive) (i : Nat), ds[i]? = some d → (dependents ds)[i]? = some []) ∧
    ((∃ d ∈ c.directives, "" ∈ d.depends) →
      ∀ name platform, ∃ error, c.compile name platform = .error error) := by
  refine ⟨?_, ?_, ?_, ?_, ?_⟩
  · intro d hd
    constructor
    · intro ds i hi
      rw [ownLabel_mem_labelFindings_iff, isEdge_self_iff hi, and_iff_right hd]
    · intro hfinding shell platform happlies
      have hself := (ownLabel_mem_labelFindings_iff.mp hfinding).2
      exact exists_compile_eq_error_of_waitsFor_self hd hself happlies
  · intro label n
    exact sharedLabel_mem_labelFindings_iff
  · intro shell platform text htext
    obtain ⟨hdeclared, hacyclic⟩ := exists_compile_eq_ok_iff.mp ⟨text, htext⟩
    rw [compile_of_not_cyclic hdeclared hacyclic] at htext
    refine ⟨c.emitted shell platform, emitted_perm hacyclic,
      plan_of_not_cyclic hdeclared hacyclic, (Except.ok.inj htext).symm, ?_⟩
    rintro _ hne x hx y hy rfl hdepends
    exact idxOf_emitted_lt_of_waitsFor hacyclic hx hy
      ((Directive.waitsFor_iff y.2 x.2).mpr ⟨hne, hdepends⟩)
  · intro d hfinding ds i hi
    have hempty := (emptyLabel_mem_labelFindings_iff.mp hfinding).2
    apply getElem?_dependents_of_label_eq hi
    simp [Directive.label, hempty]
  · rintro ⟨d, hd, hempty⟩ name platform
    exact exists_compile_eq_error_of_empty hd hempty name platform

/-- A prompt with an empty label. -/
def nameless : Declared String :=
  ⟨"eval prompt", { label := some "", depends := some (.one "tools") }⟩

/-- A command that waits for itself in one shell. -/
def loop : Declared String :=
  ⟨"loop", { shell := some (.one .fish), label := some "loop", depends := some (.one "loop") }⟩

/-- Both of them, and two directories with one label. -/
def muddled : Config where
  evaluates := [nameless, loop]
  paths := [⟨"/opt/bin", { label := some "tools" }⟩, ⟨"/srv/bin", { label := some "tools" }⟩]

/-- All three are found; the loop is circular in its shell, and the script for another shell has both
directories before the prompt. -/
theorem compile_labelFindings_muddled :
    labelFindings muddled.directives =
        [.emptyLabel (nameless.directive .run), .ownLabel (loop.directive .run),
          .sharedLabel "tools" 2] ∧
      (∃ error, muddled.compile (tag Shell.fish) ⟨none, none⟩ = .error error) ∧
      (dependents muddled.directives)[0]? = some [] ∧
      ∃ out : List (Place × Directive),
        "export PATH=/opt/bin:$PATH\nexport PATH=/srv/bin:$PATH\neval prompt" =
          script (out.map (·.2.line Shell.zsh.dialect)) ∧
        ∀ label ≠ "", ∀ x ∈ out, ∀ y ∈ out, x.2.label = label → label ∈ y.2.depends →
          out.idxOf x < out.idxOf y := by
  have hfound : labelFindings muddled.directives =
      [.emptyLabel (nameless.directive .run), .ownLabel (loop.directive .run),
        .sharedLabel "tools" 2] := by
    decide +kernel
  have htext : muddled.compile (tag Shell.zsh) ⟨none, none⟩ =
      .ok "export PATH=/opt/bin:$PATH\nexport PATH=/srv/bin:$PATH\neval prompt" := by
    decide +kernel
  obtain ⟨hown, _, hscript, hempty, _⟩ := compile_labelFindings muddled
  refine ⟨hfound, ?_, ?_, ?_⟩
  · have hloop := (hown (loop.directive .run) (by decide)).2
    exact hloop (by simp [hfound]) .fish ⟨none, none⟩ (by decide)
  · exact hempty (nameless.directive .run) (by simp [hfound]) muddled.directives 0 rfl
  · obtain ⟨out, _, _, hlines, horder⟩ := hscript .zsh ⟨none, none⟩ _ htext
    exact ⟨out, hlines, horder⟩

end Config

end ShellInit
