import Mathlib.Data.List.Sigma
import ShellInit.Proofs.Compile.Outcome

/-!
# Places of directives

Two directives of a configuration may be equal. What is said of one of them, or of the order in
which they are emitted, therefore names them by the places where they are declared.
-/

namespace ShellInit.Config

/-- Where a directive is declared: in which list, and at which position of it. -/
abbrev Place := Kind × Nat

/-- All directives with their places, in the order of declaration. -/
def placed (c : Config) : List (Place × Directive) :=
  (Tagged.all : List Kind).flatMap fun kind ↦
    (c.ofKind kind).zipIdx.map fun (d, i) ↦ ((kind, i), d)

/-- The directives of the script with their places, in the order of their lines. -/
def emitted (c : Config) (shell : Shell) (platform : Platform) : List (Place × Directive) :=
  arranged Prod.snd (c.placed.filter (·.2.Applies shell platform))

theorem map_snd_placed (c : Config) : c.placed.map Prod.snd = c.directives := by
  simp only [placed, directives, List.map_flatMap, List.map_map, Function.comp_def,
    List.zipIdx_map_fst]

theorem kept_eq_map_placed (c : Config) (shell : Shell) (platform : Platform) :
    c.kept shell platform =
      (c.placed.filter (·.2.Applies shell platform)).map Prod.snd := by
  rw [kept_eq_filter, ← map_snd_placed, List.filter_map]
  rfl

theorem plan_of_not_cyclic {c : Config} {shell : Shell} {platform : Platform}
    (hdeclared : AllDeclared c.directives) (hacyclic : ¬Cyclic (c.kept shell platform)) :
    c.plan shell platform = .ok ((c.emitted shell platform).map Prod.snd) := by
  rw [kept_eq_map_placed] at hacyclic
  rw [plan_of_allDeclared hdeclared, kept_eq_map_placed, arrange_map_of_not_cyclic hacyclic]
  rfl

theorem compile_of_not_cyclic {c : Config} {shell : Shell} {platform : Platform}
    (hdeclared : AllDeclared c.directives) (hacyclic : ¬Cyclic (c.kept shell platform)) :
    c.compile (tag shell) platform =
      .ok (script ((c.emitted shell platform).map (·.2.line shell.dialect))) := by
  rw [compile_tag, plan_of_not_cyclic hdeclared hacyclic, Except.map, List.map_map]
  rfl

/-- A supported shell gets a script if all labels are declared, and no directive that applies waits
for itself. -/
theorem exists_compile_eq_ok_iff {c : Config} {shell : Shell} {platform : Platform} :
    (∃ text, c.compile (tag shell) platform = .ok text) ↔
      AllDeclared c.directives ∧ ¬Cyclic (c.kept shell platform) := by
  simp [compile_tag_eq_ok_iff, plan_eq_ok_iff]

/-- Without a circle, exactly the directives that apply are emitted, each once. -/
theorem emitted_perm {c : Config} {shell : Shell} {platform : Platform}
    (hacyclic : ¬Cyclic (c.kept shell platform)) :
    (c.emitted shell platform).Perm (c.placed.filter (·.2.Applies shell platform)) := by
  rw [kept_eq_map_placed] at hacyclic
  exact arranged_perm hacyclic

theorem mem_placed_iff {c : Config} {kind : Kind} {i : Nat} {d : Directive} :
    ((kind, i), d) ∈ c.placed ↔ (c.ofKind kind)[i]? = some d := by
  simp only [placed, List.mem_flatMap, List.mem_map, Prod.mk.injEq]
  constructor
  · rintro ⟨_, _, ⟨e, j⟩, he, ⟨rfl, rfl⟩, rfl⟩
    exact List.mem_zipIdx_iff_getElem?.mp he
  · intro hd
    refine ⟨kind, ?_, (d, i), List.mem_zipIdx_iff_getElem?.mpr hd, ⟨rfl, rfl⟩, rfl⟩
    cases kind <;> decide

/-- There is one directive at a place. -/
theorem eq_of_mem_placed {c : Config} {place : Place} {d e : Directive}
    (hd : (place, d) ∈ c.placed) (he : (place, e) ∈ c.placed) : d = e := by
  rw [mem_placed_iff] at hd he
  exact Option.some.inj (hd.symm.trans he)

/-- No place is listed twice. -/
theorem nodup_placed (c : Config) : c.placed.Nodup := by
  rw [placed, List.nodup_flatMap]
  constructor
  · intro kind _
    have hpositions := List.nodup_zipIdx_map_snd (c.ofKind kind)
    apply (hpositions.of_map _).map
    rintro ⟨d, i⟩ ⟨e, j⟩ heq
    simpa [and_comm] using heq
  · have hkinds : (Tagged.all : List Kind).Nodup := by decide
    refine List.Pairwise.imp ?_ hkinds
    rintro kind kind' hne ⟨place, d⟩ hmem hmem'
    simp only [List.mem_map, Prod.mk.injEq] at hmem hmem'
    obtain ⟨_, _, rfl, _⟩ := hmem
    obtain ⟨_, _, heq, _⟩ := hmem'
    exact hne (Prod.mk.inj heq).1.symm

theorem nodup_emitted {c : Config} {shell : Shell} {platform : Platform}
    (hacyclic : ¬Cyclic (c.kept shell platform)) : (c.emitted shell platform).Nodup :=
  (emitted_perm hacyclic).nodup_iff.mpr (c.nodup_placed.filter _)

theorem mem_directives_of_mem_placed {c : Config} {x : Place × Directive} (hx : x ∈ c.placed) :
    x.2 ∈ c.directives := by
  rw [← map_snd_placed]
  exact List.mem_map_of_mem hx

end ShellInit.Config
