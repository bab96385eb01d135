import Mathlib.Data.List.Chain
import ShellInit.Proofs.Compile.Outcome

/-!
# Another order of declaration

A configuration may list its directives in another order. Which labels are declared and who waits
for whom remains the same, so the outcome is of the same sort and the script has the same lines; and
if of any two directives one waits for the other, only one order of the lines is possible.
-/

open Relation

namespace ShellInit

section Perm

variable {ds ds' : List Directive} (hperm : ds.Perm ds')

include hperm

theorem isDeclared_iff_of_perm {label : String} : IsDeclared ds label ↔ IsDeclared ds' label := by
  simp only [IsDeclared, hperm.mem_iff]

theorem allDeclared_iff_of_perm : AllDeclared ds ↔ AllDeclared ds' := by
  simp only [AllDeclared, hperm.mem_iff, isDeclared_iff_of_perm hperm]

theorem gates_eq_of_perm : Gates ds = Gates ds' := by
  funext d e
  simp only [Gates, hperm.mem_iff]

/-- Circles do not depend on the order of declaration. -/
theorem cyclic_iff_of_perm : Cyclic ds ↔ Cyclic ds' := by
  rw [Cyclic, Cyclic, gates_eq_of_perm hperm]

end Perm

/-! ## Directives in a row -/

/-- Of any two different directives one waits for the other, if only over others. -/
def InRow (ds : List Directive) : Prop :=
  ∀ d ∈ ds, ∀ e ∈ ds, d ≠ e → TransGen (Gates ds) d e ∨ TransGen (Gates ds) e d

/-- Directives are in a row if they can be listed so that each waits for the one before it. -/
theorem InRow.of_isChain {ds row : List Directive} (hsub : ds ⊆ row)
    (hchain : row.IsChain (Gates ds)) : InRow ds := by
  have hpaths : row.Pairwise (TransGen (Gates ds)) := (hchain.imp fun _ _ ↦ .single).pairwise
  rw [List.pairwise_iff_getElem] at hpaths
  intro d hd e he hne
  obtain ⟨i, hi, rfl⟩ := List.getElem_of_mem (hsub hd)
  obtain ⟨j, hj, rfl⟩ := List.getElem_of_mem (hsub he)
  rcases Nat.lt_trichotomy i j with hlt | rfl | hlt
  · exact .inl (hpaths i j hi hj hlt)
  · exact absurd rfl hne
  · exact .inr (hpaths j i hj hi hlt)

theorem InRow.of_perm {ds ds' : List Directive} (hperm : ds.Perm ds') (h : InRow ds) :
    InRow ds' := by
  intro d hd e he hne
  rw [← gates_eq_of_perm hperm]
  exact h d (hperm.mem_iff.mpr hd) e (hperm.mem_iff.mpr he) hne

/-- Directives in a row are arranged along the row. -/
theorem InRow.pairwise_arranged {ds : List Directive} (h : InRow ds) (hacyclic : ¬Cyclic ds) :
    (arranged id ds).Pairwise fun d e ↦ d = e ∨ TransGen (Gates ds) d e := by
  have hmem {d : Directive} (hd : d ∈ arranged id ds) : d ∈ ds :=
    (arranged_id_perm hacyclic).subset hd
  rw [List.pairwise_iff_getElem]
  intro i j hi hj hlt
  by_cases heq : (arranged id ds)[i] = (arranged id ds)[j]
  · exact .inl heq
  · right
    rcases h _ (hmem (List.getElem_mem hi)) _ (hmem (List.getElem_mem hj)) heq with hpath | hpath
    · exact hpath
    · have hback := lt_of_gates_arranged hj hi (by rwa [List.map_id])
      omega

/-- Directives in a row have one arrangement, in whatever order they are declared. -/
theorem InRow.arranged_eq_of_perm {ds ds' : List Directive} (h : InRow ds) (hperm : ds.Perm ds')
    (hacyclic : ¬Cyclic ds) : arranged id ds = arranged id ds' := by
  have hacyclic' : ¬Cyclic ds' := (cyclic_iff_of_perm hperm).not.mp hacyclic
  have hpairwise := h.pairwise_arranged hacyclic
  have hpairwise' := (h.of_perm hperm).pairwise_arranged hacyclic'
  rw [← gates_eq_of_perm hperm] at hpairwise'
  have hout : (arranged id ds).Perm (arranged id ds') := by
    calc
      (arranged id ds).Perm ds := arranged_id_perm hacyclic
      ds.Perm ds' := hperm
      ds'.Perm (arranged id ds') := (arranged_id_perm hacyclic').symm
  refine hout.eq_of_pairwise ?_ hpairwise hpairwise'
  rintro d e _ _ (rfl | hde) (heq | hed)
  · rfl
  · rfl
  · exact heq.symm
  · exact absurd ⟨d, hde.trans hed⟩ hacyclic

namespace Config

/-- The same directives, with the items of each list in another order. -/
structure Shuffled (c c' : Config) : Prop where
  evaluates : c.evaluates.Perm c'.evaluates
  sources : c.sources.Perm c'.sources
  aliases : c.aliases.Perm c'.aliases
  environments : c.environments.Perm c'.environments
  paths : c.paths.Perm c'.paths

namespace Shuffled

variable {c c' : Config} (h : c.Shuffled c')

include h

theorem directives_perm : c.directives.Perm c'.directives := by
  apply List.Perm.flatMap_left
  intro kind _
  cases kind with
  | evaluates => exact h.evaluates.map _
  | sources => exact h.sources.map _
  | aliases => exact h.aliases.map _
  | environments => exact h.environments.map _
  | paths => exact h.paths.map _

theorem kept_perm (shell : Shell) (platform : Platform) :
    (c.kept shell platform).Perm (c'.kept shell platform) := h.directives_perm.filter _

/-- Two plans of the same directives differ in their order only. -/
theorem plan_perm {shell : Shell} {platform : Platform} {out out' : List Directive}
    (hplan : c.plan shell platform = .ok out) (hplan' : c'.plan shell platform = .ok out') :
    out.Perm out' := by
  obtain ⟨_, hacyclic, rfl⟩ := plan_eq_ok_iff.mp hplan
  obtain ⟨_, hacyclic', rfl⟩ := plan_eq_ok_iff.mp hplan'
  calc
    (arranged id (c.kept shell platform)).Perm (c.kept shell platform) :=
      arranged_id_perm hacyclic
    (c.kept shell platform).Perm (c'.kept shell platform) := h.kept_perm shell platform
    (c'.kept shell platform).Perm (arranged id (c'.kept shell platform)) :=
      (arranged_id_perm hacyclic').symm

/-- Directives that are in a row have one plan. -/
theorem plan_eq {shell : Shell} {platform : Platform} {out out' : List Directive}
    (hplan : c.plan shell platform = .ok out) (hplan' : c'.plan shell platform = .ok out')
    (hrow : InRow (c.kept shell platform)) : out = out' := by
  obtain ⟨_, hacyclic, rfl⟩ := plan_eq_ok_iff.mp hplan
  obtain ⟨_, _, rfl⟩ := plan_eq_ok_iff.mp hplan'
  exact hrow.arranged_eq_of_perm (h.kept_perm shell platform) hacyclic

end Shuffled

/-- The order in which directives are listed decides neither whether a label is refused nor whether
the directives wait for each other in a circle, nor what the script holds; and it decides nothing
about the script if of any two directives that apply one waits for the other. -/
theorem compile_shuffled (c c' : Config) (h : c.Shuffled c') (shell : Shell)
    (platform : Platform) :
    ((∃ label command, c.compile (tag shell) platform = .error (.undeclared label command)) ↔
      ∃ label command, c'.compile (tag shell) platform = .error (.undeclared label command)) ∧
    (c.compile (tag shell) platform = .error .circular ↔
      c'.compile (tag shell) platform = .error .circular) ∧
    ∀ text text', c.compile (tag shell) platform = .ok text →
      c'.compile (tag shell) platform = .ok text' →
        (∃ out out', c.plan shell platform = .ok out ∧ c'.plan shell platform = .ok out' ∧
          text = script (out.map (·.line shell.dialect)) ∧
          text' = script (out'.map (·.line shell.dialect)) ∧ out.Perm out') ∧
        (InRow (c.directives.filter (·.Applies shell platform)) → text = text') := by
  refine ⟨?_, ?_, ?_⟩
  · rw [exists_compile_eq_error_undeclared_iff, exists_compile_eq_error_undeclared_iff,
      allDeclared_iff_of_perm h.directives_perm]
  · rw [compile_tag_eq_error_iff, compile_tag_eq_error_iff, plan_eq_error_circular_iff,
      plan_eq_error_circular_iff, allDeclared_iff_of_perm h.directives_perm,
      cyclic_iff_of_perm (h.kept_perm shell platform)]
  · intro text text' htext htext'
    obtain ⟨out, hplan, rfl⟩ := compile_tag_eq_ok_iff.mp htext
    obtain ⟨out', hplan', rfl⟩ := compile_tag_eq_ok_iff.mp htext'
    refine ⟨⟨out, out', hplan, hplan', rfl, rfl, h.plan_perm hplan hplan'⟩, ?_⟩
    intro hrow
    rw [← kept_eq_filter] at hrow
    rw [h.plan_eq hplan hplan' hrow]

/-- Three directories, each of which is put in front of the one that it waits for. -/
def stacked : Config where
  paths :=
    [⟨"/work", { depends := some (.one "own") }⟩,
      ⟨"/opt", { label := some "system" }⟩,
      ⟨"/home", { label := some "own", depends := some (.one "system") }⟩]

def stackedReversed : Config where
  paths := stacked.paths.reverse

theorem stacked_shuffled : stacked.Shuffled stackedReversed where
  evaluates := .refl _
  sources := .refl _
  aliases := .refl _
  environments := .refl _
  paths := (List.reverse_perm _).symm

theorem inRow_stacked : InRow (stacked.directives.filter (·.Applies .zsh ⟨none, none⟩)) := by
  have hsub : stacked.directives.filter (·.Applies .zsh ⟨none, none⟩) ⊆
      [⟨.addPath "/opt", { label := some "system" }⟩,
        ⟨.addPath "/home", { label := some "own", depends := some (.one "system") }⟩,
        ⟨.addPath "/work", { depends := some (.one "own") }⟩] := by
    decide
  exact .of_isChain hsub (by decide)

/-- Both orders give the one script in which each directory follows the one it waits for. -/
theorem compile_shuffled_stacked :
    stacked.Shuffled stackedReversed ∧
      InRow (stacked.directives.filter (·.Applies .zsh ⟨none, none⟩)) ∧
      stackedReversed.compile (tag Shell.zsh) ⟨none, none⟩ =
        .ok "export PATH=/opt:$PATH\nexport PATH=/home:$PATH\nexport PATH=/work:$PATH" := by
  have htext : stacked.compile (tag Shell.zsh) ⟨none, none⟩ =
      .ok "export PATH=/opt:$PATH\nexport PATH=/home:$PATH\nexport PATH=/work:$PATH" := by
    decide +kernel
  have hok : (stackedReversed.compile (tag Shell.zsh) ⟨none, none⟩).isOk = true := by
    decide +kernel
  have h := compile_shuffled stacked stackedReversed stacked_shuffled .zsh ⟨none, none⟩
  refine ⟨stacked_shuffled, inRow_stacked, ?_⟩
  cases htext' : stackedReversed.compile (tag Shell.zsh) ⟨none, none⟩ with
  | error error =>
    rw [htext'] at hok
    cases hok
  | ok text' => rw [(h.2.2 _ text' htext htext').2 inRow_stacked]

end Config

end ShellInit
