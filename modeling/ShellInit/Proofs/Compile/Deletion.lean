import Mathlib.Data.Finset.Defs
import ShellInit.Proofs.Arrangement.Part
import ShellInit.Proofs.Compile.Place

/-!
# Deleting directives

Two directives of a configuration may be equal, so those that are deleted are named by their places.
If no other directive waits for a deleted one, the script that remains is the old script without the
deleted lines: conversely, directives that nobody waits for can be added without moving a line.
-/

namespace ShellInit

def leaveOut {α : Type} (deleted : Nat → Bool) (l : List α) : List α :=
  (l.zipIdx.filter fun x ↦ !deleted x.2).map Prod.fst

theorem map_leaveOut {α β : Type} (deleted : Nat → Bool) (f : α → β) (l : List α) :
    (leaveOut deleted l).map f = leaveOut deleted (l.map f) := by
  simp only [leaveOut, List.zipIdx_map, List.filter_map, List.map_map]
  rfl

namespace Config

def without (c : Config) (deleted : Finset Place) : Config where
  evaluates := leaveOut (fun i ↦ (.evaluates, i) ∈ deleted) c.evaluates
  sources := leaveOut (fun i ↦ (.sources, i) ∈ deleted) c.sources
  aliases := leaveOut (fun i ↦ (.aliases, i) ∈ deleted) c.aliases
  environments := leaveOut (fun i ↦ (.environments, i) ∈ deleted) c.environments
  paths := leaveOut (fun i ↦ (.paths, i) ∈ deleted) c.paths

variable {c : Config} {shell : Shell} {platform : Platform} {deleted : Finset Place}

theorem ofKind_without (c : Config) (deleted : Finset Place) (kind : Kind) :
    (c.without deleted).ofKind kind =
      leaveOut (fun i ↦ (kind, i) ∈ deleted) (c.ofKind kind) := by
  cases kind <;> simp only [ofKind, without, map_leaveOut]

/-- What remains are the directives at the other places. -/
theorem directives_without (c : Config) (deleted : Finset Place) :
    (c.without deleted).directives = (c.placed.filter (·.1 ∉ deleted)).map Prod.snd := by
  have hkinds : (c.without deleted).ofKind =
      fun kind ↦ leaveOut (fun i ↦ (kind, i) ∈ deleted) (c.ofKind kind) :=
    funext (ofKind_without c deleted)
  simp only [directives, hkinds, placed, leaveOut, List.filter_flatMap, List.map_flatMap,
    List.filter_map, List.map_map, Function.comp_def, decide_not]

/-- What remains and applies is what applies and remains. -/
theorem kept_without (c : Config) (deleted : Finset Place) (shell : Shell) (platform : Platform) :
    (c.without deleted).kept shell platform =
      ((c.placed.filter (·.2.Applies shell platform)).filter (·.1 ∉ deleted)).map Prod.snd := by
  rw [kept_eq_filter, directives_without, List.filter_map, List.filter_comm]
  rfl

/-- No other directive waits for a deleted one. -/
def NotAwaited (c : Config) (deleted : Finset Place) : Prop :=
  ∀ x ∈ c.placed, ∀ y ∈ c.placed, x.1 ∈ deleted → y.1 ∉ deleted →
    x.2.label ≠ "" → x.2.label ∉ y.2.depends

/-- What remains waits for none of the deleted directives. -/
theorem NotAwaited.waitsFor_eq_false (h : c.NotAwaited deleted) {x y : Place × Directive}
    (hx : x ∈ c.placed) (hy : y ∈ c.placed) (hdeleted : x.1 ∈ deleted) (hkept : y.1 ∉ deleted) :
    y.2.waitsFor x.2 = false := by
  rw [← Bool.not_eq_true, Directive.waitsFor_iff]
  rintro ⟨hlabel, hdepends⟩
  exact h x hx y hy hdeleted hkept hlabel hdepends

/-- Labels that remain waited for remain declared. -/
theorem allDeclared_without (h : c.NotAwaited deleted) (hdeclared : AllDeclared c.directives) :
    AllDeclared (c.without deleted).directives := by
  rw [directives_without]
  intro d hd label hlabel
  obtain ⟨y, hy, rfl⟩ := List.mem_map.mp hd
  obtain ⟨hy, hkept⟩ := List.mem_filter.mp hy
  have hold : IsDeclared c.directives label := by
    refine hdeclared y.2 ?_ label hlabel
    rw [← map_snd_placed]
    exact List.mem_map_of_mem hy
  obtain ⟨hne, e, he, rfl⟩ := hold
  rw [← map_snd_placed] at he
  obtain ⟨x, hx, rfl⟩ := List.mem_map.mp he
  have hx' : x.1 ∉ deleted := by
    intro hdeleted
    exact h x hx y hy hdeleted (by simpa using hkept) hne hlabel
  exact ⟨hne, x.2, List.mem_map_of_mem (List.mem_filter.mpr ⟨hx, by simpa using hx'⟩), rfl⟩

/-- The plan without the deleted directives is the old plan without them. -/
theorem plan_without (h : c.NotAwaited deleted) {out : List Directive}
    (hplan : c.plan shell platform = .ok out) :
    out = (c.emitted shell platform).map Prod.snd ∧
      (c.without deleted).plan shell platform =
        .ok (((c.emitted shell platform).filter (·.1 ∉ deleted)).map Prod.snd) := by
  obtain ⟨hdeclared, hacyclic, rfl⟩ := plan_eq_ok_iff.mp hplan
  rw [kept_eq_map_placed] at hacyclic
  have hacyclic' : ¬Cyclic ((c.without deleted).kept shell platform) := by
    rw [kept_without]
    intro hcyclic
    exact hacyclic (hcyclic.mono (List.map_subset _ (List.filter_subset_self _)))
  refine ⟨?_, ?_⟩
  · rw [kept_eq_map_placed, ← map_arranged, emitted]
  · have hfilter : arranged Prod.snd
        ((c.placed.filter (·.2.Applies shell platform)).filter (·.1 ∉ deleted)) =
          (c.emitted shell platform).filter (·.1 ∉ deleted) := by
      apply arranged_filter
      intro x hx y hy hdeleted hkept
      exact h.waitsFor_eq_false (List.mem_of_mem_filter hx) (List.mem_of_mem_filter hy)
        (by simpa using hdeleted) (by simpa using hkept)
    rw [plan_of_allDeclared (allDeclared_without h hdeclared)]
    rw [kept_without] at hacyclic' ⊢
    rw [arrange_map_of_not_cyclic hacyclic', hfilter]

/-- Deleting directives that no other waits for leaves the rest of the script as it is. -/
theorem compile_without (c : Config) (deleted : Finset Place) (h : c.NotAwaited deleted)
    (shell : Shell) (platform : Platform) {text : String}
    (hcompile : c.compile (tag shell) platform = .ok text) :
    (c.emitted shell platform).Perm (c.placed.filter (·.2.Applies shell platform)) ∧
      c.plan shell platform = .ok ((c.emitted shell platform).map Prod.snd) ∧
      text = script ((c.emitted shell platform).map (·.2.line shell.dialect)) ∧
      (c.without deleted).plan shell platform =
        .ok (((c.emitted shell platform).filter (·.1 ∉ deleted)).map Prod.snd) ∧
      (c.without deleted).compile (tag shell) platform =
        .ok (script (((c.emitted shell platform).filter (·.1 ∉ deleted)).map
          (·.2.line shell.dialect))) := by
  obtain ⟨out, hplan, rfl⟩ := compile_tag_eq_ok_iff.mp hcompile
  obtain ⟨rfl, hrest⟩ := plan_without h hplan
  obtain ⟨_, hacyclic, _⟩ := plan_eq_ok_iff.mp hplan
  rw [kept_eq_map_placed] at hacyclic
  refine ⟨arranged_perm hacyclic, hplan, ?_, hrest, ?_⟩
  · rw [List.map_map]
    rfl
  · rw [compile_tag, hrest, Except.map, List.map_map]
    rfl

theorem notAwaited_prompt : prompt.NotAwaited {(.evaluates, 0)} := by
  unfold NotAwaited
  decide

/-- Nobody waits for the prompt itself, so the other lines can do without it. -/
theorem compile_without_prompt :
    prompt.NotAwaited {(.evaluates, 0)} ∧
      (prompt.without {(.evaluates, 0)}).compile (tag Shell.bash) ⟨some .linux, some .x64⟩ =
        .ok (script (((prompt.emitted .bash ⟨some .linux, some .x64⟩).filter
          (·.1 ∉ ({(.evaluates, 0)} : Finset Place))).map (·.2.line Shell.bash.dialect))) ∧
      (prompt.without {(.evaluates, 0)}).compile (tag Shell.bash) ⟨some .linux, some .x64⟩ =
        .ok "[ -e ~/.colors ] && source ~/.colors\nexport PATH=/opt/bin:$PATH" := by
  have h := compile_without prompt {(.evaluates, 0)} notAwaited_prompt .bash
    ⟨some .linux, some .x64⟩ compile_prompt
  refine ⟨notAwaited_prompt, h.2.2.2.2, ?_⟩
  decide +kernel

end Config

end ShellInit
