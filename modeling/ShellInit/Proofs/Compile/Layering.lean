import ShellInit.Proofs.Arrangement.Depth
import ShellInit.Proofs.Compile.Place

/-!
# Layers of a script

A script is written layer by layer: first the directives that wait for none that applies, then those
that wait only for these, and so on. Within a layer, directives that wait for the same keep the order
of declaration.
-/

namespace ShellInit.Config

/-- Among the directives that apply, the second waits for the first. -/
abbrev KeptGates (c : Config) (shell : Shell) (platform : Platform) :
    Directive → Directive → Prop :=
  Gates (c.directives.filter (·.Applies shell platform))

/-- No directive that applies gates this one. -/
abbrev IsFree (c : Config) (shell : Shell) (platform : Platform) (d : Directive) : Prop :=
  ∀ b ∈ c.directives.filter (·.Applies shell platform), ¬c.KeptGates shell platform b d

variable {c : Config} {shell : Shell} {platform : Platform}

theorem map_snd_filter_placed (c : Config) (shell : Shell) (platform : Platform) :
    (c.placed.filter (·.2.Applies shell platform)).map Prod.snd =
      c.directives.filter (·.Applies shell platform) := by
  rw [← kept_eq_map_placed, kept_eq_filter]

/-- Directives wait for each other wherever they are placed. -/
theorem gates_map_placed (c : Config) (shell : Shell) (platform : Platform) :
    Gates ((c.placed.filter (·.2.Applies shell platform)).map Prod.snd) =
      c.KeptGates shell platform := congrArg Gates (c.map_snd_filter_placed shell platform)

theorem isFree_placed (c : Config) (shell : Shell) (platform : Platform) :
    isFree Prod.snd (c.placed.filter (·.2.Applies shell platform)) =
      fun x ↦ decide (c.IsFree shell platform x.2) := by
  funext x
  simp only [isFree, map_snd_filter_placed]

section Emitted

variable (hacyclic : ¬Cyclic (c.kept shell platform)) {x y : Place × Directive}

include hacyclic

/-- Whatever is emitted has a depth. -/
theorem exists_isDepth_of_mem_emitted (hx : x ∈ c.emitted shell platform) :
    ∃ n, IsDepth (c.KeptGates shell platform) x.2 n := by
  rw [(emitted_perm hacyclic).mem_iff] at hx
  rw [kept_eq_map_placed] at hacyclic
  rw [← gates_map_placed]
  exact exists_isDepth_of_mem hacyclic hx

/-- What is less deep is emitted first. -/
theorem idxOf_emitted_lt_of_depth_lt (hx : x ∈ c.emitted shell platform)
    (hy : y ∈ c.emitted shell platform) {n m : Nat}
    (hn : IsDepth (c.KeptGates shell platform) x.2 n)
    (hm : IsDepth (c.KeptGates shell platform) y.2 m) (hlt : n < m) :
    (c.emitted shell platform).idxOf x < (c.emitted shell platform).idxOf y := by
  have hnodup := nodup_emitted hacyclic
  rw [(emitted_perm hacyclic).mem_iff] at hx hy
  rw [kept_eq_map_placed] at hacyclic
  rw [← gates_map_placed] at hn hm
  exact idxOf_lt_idxOf_of_pair_sublist hnodup
    (pair_sublist_arranged_of_depth_lt hacyclic hx hy hn hm hlt)

/-- What waits for the same is emitted in the order of declaration. -/
theorem idxOf_emitted_lt_of_same_gates (hx : x ∈ c.emitted shell platform)
    (hy : y ∈ c.emitted shell platform)
    (hsame : ∀ d, c.KeptGates shell platform d x.2 ↔ c.KeptGates shell platform d y.2)
    (hlt : c.placed.idxOf x < c.placed.idxOf y) :
    (c.emitted shell platform).idxOf x < (c.emitted shell platform).idxOf y := by
  have hnodup := nodup_emitted hacyclic
  rw [(emitted_perm hacyclic).mem_iff, List.mem_filter] at hx hy
  rw [kept_eq_map_placed] at hacyclic
  rw [← gates_map_placed] at hsame
  have hpair := (pair_sublist_of_idxOf_lt hy.1 hlt).filter fun x ↦ x.2.Applies shell platform
  simp only [List.filter_cons, hx.2, hy.2, if_true, List.filter_nil] at hpair
  exact idxOf_lt_idxOf_of_pair_sublist hnodup
    (pair_sublist_arranged_of_same_gates hacyclic hpair hsame)

end Emitted

/-- What waits for none is emitted first. -/
theorem exists_emitted_eq_append (c : Config) (shell : Shell) (platform : Platform) :
    ∃ rest, c.emitted shell platform =
        (c.placed.filter (·.2.Applies shell platform)).filter (c.IsFree shell platform ·.2) ++
          rest ∧
      ∀ x ∈ rest, ∃ d, c.KeptGates shell platform d x.2 := by
  obtain ⟨rest, hout, hrest⟩ := exists_arranged_eq_append Prod.snd
    (c.placed.filter (·.2.Applies shell platform))
  rw [isFree_placed] at hout
  rw [gates_map_placed] at hrest
  exact ⟨rest, hout, hrest⟩

/-- In a script, directives of smaller depth stand before those of greater depth, and those that wait
for the same directives stand in the order of declaration; in particular those that wait for none
make up the beginning of the script, in the order of declaration. -/
theorem compile_layers (c : Config) (shell : Shell) (platform : Platform) {text : String}
    (h : c.compile (tag shell) platform = .ok text) :
    ∃ out : List (Place × Directive), out.Perm (c.placed.filter (·.2.Applies shell platform)) ∧
      c.plan shell platform = .ok (out.map Prod.snd) ∧
      text = script (out.map (·.2.line shell.dialect)) ∧
      (∀ x ∈ out, ∃ n, IsDepth (c.KeptGates shell platform) x.2 n) ∧
      (∀ x ∈ out, ∀ y ∈ out, ∀ n m, IsDepth (c.KeptGates shell platform) x.2 n →
        IsDepth (c.KeptGates shell platform) y.2 m → n < m → out.idxOf x < out.idxOf y) ∧
      (∀ x ∈ out, ∀ y ∈ out,
        (∀ d, c.KeptGates shell platform d x.2 ↔ c.KeptGates shell platform d y.2) →
          c.placed.idxOf x < c.placed.idxOf y → out.idxOf x < out.idxOf y) ∧
      ∃ rest,
        out = (c.placed.filter (·.2.Applies shell platform)).filter (c.IsFree shell platform ·.2) ++
          rest ∧
        ∀ x ∈ rest, ∃ d, c.KeptGates shell platform d x.2 := by
  obtain ⟨hdeclared, hacyclic⟩ := exists_compile_eq_ok_iff.mp ⟨text, h⟩
  rw [compile_of_not_cyclic hdeclared hacyclic] at h
  refine ⟨c.emitted shell platform, emitted_perm hacyclic, plan_of_not_cyclic hdeclared hacyclic,
    (Except.ok.inj h).symm, ?_, ?_, ?_, c.exists_emitted_eq_append shell platform⟩
  · intro x hx
    exact exists_isDepth_of_mem_emitted hacyclic hx
  · intro x hx y hy n m hn hm hlt
    exact idxOf_emitted_lt_of_depth_lt hacyclic hx hy hn hm hlt
  · intro x hx y hy hsame hlt
    exact idxOf_emitted_lt_of_same_gates hacyclic hx hy hsame hlt

/-- The prompt is declared before what it waits for, and comes behind it. -/
theorem compile_layers_prompt :
    ∃ out : List (Place × Directive),
      "[ -e ~/.colors ] && source ~/.colors\nexport PATH=/opt/bin:$PATH\neval prompt" =
        script (out.map (·.2.line Shell.bash.dialect)) ∧
      out.idxOf ((.paths, 0), ⟨.addPath "/opt/bin", { label := some "tools" }⟩) <
        out.idxOf ((.evaluates, 0),
          ⟨.run "eval prompt", { depends := some (.many ["colors", "tools"]) }⟩) := by
  obtain ⟨out, hperm, _, htext, _, hdepth, _⟩ :=
    compile_layers prompt .bash ⟨some .linux, some .x64⟩ compile_prompt
  refine ⟨out, htext, ?_⟩
  -- What gates the prompt is gated by none, so the prompt has depth one.
  have hfree : ∀ b ∈ prompt.directives.filter (·.Applies .bash ⟨some .linux, some .x64⟩),
      prompt.KeptGates .bash ⟨some .linux, some .x64⟩ b
        ⟨.run "eval prompt", { depends := some (.many ["colors", "tools"]) }⟩ →
      prompt.IsFree .bash ⟨some .linux, some .x64⟩ b := by
    decide
  have hzero {b : Directive} (h : prompt.KeptGates .bash ⟨some .linux, some .x64⟩ b
        ⟨.run "eval prompt", { depends := some (.many ["colors", "tools"]) }⟩) :
      IsDepth (prompt.KeptGates .bash ⟨some .linux, some .x64⟩) b 0 :=
    isDepth_zero_iff.mpr fun b' hgates ↦ hfree b h.1 h b' hgates.1 hgates
  have htools : prompt.KeptGates .bash ⟨some .linux, some .x64⟩
      ⟨.addPath "/opt/bin", { label := some "tools" }⟩
      ⟨.run "eval prompt", { depends := some (.many ["colors", "tools"]) }⟩ := by
    decide
  refine hdepth _ ?_ _ ?_ 0 1 (hzero htools) ((hzero htools).succ htools fun b ↦ hzero) (by decide)
  · rw [hperm.mem_iff]
    decide
  · rw [hperm.mem_iff]
    decide

end ShellInit.Config
