import ShellInit.Proofs.Compile.Place

/-!
# One configuration for two targets

Shell and platform decide which directives apply, and the shell how they are written. Nothing else
depends on them: which label is refused does not, and neither does the order of the directives that
apply. A target for which fewer directives apply can only make compiling succeed, if perhaps in
another order.
-/

namespace ShellInit

theorem Shell.dialect_eq_posix {shell : Shell} (h : shell ∈ [Shell.bash, Shell.zsh]) :
    shell.dialect = .posix := by
  rcases List.mem_pair.mp h with rfl | rfl <;> rfl

/-- There is one first undeclared label, of one directive. -/
theorem IsFirstUndeclared.unique {ds : List Directive} {d e : Directive} {label other : String}
    (hd : IsFirstUndeclared ds d label) (he : IsFirstUndeclared ds e other) :
    d = e ∧ label = other := by
  rw [← firstUndeclared_eq_some_iff] at hd he
  exact Prod.mk.inj (Option.some.inj (hd.symm.trans he))

namespace Config

variable {c : Config} {s₁ s₂ : Shell} {p₁ p₂ : Platform}

section SameDirectives

variable (happlies : ∀ d ∈ c.directives, d.Applies s₁ p₁ ↔ d.Applies s₂ p₂)

include happlies

theorem filter_placed_congr :
    c.placed.filter (·.2.Applies s₁ p₁) = c.placed.filter (·.2.Applies s₂ p₂) := by
  apply List.filter_congr
  intro x hx
  rw [decide_eq_decide]
  exact happlies x.2 (mem_directives_of_mem_placed hx)

theorem kept_congr : c.kept s₁ p₁ = c.kept s₂ p₂ := by
  rw [kept_eq_map_placed, kept_eq_map_placed, filter_placed_congr happlies]

/-- Where the same directives apply, they are emitted in the same order. -/
theorem emitted_congr : c.emitted s₁ p₁ = c.emitted s₂ p₂ := by
  rw [emitted, emitted, filter_placed_congr happlies]

/-- Targets of one dialect for which the same directives apply get one script, or one error. -/
theorem compile_congr (hdialect : s₁.dialect = s₂.dialect) :
    c.compile (tag s₁) p₁ = c.compile (tag s₂) p₂ := by
  rw [compile_tag_eq_match, compile_tag_eq_match, kept_congr happlies, hdialect]

/-- Either the same label is refused, or the directives cannot be arranged, or they are emitted in
the same order, for both targets. -/
theorem refused_or_circular_or_emitted :
    (∃ label d, IsFirstUndeclared c.directives d label ∧
        c.compile (tag s₁) p₁ = .error (.undeclared label (d.command s₁.dialect)) ∧
        c.compile (tag s₂) p₂ = .error (.undeclared label (d.command s₂.dialect))) ∨
      (c.compile (tag s₁) p₁ = .error .circular ∧ c.compile (tag s₂) p₂ = .error .circular) ∨
      (∃ out : List (Place × Directive), out.Perm (c.placed.filter (·.2.Applies s₁ p₁)) ∧
        c.compile (tag s₁) p₁ = .ok (script (out.map (·.2.line s₁.dialect))) ∧
        c.compile (tag s₂) p₂ = .ok (script (out.map (·.2.line s₂.dialect)))) := by
  have hkept := kept_congr happlies
  cases hfirst : firstUndeclared c.directives with
  | some found =>
    have hfirst := firstUndeclared_eq_some_iff.mp hfirst
    exact .inl ⟨found.2, found.1, hfirst, compile_eq_error_undeclared_iff.mpr ⟨_, hfirst, rfl⟩,
      compile_eq_error_undeclared_iff.mpr ⟨_, hfirst, rfl⟩⟩
  | none =>
    have hdeclared := firstUndeclared_eq_none_iff.mp hfirst
    right
    by_cases hcyclic : Cyclic (c.kept s₁ p₁)
    · left
      rw [compile_tag_eq_error_iff, compile_tag_eq_error_iff, plan_eq_error_circular_iff,
        plan_eq_error_circular_iff, ← hkept]
      exact ⟨⟨hdeclared, hcyclic⟩, hdeclared, hcyclic⟩
    · right
      refine ⟨c.emitted s₁ p₁, emitted_perm hcyclic, compile_of_not_cyclic hdeclared hcyclic, ?_⟩
      rw [emitted_congr happlies]
      exact compile_of_not_cyclic hdeclared (hkept ▸ hcyclic)

end SameDirectives

/-- Two targets of one configuration: the same label of the same directive is refused for both, or
none; directives that apply for both alike are written in the same order, or cannot be arranged for
either; and two shells of one dialect then get the same text. -/
theorem compile_two_targets (c : Config) (s₁ s₂ : Shell) (p₁ p₂ : Platform) :
    ((∃ label command, c.compile (tag s₁) p₁ = .error (.undeclared label command)) ↔
      ∃ label command, c.compile (tag s₂) p₂ = .error (.undeclared label command)) ∧
    (∀ label₁ command₁ label₂ command₂,
      c.compile (tag s₁) p₁ = .error (.undeclared label₁ command₁) →
      c.compile (tag s₂) p₂ = .error (.undeclared label₂ command₂) →
        label₁ = label₂ ∧ ∃ d, IsFirstUndeclared c.directives d label₁ ∧
          command₁ = d.command s₁.dialect ∧ command₂ = d.command s₂.dialect) ∧
    ((∀ d ∈ c.directives, d.Applies s₁ p₁ ↔ d.Applies s₂ p₂) →
      (∃ label d, IsFirstUndeclared c.directives d label ∧
        c.compile (tag s₁) p₁ = .error (.undeclared label (d.command s₁.dialect)) ∧
        c.compile (tag s₂) p₂ = .error (.undeclared label (d.command s₂.dialect))) ∨
      (c.compile (tag s₁) p₁ = .error .circular ∧ c.compile (tag s₂) p₂ = .error .circular) ∨
      (∃ out : List (Place × Directive), out.Perm (c.placed.filter (·.2.Applies s₁ p₁)) ∧
          c.compile (tag s₁) p₁ = .ok (script (out.map (·.2.line s₁.dialect))) ∧
          c.compile (tag s₂) p₂ = .ok (script (out.map (·.2.line s₂.dialect))))) ∧
    ((∀ d ∈ c.directives, d.Applies s₁ p₁ ↔ d.Applies s₂ p₂) →
      s₁ ∈ [.bash, .zsh] → s₂ ∈ [.bash, .zsh] →
        c.compile (tag s₁) p₁ = c.compile (tag s₂) p₂) := by
  refine ⟨?_, ?_, ?_, ?_⟩
  · simp [compile_eq_error_undeclared_iff]
  · intro label₁ command₁ label₂ command₂ h₁ h₂
    obtain ⟨d, hd, hcommand₁⟩ := compile_eq_error_undeclared_iff.mp h₁
    obtain ⟨e, he, hcommand₂⟩ := compile_eq_error_undeclared_iff.mp h₂
    obtain ⟨rfl, hlabel⟩ := hd.unique he
    exact ⟨hlabel, d, hd, hcommand₁, hcommand₂⟩
  · intro happlies
    exact refused_or_circular_or_emitted happlies
  · intro happlies h₁ h₂
    apply compile_congr happlies
    rw [Shell.dialect_eq_posix h₁, Shell.dialect_eq_posix h₂]

/-- The prompt does not ask what the processor is, nor which of the two shells reads it. -/
theorem compile_two_targets_prompt :
    (∀ d ∈ prompt.directives,
      d.Applies .bash ⟨some .linux, some .x64⟩ ↔ d.Applies .zsh ⟨none, none⟩) ∧
    prompt.compile (tag Shell.zsh) ⟨none, none⟩ =
      .ok "[ -e ~/.colors ] && source ~/.colors\nexport PATH=/opt/bin:$PATH\neval prompt" := by
  have happlies : ∀ d ∈ prompt.directives,
      d.Applies .bash ⟨some .linux, some .x64⟩ ↔ d.Applies .zsh ⟨none, none⟩ := by decide
  have h := compile_two_targets prompt .bash .zsh ⟨some .linux, some .x64⟩ ⟨none, none⟩
  exact ⟨happlies, (h.2.2.2 happlies (by decide) (by decide)).symm.trans compile_prompt⟩

end Config

/-! ## Fewer directives -/

/-- A selection that admits the unknown value admits every value. -/
theorem Selection.Admits.of_none {α : Type} {selection : Option (Selection α)}
    (h : Admits selection none) (current : Option α) : Admits selection current := by
  intro s hs
  obtain ⟨_, hnone, _⟩ := h s hs
  cases hnone

theorem Directive.Applies.of_unknown {d : Directive} {shell : Shell}
    (h : d.Applies shell ⟨none, none⟩) (platform : Platform) : d.Applies shell platform :=
  ⟨h.1, h.2.1.of_none platform.arch, h.2.2.of_none platform.os⟩

namespace Config

variable {c : Config} {s₁ s₂ : Shell} {p₁ p₂ : Platform}

theorem kept_subset (hfewer : ∀ d ∈ c.directives, d.Applies s₁ p₁ → d.Applies s₂ p₂) :
    c.kept s₁ p₁ ⊆ c.kept s₂ p₂ := by
  rw [kept_eq_filter, kept_eq_filter]
  intro d hd
  simp only [List.mem_filter, decide_eq_true_eq] at hd ⊢
  exact ⟨hd.1, hfewer d hd.1 hd.2⟩

/-- If the directives of one target can be arranged, so can fewer: what waits in a circle among the
fewer does so among all. -/
theorem compile_of_fewer
    (hfewer : ∀ d ∈ c.directives, d.Applies s₁ p₁ → d.Applies s₂ p₂)
    (hok : ∃ text, c.compile (tag s₂) p₂ = .ok text) :
    ∃ out : List (Place × Directive), out.Perm (c.placed.filter (·.2.Applies s₁ p₁)) ∧
      c.plan s₁ p₁ = .ok (out.map Prod.snd) ∧
      c.compile (tag s₁) p₁ = .ok (script (out.map (·.2.line s₁.dialect))) := by
  obtain ⟨hdeclared, hacyclic⟩ := exists_compile_eq_ok_iff.mp hok
  have hacyclic' : ¬Cyclic (c.kept s₁ p₁) := fun hcyclic ↦
    hacyclic (hcyclic.mono (kept_subset hfewer))
  exact ⟨c.emitted s₁ p₁, emitted_perm hacyclic', plan_of_not_cyclic hdeclared hacyclic',
    compile_of_not_cyclic hdeclared hacyclic'⟩

/-- A configuration that compiles for one target compiles for every target for which no more
directives apply, and then emits those that apply; in particular it compiles for the same shell on
an unknown platform. -/
theorem compile_antitone (c : Config) (s₁ s₂ : Shell) (p₁ p₂ : Platform)
    (hok : ∃ text, c.compile (tag s₂) p₂ = .ok text) :
    ((∀ d ∈ c.directives, d.Applies s₁ p₁ → d.Applies s₂ p₂) →
      ∃ out : List (Place × Directive), out.Perm (c.placed.filter (·.2.Applies s₁ p₁)) ∧
        c.plan s₁ p₁ = .ok (out.map Prod.snd) ∧
        c.compile (tag s₁) p₁ = .ok (script (out.map (·.2.line s₁.dialect)))) ∧
    ∃ text, c.compile (tag s₂) ⟨none, none⟩ = .ok text := by
  refine ⟨fun hfewer ↦ compile_of_fewer hfewer hok, ?_⟩
  have hunknown : ∀ d ∈ c.directives, d.Applies s₂ ⟨none, none⟩ → d.Applies s₂ p₂ :=
    fun d _ happlies ↦ happlies.of_unknown p₂
  obtain ⟨out, _, _, htext⟩ := compile_of_fewer hunknown hok
  exact ⟨_, htext⟩

/-- All directives of the prompt apply for one target, and can be arranged, so any of them can. -/
theorem compile_antitone_prompt :
    (∀ d ∈ prompt.directives, d.Applies .bash ⟨some .linux, some .x64⟩ →
      d.Applies .fish ⟨some .darwin, some .arm64⟩) ∧
    (∃ out : List (Place × Directive),
      out.Perm (prompt.placed.filter (·.2.Applies .bash ⟨some .linux, some .x64⟩)) ∧
      prompt.plan .bash ⟨some .linux, some .x64⟩ = .ok (out.map Prod.snd) ∧
      prompt.compile (tag Shell.bash) ⟨some .linux, some .x64⟩ =
        .ok (script (out.map (·.2.line Shell.bash.dialect)))) ∧
    ∃ text, prompt.compile (tag Shell.fish) ⟨none, none⟩ = .ok text := by
  have hok : prompt.compile (tag Shell.fish) ⟨some .darwin, some .arm64⟩ =
      .ok ("greet\ntest -e ~/.colors && source ~/.colors\nset --path PATH $PATH /opt/bin\n" ++
        "set --path PATH $PATH /opt/brew/bin\neval prompt") := by
    decide +kernel
  have hfewer : ∀ d ∈ prompt.directives, d.Applies .bash ⟨some .linux, some .x64⟩ →
      d.Applies .fish ⟨some .darwin, some .arm64⟩ := by
    decide
  have h := compile_antitone prompt .bash .fish ⟨some .linux, some .x64⟩
    ⟨some .darwin, some .arm64⟩ ⟨_, hok⟩
  exact ⟨hfewer, h.1 hfewer, h.2⟩

end Config

end ShellInit
