import Mathlib.Data.Prod.Lex
import ShellInit.Proofs.Attempts

/-!
# First flaws

Attempts that look for flaws one place after the other and stop at the first one they find. The places
are ordered, and so what is reported does not depend on how an attempt is composed: it is the flaw
whose place comes first.
-/

namespace ShellInit

variable {ε ε' α β ι κ : Type}

/-- An attempt succeeds if there is no flaw, and fails with the first one otherwise. -/
structure Reports [LT ι] (attempt : Except ε α) (flaw : ι → ε → Prop) : Prop where
  flawless : ∀ a, attempt = .ok a → ∀ i e, ¬flaw i e
  first : ∀ e, attempt = .error e → ∃ i, flaw i e ∧ ∀ j e', flaw j e' → i < j ∨ i = j ∧ e = e'

namespace Reports

section Results

variable {attempt : Except ε α}

/-- An attempt succeeds if there is nothing to report. -/
theorem exists_eq_ok_iff [LT ι] {flaw : ι → ε → Prop} (h : Reports attempt flaw) :
    (∃ a, attempt = .ok a) ↔ ∀ i e, ¬flaw i e := by
  constructor
  · rintro ⟨a, ha⟩
    exact h.flawless a ha
  · intro hflawless
    cases hattempt : attempt with
    | ok a => exact ⟨a, rfl⟩
    | error e =>
      obtain ⟨i, hi, _⟩ := h.first e hattempt
      exact absurd hi (hflawless i e)

/-- What is reported has a place before which there is no other flaw. -/
theorem eq_error_iff [PartialOrder ι] {flaw : ι → ε → Prop} (h : Reports attempt flaw) {e : ε} :
    attempt = .error e ↔ ∃ i, flaw i e ∧ ∀ j e', flaw j e' → i ≤ j := by
  constructor
  · intro hattempt
    obtain ⟨i, hi, hfirst⟩ := h.first e hattempt
    refine ⟨i, hi, fun j e' hj ↦ ?_⟩
    rcases hfirst j e' hj with hlt | ⟨rfl, _⟩
    · exact hlt.le
    · exact le_rfl
  · rintro ⟨i, hi, hfirst⟩
    cases hattempt : attempt with
    | ok a => exact absurd hi (h.flawless a hattempt i e)
    | error e' =>
      obtain ⟨j, hj, hfirst'⟩ := h.first e' hattempt
      rcases hfirst' i e hi with hlt | ⟨_, rfl⟩
      · exact absurd hlt (hfirst j e' hj).not_gt
      · rfl

end Results

section Composition

variable [LT ι] [LT κ]

theorem ok (a : α) : Reports (.ok a : Except ε α) fun (_ : ι) _ ↦ False where
  flawless := fun _ _ _ _ h ↦ h
  first := nofun

/-- An attempt with a single place to look at. -/
theorem single (attempt : Except ε α) (i : ι) :
    Reports attempt fun j e ↦ j = i ∧ attempt = .error e where
  flawless := by
    rintro a ha j e ⟨_, he⟩
    cases ha.symm.trans he
  first := by
    intro e he
    refine ⟨i, ⟨rfl, he⟩, ?_⟩
    rintro j e' ⟨rfl, he'⟩
    exact .inr ⟨rfl, Except.error.inj (he.symm.trans he')⟩

theorem congr {attempt : Except ε α} {flaw flaw' : ι → ε → Prop} (h : Reports attempt flaw)
    (hflaw : ∀ i e, flaw i e ↔ flaw' i e) : Reports attempt flaw' := by
  obtain rfl : flaw = flaw' := by
    funext i e
    exact propext (hflaw i e)
  exact h

theorem map {attempt : Except ε α} {flaw : ι → ε → Prop} (h : Reports attempt flaw) (f : α → β) :
    Reports (attempt.map f) flaw := by
  cases attempt with
  | ok a => exact ⟨fun _ _ ↦ h.flawless a rfl, nofun⟩
  | error e =>
    refine ⟨nofun, fun e' he ↦ ?_⟩
    obtain rfl : e = e' := Except.error.inj he
    exact h.first e rfl

/-- A flaw is described in other words. -/
theorem mapError {attempt : Except ε α} {flaw : ι → ε → Prop} (h : Reports attempt flaw)
    (f : ε → ε') : Reports (attempt.mapError f) fun i e' ↦ ∃ e, flaw i e ∧ e' = f e := by
  cases attempt with
  | ok a =>
    refine ⟨fun _ _ i e' ↦ ?_, nofun⟩
    rintro ⟨e, hflaw, _⟩
    exact h.flawless a rfl i e hflaw
  | error e =>
    refine ⟨nofun, fun e' he ↦ ?_⟩
    obtain rfl : f e = e' := Except.error.inj he
    obtain ⟨i, hi, hfirst⟩ := h.first e rfl
    refine ⟨i, ⟨e, hi, rfl⟩, ?_⟩
    rintro j _ ⟨e', hj, rfl⟩
    exact (hfirst j e' hj).imp_right (And.imp_right (congrArg f))

/-- The places are part of a larger order. -/
theorem within {attempt : Except ε α} {flaw : ι → ε → Prop} (h : Reports attempt flaw)
    (place : ι → κ) (hplace : ∀ i j, i < j → place i < place j) :
    Reports attempt fun k e ↦ ∃ i, k = place i ∧ flaw i e where
  flawless := by
    rintro a ha _ e ⟨i, rfl, hi⟩
    exact h.flawless a ha i e hi
  first := by
    intro e he
    obtain ⟨i, hi, hfirst⟩ := h.first e he
    refine ⟨place i, ⟨i, rfl, hi⟩, ?_⟩
    rintro _ e' ⟨j, rfl, hj⟩
    exact (hfirst j e' hj).imp (hplace i j) (And.imp_left (congrArg place))

/-- One attempt after the other, with all places of the first one before those of the second one. -/
theorem bind {attempt : Except ε α} {next : α → Except ε β} {flaw flaw' : ι → ε → Prop}
    (h : Reports attempt flaw) (hnext : ∀ a, attempt = .ok a → Reports (next a) flaw')
    (hlt : ∀ i e j e', flaw i e → flaw' j e' → i < j) :
    Reports (attempt >>= next) fun i e ↦ flaw i e ∨ flaw' i e where
  flawless := by
    intro b hb i e
    obtain ⟨a, ha, hb⟩ := bind_eq_ok_iff.mp hb
    rw [not_or]
    exact ⟨h.flawless a ha i e, (hnext a ha).flawless b hb i e⟩
  first := by
    intro e he
    cases hattempt : attempt with
    | error e' =>
      rw [hattempt] at he
      obtain rfl : e' = e := Except.error.inj he
      obtain ⟨i, hi, hfirst⟩ := h.first e' hattempt
      refine ⟨i, .inl hi, ?_⟩
      rintro j e (hj | hj)
      · exact hfirst j e hj
      · exact .inl (hlt i e' j e hi hj)
    | ok a =>
      rw [hattempt] at he
      obtain ⟨i, hi, hfirst⟩ := (hnext a hattempt).first e he
      refine ⟨i, .inr hi, ?_⟩
      rintro j e' (hj | hj)
      · exact absurd hj (h.flawless a hattempt j e')
      · exact hfirst j e' hj

end Composition

/-! ## Lists -/

/-- The items of a list are looked at from left to right. -/
theorem mapM {f : α → Except ε β} (xs : List α) :
    Reports (xs.mapM f) fun (i : ℕ) e ↦ ∃ x, xs[i]? = some x ∧ f x = .error e where
  flawless := by
    rintro ys hys i e ⟨x, hx, he⟩
    obtain ⟨hlt, rfl⟩ := List.getElem?_eq_some_iff.mp hx
    have hitems := mapM_eq_ok_iff.mp hys
    cases he.symm.trans (hitems.get hlt (hitems.length_eq ▸ hlt))
  first := by
    intro e he
    obtain ⟨i, x, hx, hfail, hbefore⟩ := exists_of_mapM_eq_error he
    refine ⟨i, ⟨x, hx, hfail⟩, ?_⟩
    rintro j e' ⟨y, hy, hfail'⟩
    rcases lt_trichotomy i j with hlt | rfl | hgt
    · exact .inl hlt
    · rw [hx, Option.some.injEq] at hy
      rw [← hy, hfail, Except.error.injEq] at hfail'
      exact .inr ⟨rfl, hfail'⟩
    · obtain ⟨b, hb⟩ := hbefore j hgt y hy
      cases hfail'.symm.trans hb

/-- What is wrong with an item of a list has its place within the item. -/
theorem mapM_lex [LT ι] {f : α → Except ε β} {flaw : α → ι → ε → Prop}
    (h : ∀ x, Reports (f x) (flaw x)) (xs : List α) :
    Reports (xs.mapM f) fun (place : ℕ ×ₗ ι) e ↦
      ∃ x, xs[(ofLex place).1]? = some x ∧ flaw x (ofLex place).2 e := by
  have hfails {x : α} {i : ι} {e : ε} (hflaw : flaw x i e) : ∃ e', f x = .error e' := by
    cases hx : f x with
    | ok b => exact absurd hflaw ((h x).flawless b hx i e)
    | error e' => exact ⟨e', rfl⟩
  constructor
  · rintro ys hys place e ⟨x, hx, hflaw⟩
    obtain ⟨e', he'⟩ := hfails hflaw
    exact (mapM xs).flawless ys hys _ e' ⟨x, hx, he'⟩
  · intro e he
    obtain ⟨n, ⟨x, hx, hfail⟩, hbefore⟩ := (mapM xs).first e he
    obtain ⟨i, hi, hfirst⟩ := (h x).first e hfail
    refine ⟨toLex (n, i), ⟨x, hx, hi⟩, ?_⟩
    rintro place e' ⟨y, hy, hj⟩
    rw [Prod.Lex.lt_iff]
    obtain ⟨e'', hfail'⟩ := hfails hj
    rcases hbefore _ e'' ⟨y, hy, hfail'⟩ with hlt | ⟨rfl, _⟩
    · exact .inl (.inl hlt)
    · obtain rfl : x = y := Option.some.inj (hx.symm.trans hy)
      rcases hfirst _ e' hj with hlt | ⟨rfl, rfl⟩
      · exact .inl (.inr ⟨rfl, hlt⟩)
      · exact .inr ⟨rfl, rfl⟩

end Reports

end ShellInit
