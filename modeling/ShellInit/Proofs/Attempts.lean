import Mathlib.Data.List.Forall2

/-!
# Attempts

Computations that may fail, one after the other: when all of them succeed, and what becomes of a
result that is changed on the way.
-/

namespace ShellInit

variable {ε ε' α β : Type}

theorem bind_eq_ok_iff {x : Except ε α} {f : α → Except ε β} {b : β} :
    x >>= f = .ok b ↔ ∃ a, x = .ok a ∧ f a = .ok b := by
  cases x <;> simp [bind, Except.bind]

theorem map_eq_ok_iff {x : Except ε α} {f : α → β} {b : β} :
    x.map f = .ok b ↔ ∃ a, x = .ok a ∧ f a = b := by
  cases x <;> simp [Except.map]

theorem mapError_eq_ok_iff {x : Except ε α} {f : ε → ε'} {a : α} :
    x.mapError f = .ok a ↔ x = .ok a := by
  cases x <;> simp [Except.mapError]

theorem mapError_eq_error_iff {x : Except ε α} {f : ε → ε'} {e' : ε'} :
    x.mapError f = .error e' ↔ ∃ e, x = .error e ∧ f e = e' := by
  cases x <;> simp [Except.mapError]

/-- If a change of the first result changes what follows alike, it changes the outcome alike. -/
theorem map_bind_congr {α' β' : Type} {x : Except ε α} {f : α → α'} {next : α' → Except ε β'}
    {next' : α → Except ε β} {g : β → β'} (h : ∀ a, next (f a) = (next' a).map g) :
    x.map f >>= next = (x >>= next').map g := by
  cases x with
  | error => rfl
  | ok a => exact h a

theorem mapM_append_of_eq_ok {f : α → Except ε β} {xs ys : List α} {zs : List β}
    (h : xs.mapM f = .ok zs) : (xs ++ ys).mapM f = (ys.mapM f).map (zs ++ ·) := by
  rw [List.mapM_append, h]
  cases ys.mapM f <;> rfl

/-- All attempts succeed if each of them does, with the results in the same order. -/
theorem mapM_eq_ok_iff {f : α → Except ε β} {xs : List α} {ys : List β} :
    xs.mapM f = .ok ys ↔ List.Forall₂ (fun x y ↦ f x = .ok y) xs ys := by
  induction xs generalizing ys with
  | nil => simp [pure, Except.pure, eq_comm]
  | cons x xs ih =>
    simp only [List.mapM_cons, bind_eq_ok_iff, ih, List.forall₂_cons_left_iff]
    constructor
    · rintro ⟨y, hy, zs, hzs, hys⟩
      exact ⟨y, zs, hy, hzs, (Except.ok.inj hys).symm⟩
    · rintro ⟨y, zs, hy, hzs, rfl⟩
      exact ⟨y, hy, zs, hzs, rfl⟩

/-- A list of attempts fails with the first one that does. -/
theorem exists_of_mapM_eq_error {f : α → Except ε β} {xs : List α} {e : ε}
    (h : xs.mapM f = .error e) :
    ∃ (i : Nat) (x : α), xs[i]? = some x ∧ f x = .error e ∧
      ∀ j < i, ∀ y : α, xs[j]? = some y → ∃ b, f y = .ok b := by
  induction xs with
  | nil => cases h
  | cons x xs ih =>
    rw [List.mapM_cons] at h
    cases hx : f x with
    | error e' =>
      rw [hx] at h
      obtain rfl : e' = e := Except.error.inj h
      exact ⟨0, x, rfl, hx, nofun⟩
    | ok b =>
      rw [hx] at h
      cases hxs : xs.mapM f with
      | ok bs =>
        rw [hxs] at h
        cases h
      | error e' =>
        rw [hxs] at h
        obtain rfl : e' = e := Except.error.inj h
        obtain ⟨i, y, hy, hfail, hbefore⟩ := ih hxs
        refine ⟨i + 1, y, hy, hfail, ?_⟩
        rintro (_ | j) hj z hz
        · obtain rfl : x = z := Option.some.inj hz
          exact ⟨b, hx⟩
        · exact hbefore j (Nat.lt_of_succ_lt_succ hj) z hz

theorem exists_eq_ok_of_mem {f : α → Except ε β} {xs : List α} {ys : List β} {x : α}
    (h : xs.mapM f = .ok ys) (hx : x ∈ xs) : ∃ y, f x = .ok y := by
  have hresults := mapM_eq_ok_iff.mp h
  clear h
  induction hresults with
  | nil => cases hx
  | cons hfirst _ ih =>
    rcases List.mem_cons.mp hx with rfl | hrest
    · exact ⟨_, hfirst⟩
    · exact ih hrest

theorem length_of_mapM_eq_ok {f : α → Except ε β} {xs : List α} {ys : List β}
    (h : xs.mapM f = .ok ys) : ys.length = xs.length :=
  (mapM_eq_ok_iff.mp h).length_eq.symm

end ShellInit
