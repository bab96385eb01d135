import Mathlib.Data.String.Basic
import Mathlib.Order.Basic

/-!
# The order of bytes

Texts are ordered by their code points. The bytes of their UTF-8 forms give the same order: of two
characters the lesser one has the lesser first byte, or the same first byte and, after it, the lesser
bits.
-/

namespace ShellInit.Text

/-- The bytes of the UTF-8 form. -/
def bytes (s : String) : List UInt8 := s.toUTF8.data.toList

theorem bytes_eq (s : String) : bytes s = s.toList.flatMap String.utf8EncodeChar := by
  rw [bytes, String.toUTF8, ← String.utf8Encode_toList, List.utf8Encode, List.toList_data_toByteArray]

/-! ## Characters -/

theorem toNat_lt (c : Char) : c.toNat < 0x110000 := by
  rcases c.valid with hlow | ⟨_, hhigh⟩
  · exact Nat.lt_trans hlow (by decide)
  · exact hhigh

/-- A number in bytes: a first byte with a mark, and so many bytes of six bits each. -/
def markedBytes (mark : Nat) : Nat → Nat → List UInt8
  | 0, n => [UInt8.ofNat (n + mark)]
  | count + 1, n => markedBytes mark count (n / 64) ++ [UInt8.ofNat (n % 64 + 128)]

/-- A character takes one to four bytes, by its code point. -/
theorem utf8EncodeChar_eq (c : Char) :
    String.utf8EncodeChar c =
      if c.toNat ≤ 0x7f then markedBytes 0 0 c.toNat
      else if c.toNat ≤ 0x7ff then markedBytes 0xc0 1 c.toNat
      else if c.toNat ≤ 0xffff then markedBytes 0xe0 2 c.toNat
      else markedBytes 0xf0 3 c.toNat := by
  have hbound := toNat_lt c
  have hvalue : c.val.toNat = c.toNat := rfl
  simp only [String.utf8EncodeChar, markedBytes, hvalue, Nat.div_div_eq_div_mul, Nat.add_zero,
    Nat.reduceMul, List.cons_append, List.nil_append]
  split_ifs
  · rfl
  · rw [Nat.mod_eq_of_lt (show c.toNat / 64 < 32 by omega)]
  · rw [Nat.mod_eq_of_lt (show c.toNat / 4096 < 16 by omega)]
  · rw [Nat.mod_eq_of_lt (show c.toNat / 262144 < 8 by omega)]

theorem cons_lt_cons_of_lt {m n : Nat} (h : m < n) (hn : n < 256) (x y : List UInt8) :
    UInt8.ofNat m :: x < UInt8.ofNat n :: y := by
  rw [List.cons_lt_cons_iff, UInt8.ofNat_lt_iff_lt (Nat.lt_trans h hn) hn]
  exact .inl h

theorem exists_markedBytes_eq_cons (mark count n : Nat) :
    ∃ rest, markedBytes mark count n = UInt8.ofNat (n / 64 ^ count + mark) :: rest := by
  induction count generalizing n with
  | zero => exact ⟨[], by simp [markedBytes]⟩
  | succ count ih =>
    obtain ⟨rest, hrest⟩ := ih (n / 64)
    rw [Nat.div_div_eq_div_mul, ← Nat.pow_succ'] at hrest
    exact ⟨_, by rw [markedBytes, hrest, List.cons_append]⟩

/-- With the same mark and the same number of bytes, the bytes are in the order of the numbers. -/
theorem markedBytes_append_lt {mark count m n : Nat} (h : m < n)
    (hn : n / 64 ^ count + mark < 256) (x y : List UInt8) :
    markedBytes mark count m ++ x < markedBytes mark count n ++ y := by
  induction count generalizing m n x y with
  | zero => exact cons_lt_cons_of_lt (by omega) (by simpa using hn) x y
  | succ count ih =>
    have hdigit : m / 64 < n / 64 ∨ m / 64 = n / 64 ∧ m % 64 < n % 64 := by omega
    rw [markedBytes, markedBytes, List.append_assoc, List.append_assoc]
    rcases hdigit with hlt | ⟨heq, hlt⟩
    · refine ih hlt ?_ _ _
      rwa [Nat.div_div_eq_div_mul, ← Nat.pow_succ']
    · rw [heq]
      exact List.append_left_lt (cons_lt_cons_of_lt (by omega) (by omega) x y)

/-- With different marks, the first bytes decide. -/
theorem markedBytes_append_lt_of_first {mark count m mark' count' n : Nat}
    (h : m / 64 ^ count + mark < n / 64 ^ count' + mark') (hn : n / 64 ^ count' + mark' < 256)
    (x y : List UInt8) : markedBytes mark count m ++ x < markedBytes mark' count' n ++ y := by
  obtain ⟨rest, hrest⟩ := exists_markedBytes_eq_cons mark count m
  obtain ⟨rest', hrest'⟩ := exists_markedBytes_eq_cons mark' count' n
  rw [hrest, hrest']
  exact cons_lt_cons_of_lt h hn _ _

/-- The lesser character has the lesser bytes, whatever follows. -/
theorem utf8EncodeChar_append_lt {c d : Char} (h : c < d) (x y : List UInt8) :
    String.utf8EncodeChar c ++ x < String.utf8EncodeChar d ++ y := by
  have hlt : c.toNat < d.toNat := h
  have hbound := toNat_lt d
  have hmarked {mark count mark' count' : Nat} (hfirst : mark = mark' ∧ count = count' ∨
        c.toNat / 64 ^ count + mark < d.toNat / 64 ^ count' + mark')
      (hd : d.toNat / 64 ^ count' + mark' < 256) :
      markedBytes mark count c.toNat ++ x < markedBytes mark' count' d.toNat ++ y := by
    rcases hfirst with ⟨rfl, rfl⟩ | hfirst
    · exact markedBytes_append_lt hlt hd x y
    · exact markedBytes_append_lt_of_first hfirst hd x y
  rw [utf8EncodeChar_eq, utf8EncodeChar_eq]
  split_ifs <;> exact hmarked (by omega) (by omega)

/-! ## Texts -/

theorem flatMap_utf8EncodeChar_lt {s t : List Char} (h : s < t) :
    s.flatMap String.utf8EncodeChar < t.flatMap String.utf8EncodeChar := by
  induction h with
  | @nil c t =>
    rw [List.flatMap_nil, List.flatMap_cons]
    obtain ⟨first, rest, hbytes⟩ :=
      List.exists_cons_of_ne_nil (String.utf8EncodeChar_ne_nil (c := c))
    rw [hbytes, List.cons_append]
    exact List.nil_lt_cons _ _
  | rel h =>
    rw [List.flatMap_cons, List.flatMap_cons]
    exact utf8EncodeChar_append_lt h _ _
  | cons _ ih =>
    rw [List.flatMap_cons, List.flatMap_cons]
    exact List.append_left_lt ih

/-- The bytes of two texts stand in the order of the texts. -/
theorem bytes_lt_bytes_iff {s t : String} : bytes s < bytes t ↔ s < t := by
  have hbytes {s t : String} (h : s < t) : bytes s < bytes t := by
    rw [bytes_eq, bytes_eq]
    exact flatMap_utf8EncodeChar_lt (String.lt_iff_toList_lt.mp h)
  constructor
  · intro h
    rcases lt_trichotomy s t with hlt | rfl | hgt
    · exact hlt
    · exact absurd h (List.lt_irrefl _)
    · exact absurd h (List.lt_asymm (hbytes hgt))
  · exact hbytes

end ShellInit.Text
