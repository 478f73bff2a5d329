import ApiStubs.Proofs.Text.Utf8
import Mathlib.Data.List.Lex
import Mathlib.Tactic.SplitIfs

/-!
# The order of texts and of their octets

Texts are ordered by their characters.  The octets of a character are a first one and then the
digits of its code point to the base of 64, high ones first.  A longer character has a greater first
octet, so that the order of texts is that of their octets.
-/

namespace ApiStubs.Utf8

/-- The last digits of a number to the base of 64, as the octets that continue a character. -/
def octetsAfter : Nat → Nat → Bytes
  | 0, _ => []
  | count + 1, n => octetsAfter count (n / 64) ++ [UInt8.ofNat (n % 64 + 0x80)]

/-- What stands in front of the last digits. -/
def front : Nat → Nat → Nat
  | 0, n => n
  | count + 1, n => front count (n / 64)

/-- The first octet of a code point. -/
def firstOctet (n : Nat) : Nat :=
  if n ≤ 0x7F then n
  else if n ≤ 0x7FF then n / 64 + 0xC0
  else if n ≤ 0xFFFF then n / 4096 + 0xE0
  else n / 262144 + 0xF0

/-- The number of octets after the first one. -/
def octetCount (n : Nat) : Nat :=
  if n ≤ 0x7F then 0 else if n ≤ 0x7FF then 1 else if n ≤ 0xFFFF then 2 else 3

theorem firstOctet_lt {n : Nat} (h : n < 0x110000) : firstOctet n < 256 := by
  unfold firstOctet
  split_ifs <;> omega

/-- The octets of a character are the first one and those that continue it. -/
theorem utf8EncodeChar_eq (c : Char) :
    String.utf8EncodeChar c =
      UInt8.ofNat (firstOctet c.toNat) :: octetsAfter (octetCount c.toNat) c.toNat := by
  have hvalid := toNat_valid c
  have hval : c.val.toNat = c.toNat := rfl
  unfold String.utf8EncodeChar firstOctet octetCount
  simp only [hval]
  split_ifs with hone htwo hthree
  · rfl
  · have hfirst : c.toNat / 64 % 32 = c.toNat / 64 := Nat.mod_eq_of_lt (by omega)
    simp [octetsAfter, hfirst]
  · have hfirst : c.toNat / 4096 % 16 = c.toNat / 4096 := Nat.mod_eq_of_lt (by omega)
    simp [octetsAfter, hfirst]
  · have hfirst : c.toNat / 262144 % 8 = c.toNat / 262144 := Nat.mod_eq_of_lt (by omega)
    simp [octetsAfter, hfirst, Nat.div_div_eq_div_mul]

theorem ofNat_lt_ofNat {n m : Nat} (hm : m < 256) (h : n < m) : UInt8.ofNat n < UInt8.ofNat m := by
  rw [UInt8.lt_iff_toNat_lt, toNat_ofNat_of_lt (Nat.lt_trans h hm), toNat_ofNat_of_lt hm]
  exact h

/-- Of two numbers that agree in front of their last digits, the smaller one has the smaller digits,
whatever follows them. -/
theorem lex_octetsAfter {count n m : Nat} (hfront : front count n = front count m) (h : n < m)
    (x y : Bytes) :
    List.Lex (· < ·) (octetsAfter count n ++ x) (octetsAfter count m ++ y) := by
  induction count generalizing n m x y with
  | zero => exact absurd hfront (Nat.ne_of_lt h)
  | succ count ih =>
      simp only [octetsAfter, List.append_assoc]
      by_cases hhigh : n / 64 = m / 64
      · -- the last digits decide
        rw [hhigh]
        exact List.Lex.append_left _ (.rel (ofNat_lt_ofNat (by omega) (by omega))) _
      · exact ih hfront (by omega) _ _

/-- The first octets of two code points decide, unless the code points agree in front of the same
number of digits. -/
theorem firstOctet_lt_or {n m : Nat} (h : n < m) :
    firstOctet n < firstOctet m ∨ firstOctet n = firstOctet m ∧ octetCount n = octetCount m ∧
      front (octetCount n) n = front (octetCount n) m := by
  unfold firstOctet octetCount
  split_ifs <;> simp only [front, true_and] <;> omega

/-- The octets of characters are ordered as the characters are, whatever follows them. -/
theorem lex_utf8EncodeChar {c d : Char} (h : c < d) (x y : Bytes) :
    List.Lex (· < ·) (String.utf8EncodeChar c ++ x) (String.utf8EncodeChar d ++ y) := by
  have hvalid := toNat_valid d
  have hlt : c.toNat < d.toNat := h
  rw [utf8EncodeChar_eq, utf8EncodeChar_eq, List.cons_append, List.cons_append]
  rcases firstOctet_lt_or hlt with hfirst | ⟨hfirst, hcount, hfront⟩
  · exact .rel (ofNat_lt_ofNat (firstOctet_lt (by omega)) hfirst)
  · rw [hfirst, ← hcount]
    exact .cons (lex_octetsAfter hfront hlt x y)

/-- Texts are ordered as their octets are. -/
theorem lex_encode {s t : String} (h : s < t) : List.Lex (· < ·) (encode s) (encode t) := by
  have hchars : List.Lex (· < ·) s.toList t.toList := String.lt_iff.1 h
  unfold encode
  generalize s.toList = cs at hchars
  generalize t.toList = ds at hchars
  induction hchars with
  | @nil d ds =>
      rw [List.flatMap_nil, List.flatMap_cons, utf8EncodeChar_eq]
      exact .nil
  | rel hchar => exact lex_utf8EncodeChar hchar _ _
  | cons _ ih => exact List.Lex.append_left _ ih _

end ApiStubs.Utf8
