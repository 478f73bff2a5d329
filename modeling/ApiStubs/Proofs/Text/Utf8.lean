import ApiStubs.Text.Utf8

/-!
# Writing UTF-8 and reading it back

One lemma per length of a character; the texts follow by induction over their characters.
-/

namespace ApiStubs.Utf8

/-- The code points of characters leave out the surrogates. -/
theorem toNat_valid (c : Char) :
    c.toNat < 0xD800 ∨ (0xDFFF < c.toNat ∧ c.toNat < 0x110000) := c.valid

theorem toNat_ofNat_of_lt {n : Nat} (h : n < 256) : (UInt8.ofNat n).toNat = n := by
  rw [UInt8.toNat_ofNat']
  exact Nat.mod_eq_of_lt h

theorem ofNat_le_ofNat {n m : Nat} (hm : m < 256) (h : n ≤ m) : UInt8.ofNat n ≤ UInt8.ofNat m := by
  rw [UInt8.le_iff_toNat_le, toNat_ofNat_of_lt (Nat.lt_of_le_of_lt h hm), toNat_ofNat_of_lt hm]
  exact h

/-- An octet given by its number is in a range if the number is. -/
theorem within_ofNat {low high n : Nat} (hhigh : high < 256) (h : low ≤ n ∧ n ≤ high) :
    (UInt8.ofNat low ≤ UInt8.ofNat n && UInt8.ofNat n ≤ UInt8.ofNat high) = true := by
  simp only [Bool.and_eq_true, decide_eq_true_eq]
  exact ⟨ofNat_le_ofNat (Nat.lt_of_le_of_lt h.2 hhigh) h.1, ofNat_le_ofNat hhigh h.2⟩

theorem isContinuation_ofNat (n : Nat) : isContinuation (UInt8.ofNat (n % 0x40 + 0x80)) = true :=
  within_ofNat (by decide) (show 128 ≤ n % 64 + 128 ∧ n % 64 + 128 ≤ 191 by omega)

theorem ofNat_eq_of_toNat {n : Nat} {c : Char} (h : n = c.toNat) : Char.ofNat n = c := by
  rw [h, Char.ofNat_toNat]

/-! ## Octets in front -/

section

variable {a b c d : UInt8} (rest : Bytes)

/-- An octet that starts at a bound is in no range that ends before it. -/
theorem not_within_of_lt {first low high : UInt8} (hfirst : first ≤ a) (hhigh : high < first) :
    ¬ (low ≤ a && a ≤ high) = true := by
  simp only [Bool.and_eq_true, decide_eq_true_eq]
  rintro ⟨-, hle⟩
  exact UInt8.not_le.2 hhigh (UInt8.le_trans hfirst hle)

theorem not_ascii_of_le {first : UInt8} (hfirst : first ≤ a) (h : 0x80 ≤ first) : ¬ a < 0x80 :=
  UInt8.not_lt.2 (UInt8.le_trans h hfirst)

theorem chars?_two_octets (ha : (0xC2 ≤ a && a ≤ 0xDF) = true) (hb : isContinuation b = true) :
    chars? (a :: b :: rest) = (chars? rest).map (char2 a b :: ·) := by
  have hfirst : 0xC2 ≤ a := of_decide_eq_true (Bool.and_eq_true_iff.1 ha).1
  rw [chars?, if_neg (not_ascii_of_le hfirst (by decide)), if_pos ha]
  simp only [hb, if_true]
  cases chars? rest <;> rfl

theorem chars?_three_octets (ha : (0xE0 ≤ a && a ≤ 0xEF) = true) (hb : second3 a b = true)
    (hc : isContinuation c = true) :
    chars? (a :: b :: c :: rest) = (chars? rest).map (char3 a b c :: ·) := by
  have hfirst : 0xE0 ≤ a := of_decide_eq_true (Bool.and_eq_true_iff.1 ha).1
  rw [chars?, if_neg (not_ascii_of_le hfirst (by decide)),
    if_neg (not_within_of_lt hfirst (by decide)), if_pos ha]
  simp only [hb, hc, Bool.and_self, if_true]
  cases chars? rest <;> rfl

theorem chars?_four_octets (ha : (0xF0 ≤ a && a ≤ 0xF4) = true) (hb : second4 a b = true)
    (hc : isContinuation c = true) (hd : isContinuation d = true) :
    chars? (a :: b :: c :: d :: rest) = (chars? rest).map (char4 a b c d :: ·) := by
  have hfirst : 0xF0 ≤ a := of_decide_eq_true (Bool.and_eq_true_iff.1 ha).1
  rw [chars?, if_neg (not_ascii_of_le hfirst (by decide)),
    if_neg (not_within_of_lt hfirst (by decide)),
    if_neg (not_within_of_lt hfirst (by decide)), if_pos ha]
  simp only [hb, hc, hd, Bool.and_self, if_true]
  cases chars? rest <;> rfl

end

/-! ## One character -/

section

variable {c : Char} (rest : Bytes)

theorem chars?_one (h : c.toNat ≤ 0x7F) :
    chars? (UInt8.ofNat c.toNat :: rest) = (chars? rest).map (c :: ·) := by
  have hb : (UInt8.ofNat c.toNat).toNat = c.toNat := toNat_ofNat_of_lt (by omega)
  have hlt : UInt8.ofNat c.toNat < 0x80 := by
    rw [UInt8.lt_iff_toNat_lt, hb]
    exact show c.toNat < 128 by omega
  rw [chars?.eq_def]
  simp only [if_pos hlt, hb, Char.ofNat_toNat]
  cases chars? rest <;> rfl

theorem chars?_two (h1 : 0x7F < c.toNat) (h2 : c.toNat ≤ 0x7FF) :
    chars? (UInt8.ofNat (c.toNat / 64 % 0x20 + 0xC0) :: UInt8.ofNat
      (c.toNat % 0x40 + 0x80) :: rest) =
      (chars? rest).map (c :: ·) := by
  have hfirst : 194 ≤ c.toNat / 64 % 32 + 192 ∧ c.toNat / 64 % 32 + 192 ≤ 223 := by omega
  have hchar : char2 (UInt8.ofNat (c.toNat / 64 % 32 + 192)) (UInt8.ofNat (c.toNat % 64 + 128)) =
      c := by
    apply ofNat_eq_of_toNat
    rw [toNat_ofNat_of_lt (by omega), toNat_ofNat_of_lt (by omega)]
    omega
  rw [chars?_two_octets rest (within_ofNat (by decide) hfirst) (isContinuation_ofNat _), hchar]

/-- The second octet of three keeps overlong forms and surrogates out, neither of which a character
has. -/
theorem second3_ofNat (h1 : 0x7FF < c.toNat) (h2 : c.toNat ≤ 0xFFFF) :
    second3 (UInt8.ofNat (c.toNat / 4096 % 16 + 224)) (UInt8.ofNat (c.toNat / 64 % 64 + 128)) =
      true := by
  have hv := toNat_valid c
  have ha := toNat_ofNat_of_lt (n := c.toNat / 4096 % 16 + 224) (by omega)
  unfold second3
  split
  · rename_i heq
    have heq' : c.toNat / 4096 % 16 + 224 = 224 := ha.symm.trans (congrArg UInt8.toNat heq)
    exact within_ofNat (by decide) (show 160 ≤ c.toNat / 64 % 64 + 128 ∧ _ ≤ 191 by omega)
  · split
    · rename_i heq
      have heq' : c.toNat / 4096 % 16 + 224 = 237 := ha.symm.trans (congrArg UInt8.toNat heq)
      exact within_ofNat (by decide) (show 128 ≤ c.toNat / 64 % 64 + 128 ∧ _ ≤ 159 by omega)
    · exact isContinuation_ofNat _

theorem chars?_three (h1 : 0x7FF < c.toNat) (h2 : c.toNat ≤ 0xFFFF) :
    chars? (UInt8.ofNat (c.toNat / 4096 % 0x10 + 0xE0) :: UInt8.ofNat
      (c.toNat / 64 % 0x40 + 0x80) ::
      UInt8.ofNat (c.toNat % 0x40 + 0x80) :: rest) = (chars? rest).map (c :: ·) := by
  have hfirst : 224 ≤ c.toNat / 4096 % 16 + 224 ∧ c.toNat / 4096 % 16 + 224 ≤ 239 := by omega
  have hchar : char3 (UInt8.ofNat (c.toNat / 4096 % 16 + 224))
      (UInt8.ofNat (c.toNat / 64 % 64 + 128))
      (UInt8.ofNat (c.toNat % 64 + 128)) = c := by
    apply ofNat_eq_of_toNat
    rw [toNat_ofNat_of_lt (by omega), toNat_ofNat_of_lt (by omega), toNat_ofNat_of_lt (by omega)]
    omega
  rw [chars?_three_octets rest (within_ofNat (by decide) hfirst) (second3_ofNat h1 h2)
    (isContinuation_ofNat _), hchar]

/-- The second octet of four keeps overlong forms and too large numbers out. -/
theorem second4_ofNat (h1 : 0xFFFF < c.toNat) :
    second4 (UInt8.ofNat (c.toNat / 262144 % 8 + 240)) (UInt8.ofNat (c.toNat / 4096 % 64 + 128)) =
      true := by
  have hv := toNat_valid c
  have ha := toNat_ofNat_of_lt (n := c.toNat / 262144 % 8 + 240) (by omega)
  unfold second4
  split
  · rename_i heq
    have heq' : c.toNat / 262144 % 8 + 240 = 240 := ha.symm.trans (congrArg UInt8.toNat heq)
    exact within_ofNat (by decide) (show 144 ≤ c.toNat / 4096 % 64 + 128 ∧ _ ≤ 191 by omega)
  · split
    · rename_i heq
      have heq' : c.toNat / 262144 % 8 + 240 = 244 := ha.symm.trans (congrArg UInt8.toNat heq)
      exact within_ofNat (by decide) (show 128 ≤ c.toNat / 4096 % 64 + 128 ∧ _ ≤ 143 by omega)
    · exact isContinuation_ofNat _

theorem chars?_four (h1 : 0xFFFF < c.toNat) :
    chars? (UInt8.ofNat (c.toNat / 262144 % 0x08 + 0xF0) ::
      UInt8.ofNat (c.toNat / 4096 % 0x40 + 0x80) :: UInt8.ofNat (c.toNat / 64 % 0x40 + 0x80) ::
      UInt8.ofNat (c.toNat % 0x40 + 0x80) :: rest) = (chars? rest).map (c :: ·) := by
  have hv := toNat_valid c
  have hfirst : 240 ≤ c.toNat / 262144 % 8 + 240 ∧ c.toNat / 262144 % 8 + 240 ≤ 244 := by omega
  have hchar : char4 (UInt8.ofNat (c.toNat / 262144 % 8 + 240))
      (UInt8.ofNat (c.toNat / 4096 % 64 + 128)) (UInt8.ofNat (c.toNat / 64 % 64 + 128))
      (UInt8.ofNat (c.toNat % 64 + 128)) = c := by
    apply ofNat_eq_of_toNat
    rw [toNat_ofNat_of_lt (by omega), toNat_ofNat_of_lt (by omega), toNat_ofNat_of_lt (by omega),
      toNat_ofNat_of_lt (by omega)]
    omega
  rw [chars?_four_octets rest (within_ofNat (by decide) hfirst) (second4_ofNat h1)
    (isContinuation_ofNat _) (isContinuation_ofNat _), hchar]

end

/-- The octets of a character are read as that character. -/
theorem chars?_utf8EncodeChar_append (c : Char) (rest : Bytes) :
    chars? (String.utf8EncodeChar c ++ rest) = (chars? rest).map (c :: ·) := by
  have hval : c.val.toNat = c.toNat := rfl
  unfold String.utf8EncodeChar
  simp only [hval]
  split
  · rename_i h
    exact chars?_one rest h
  · rename_i h1
    split
    · rename_i h2
      exact chars?_two rest (by omega) h2
    · rename_i h2
      split
      · rename_i h3
        exact chars?_three rest (by omega) h3
      · exact chars?_four rest (by omega)

/-! ## Texts -/

theorem chars?_flatMap (cs : List Char) :
    chars? (cs.flatMap String.utf8EncodeChar) = some cs := by
  induction cs with
  | nil => rfl
  | cons c cs ih => rw [List.flatMap_cons, chars?_utf8EncodeChar_append, ih]; rfl

/-- A text that was written is read back. -/
theorem decode?_encode (s : String) : decode? (encode s) = some s := by
  simp [decode?, encode, chars?_flatMap, String.ofList_toList]

@[simp]
theorem encode_append (s t : String) : encode (s ++ t) = encode s ++ encode t := by
  simp [encode, String.toList_append]

@[simp]
theorem encode_ofList (cs : List Char) :
    encode (String.ofList cs) = cs.flatMap String.utf8EncodeChar := by
  simp [encode, String.toList_ofList]

end ApiStubs.Utf8
