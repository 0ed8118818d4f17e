import HostBridge.Text.Utf16

/-!
# Wide text reads back

No character is a surrogate, so a unit that stands for a character by itself is never taken for half
of a pair, and a pair is read as one. What `encode` writes is therefore well-formed, and `decode`
gets the text back from it.
-/

namespace HostBridge.Utf16

variable {unit high low : Unit}

theorem isHigh_iff : IsHigh unit ↔ 0xD800 ≤ unit.toNat ∧ unit.toNat < 0xDC00 := by
  rw [IsHigh, UInt16.le_iff_toNat_le, UInt16.lt_iff_toNat_lt]
  rfl

theorem isLow_iff : IsLow unit ↔ 0xDC00 ≤ unit.toNat ∧ unit.toNat < 0xE000 := by
  rw [IsLow, UInt16.le_iff_toNat_le, UInt16.lt_iff_toNat_lt]
  rfl

/-- A character is one unit outside the surrogates, or a high and a low surrogate. -/
theorem encodeChar_cases (c : Char) :
    (∃ unit, encodeChar c = [unit] ∧ ¬IsHigh unit ∧ ¬IsLow unit ∧ Char.ofNat unit.toNat = c) ∨
      ∃ high low, encodeChar c = [high, low] ∧ IsHigh high ∧ IsLow low ∧ combine high low = c := by
  have hvalid : c.toNat < 0xD800 ∨ 0xDFFF < c.toNat ∧ c.toNat < 0x110000 := c.valid
  have hunit (number : Nat) (h : number < 0x10000) : (UInt16.ofNat number).toNat = number :=
    UInt16.toNat_ofNat_of_lt' h
  unfold encodeChar
  split
  next hsmall =>
    have hsingle := hunit c.toNat hsmall
    refine .inl ⟨_, rfl, ?_, ?_, by rw [hsingle, Char.ofNat_toNat]⟩
    · rw [isHigh_iff, hsingle]
      omega
    · rw [isLow_iff, hsingle]
      omega
  next hlarge =>
    have hhigh := hunit (0xD800 + (c.toNat - 0x10000) / 0x400) (by omega)
    have hlow := hunit (0xDC00 + (c.toNat - 0x10000) % 0x400) (by omega)
    refine .inr ⟨_, _, rfl, ?_, ?_, ?_⟩
    · rw [isHigh_iff, hhigh]
      omega
    · rw [isLow_iff, hlow]
      omega
    · have hnumber : 0x10000 + (0xD800 + (c.toNat - 0x10000) / 0x400 - 0xD800) * 0x400
          + (0xDC00 + (c.toNat - 0x10000) % 0x400 - 0xDC00) = c.toNat := by omega
      rw [combine, hhigh, hlow, hnumber, Char.ofNat_toNat]

theorem decodeChars_single (hhigh : ¬IsHigh unit) (rest : List Unit) :
    decodeChars (unit :: rest) = single unit :: decodeChars rest := by
  cases rest with
  | nil => rfl
  | cons next rest =>
      rw [decodeChars]
      exact if_neg fun hpair => hhigh hpair.1

theorem decodeChars_pair (hhigh : IsHigh high) (hlow : IsLow low) (rest : List Unit) :
    decodeChars (high :: low :: rest) = combine high low :: decodeChars rest := by
  rw [decodeChars]
  exact if_pos ⟨hhigh, hlow⟩

theorem isWellFormed_single (hhigh : ¬IsHigh unit) (hlow : ¬IsLow unit) (rest : List Unit) :
    isWellFormed (unit :: rest) = isWellFormed rest := by
  have halone : ¬(IsHigh unit ∨ IsLow unit) := by
    rintro (h | h)
    · exact hhigh h
    · exact hlow h
  cases rest with
  | nil => simp [isWellFormed, halone]
  | cons next rest =>
      have hpair : ¬(IsHigh unit ∧ IsLow next) := fun h => hhigh h.1
      simp [isWellFormed, hpair, halone]

theorem isWellFormed_pair (hhigh : IsHigh high) (hlow : IsLow low) (rest : List Unit) :
    isWellFormed (high :: low :: rest) = isWellFormed rest := by
  rw [isWellFormed]
  exact if_pos ⟨hhigh, hlow⟩

theorem decodeChars_encodeChars (text : List Char) : decodeChars (encodeChars text) = text := by
  induction text with
  | nil => rfl
  | cons c rest ih =>
      rw [encodeChars, List.flatMap_cons, ← encodeChars]
      obtain ⟨unit, hunit, hhigh, hlow, hc⟩ | ⟨high, low, hpair, hhigh, hlow, hc⟩ :=
        encodeChar_cases c
      · have hsingle : single unit = c := by
          rw [single, if_neg (not_or.mpr ⟨hhigh, hlow⟩), hc]
        rw [hunit, List.singleton_append, decodeChars_single hhigh, hsingle, ih]
      · rw [hpair, List.cons_append, List.singleton_append, decodeChars_pair hhigh hlow, hc, ih]

theorem isWellFormed_encodeChars (text : List Char) : isWellFormed (encodeChars text) = true := by
  induction text with
  | nil => rfl
  | cons c rest ih =>
      rw [encodeChars, List.flatMap_cons, ← encodeChars]
      obtain ⟨unit, hunit, hhigh, hlow, -⟩ | ⟨high, low, hpair, hhigh, hlow, -⟩ :=
        encodeChar_cases c
      · rw [hunit, List.singleton_append, isWellFormed_single hhigh hlow, ih]
      · rw [hpair, List.cons_append, List.singleton_append, isWellFormed_pair hhigh hlow, ih]

theorem decode_encode (text : String) : decode (encode text) = text := by
  rw [decode, encode, decodeChars_encodeChars, String.ofList_toList]

theorem decode?_encode (text : String) : decode? (encode text) = some text := by
  have hformed : isWellFormed (encode text) = true := isWellFormed_encodeChars text.toList
  rw [decode?, if_pos hformed, decode_encode]

end HostBridge.Utf16
