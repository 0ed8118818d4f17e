import HostBridge.Name
import HostBridge.Proofs.Memory.Arrays
import HostBridge.Proofs.Text.Surrogates

namespace HostBridge

open Utf16 (encode decode)

variable {array : HostArray} {memory : Memory} {units : List Utf16.Unit}

namespace HostArray

theorem dropTerminator_append_zero (units : List Utf16.Unit) :
    dropTerminator (units ++ [0]) = units := by
  rw [dropTerminator, List.getLast?_concat, if_pos rfl, List.dropLast_concat]

theorem dropTerminator_of_ne (h : units.getLast? ≠ some 0) : dropTerminator units = units :=
  if_neg h

theorem text_of_holds (h : array.Holds memory units) :
    array.text memory = decode (dropTerminator units) := by
  rw [text, elements_of_holds h]

end HostArray

/-- The last unit of a character is zero only if the character is NUL. -/
theorem Utf16.getLast?_encodeChar (c : Char) :
    ∃ unit, (encodeChar c).getLast? = some unit ∧ (unit = 0 → c = '\x00') := by
  obtain ⟨unit, hunit, -, -, hc⟩ | ⟨high, low, hpair, -, hlow, -⟩ := encodeChar_cases c
  · refine ⟨unit, by rw [hunit, List.getLast?_singleton], ?_⟩
    rintro rfl
    exact hc.symm
  · refine ⟨low, by rw [hpair, List.getLast?_cons_cons, List.getLast?_singleton], ?_⟩
    rintro rfl
    exact absurd hlow (by decide)

theorem Utf16.getLast?_encode_ne_zero {text : String} (h : text.toList.getLast? ≠ some '\x00') :
    (encode text).getLast? ≠ some 0 := by
  rw [encode, encodeChars]
  rcases List.eq_nil_or_concat text.toList with hnil | ⟨front, last, hlast⟩
  · rw [hnil]
    rintro ⟨⟩
  · rw [hlast, List.concat_eq_append] at h ⊢
    rw [List.getLast?_concat] at h
    obtain ⟨unit, hunit, hzero⟩ := getLast?_encodeChar last
    rw [List.flatMap_append, List.flatMap_singleton, List.getLast?_append, hunit, Option.some_or]
    exact fun heq => h (congrArg some (hzero (Option.some.inj heq)))

theorem Utf16.decodeChars_bytes (bytes : List UInt8) :
    decodeChars (bytes.map UInt8.toUInt16) = bytes.map fun byte => Char.ofNat byte.toNat := by
  induction bytes with
  | nil => rfl
  | cons byte rest ih =>
      have hlt := byte.toNat_lt
      have hhigh : ¬IsHigh byte.toUInt16 := by
        rw [isHigh_iff, UInt8.toNat_toUInt16]
        omega
      have hlow : ¬IsLow byte.toUInt16 := by
        rw [isLow_iff, UInt8.toNat_toUInt16]
        omega
      rw [List.map_cons, decodeChars_single hhigh, ih, single, if_neg (not_or.mpr ⟨hhigh, hlow⟩),
        UInt8.toNat_toUInt16, List.map_cons]

theorem NameEntry.text_narrow (bytes : List UInt8) :
    (NameEntry.narrow bytes).text = (NameEntry.wide (bytes.map UInt8.toUInt16)).text :=
  (congrArg String.ofList (Utf16.decodeChars_bytes bytes)).symm

/-- Text that is kept as wide units reads back, as a string with one zero behind it or with none,
and as an entry of the name table. A narrow entry reads like the wide one with the same units. Other
units read as what each stands for in its place, where an unpaired surrogate is one U+FFFD, and can
be had back from the text if and only if there is none. A string loses one zero at its end, and no
more. -/
theorem text_faithful (text : String) (bytes : List UInt8) (units : List Utf16.Unit)
    (array : HostArray) (memory : Memory) :
    (array.Holds memory (encode text ++ [0]) → array.text memory = text) ∧
      (array.Holds memory (encode text) → text.toList.getLast? ≠ some '\x00' →
        array.text memory = text) ∧
      (NameEntry.wide (encode text)).text = text ∧
      (NameEntry.narrow bytes).text = (NameEntry.wide (bytes.map UInt8.toUInt16)).text ∧
      (array.Holds memory (units ++ [0]) → array.text memory = (NameEntry.wide units).text) ∧
      (array.Holds memory units → units.getLast? ≠ some 0 →
        array.text memory = (NameEntry.wide units).text) ∧
      (NameEntry.wide units).text.toList.map Char.toNat
        = (Utf16.places units).filterMap Utf16.Place.codePoint? ∧
      (encode (NameEntry.wide units).text = units ↔
        ∀ place ∈ Utf16.places units, ¬place.IsUnpaired) := by
  have hterminated {units : List Utf16.Unit} (h : array.Holds memory (units ++ [0])) :
      array.text memory = decode units := by
    rw [HostArray.text_of_holds h, HostArray.dropTerminator_append_zero]
  have hunterminated {units : List Utf16.Unit} (h : array.Holds memory units)
      (hlast : units.getLast? ≠ some 0) : array.text memory = decode units := by
    rw [HostArray.text_of_holds h, HostArray.dropTerminator_of_ne hlast]
  have hstart : Utf16.StartsAfresh none units := fun _ h => by cases h
  have hchars : (decode units).toList = Utf16.decodeChars units := String.toList_ofList
  refine ⟨fun h => ?_, fun h hlast => ?_, Utf16.decode_encode text, NameEntry.text_narrow bytes,
    hterminated, hunterminated, ?_, ?_⟩
  · rw [hterminated h, Utf16.decode_encode]
  · rw [hunterminated h (Utf16.getLast?_encode_ne_zero hlast), Utf16.decode_encode]
  · rw [NameEntry.text, hchars]
    exact Utf16.toNat_decodeChars hstart
  · rw [NameEntry.text, encode, hchars]
    exact Utf16.encodeChars_decodeChars_iff hstart

def storedUnits (units : List Utf16.Unit) : HostArray × Memory :=
  (⟨0x1000, Int32.ofNat units.length, 0⟩, Memory.zeroed.store 0x1000 (units.flatMap Stored.encode))

theorem holds_storedUnits {units : List Utf16.Unit} (h : units.length < 2 ^ 31) :
    (storedUnits units).1.Holds (storedUnits units).2 units := by
  have hsize : Stored.width Utf16.Unit * units.length ≤ UInt64.size :=
    Nat.le_trans (Nat.mul_le_mul_left 2 (Nat.le_of_lt h)) (by decide)
  exact HostArray.holds_store Memory.zeroed (by decide) 0 h hsize

/-- Surrogates in the wrong order, one that is doubled, and two zeros. -/
def brokenUnits : List Utf16.Unit := [0xDD1E, 0xD834, 0xD834, 0xDD1E, 0, 0]

theorem text_of_stored_units :
    let terminated := storedUnits (encode "a𝄞" ++ [0])
    let bare := storedUnits (encode "a𝄞")
    let broken := storedUnits (brokenUnits ++ [0])
    (terminated.1.Holds terminated.2 (encode "a𝄞" ++ [0]) ∧
      terminated.1.text terminated.2 = "a𝄞") ∧
    (bare.1.Holds bare.2 (encode "a𝄞") ∧ "a𝄞".toList.getLast? ≠ some '\x00' ∧
      bare.1.text bare.2 = "a𝄞") ∧
    (broken.1.Holds broken.2 (brokenUnits ++ [0]) ∧
      (broken.1.text broken.2).toList.map Char.toNat = [0xFFFD, 0xFFFD, 0x1D11E, 0, 0] ∧
      encode (broken.1.text broken.2) ≠ brokenUnits) := by
  intro terminated bare broken
  have hterminated : terminated.1.Holds terminated.2 (encode "a𝄞" ++ [0]) :=
    holds_storedUnits (by decide)
  have hbare : bare.1.Holds bare.2 (encode "a𝄞") := holds_storedUnits (by decide)
  have hlast : "a𝄞".toList.getLast? ≠ some '\x00' := by decide
  have hbroken : broken.1.Holds broken.2 (brokenUnits ++ [0]) := holds_storedUnits (by decide)
  obtain ⟨hwhole, -⟩ := text_faithful "a𝄞" [] [] terminated.1 terminated.2
  obtain ⟨-, hopen, -⟩ := text_faithful "a𝄞" [] [] bare.1 bare.2
  obtain ⟨-, -, -, -, hdropped, -, hmeaning, hback⟩ :=
    text_faithful "" [] brokenUnits broken.1 broken.2
  refine ⟨⟨hterminated, hwhole hterminated⟩, ⟨hbare, hlast, hopen hbare hlast⟩, hbroken, ?_, ?_⟩
  · rw [hdropped hbroken, hmeaning]
    decide
  · rw [hdropped hbroken, ne_eq, hback]
    decide

end HostBridge
