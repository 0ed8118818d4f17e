import HostBridge.Proofs.Text.Utf16

/-!
# Surrogates in their places

Whether a surrogate is half of a pair can be told from the two units next to it: no unit is a high
and a low surrogate, so pairs never overlap. `places` has every unit with its neighbours, and what
`decode` makes of a text is what each unit stands for in its place, one after the other.
-/

namespace HostBridge.Utf16

variable {unit high low : Unit} {before : Option Unit} {units : List Unit}

/-- The code point of a high and a low surrogate. -/
def supplementary (high low : Unit) : Nat :=
  0x10000 + (high.toNat - 0xD800) * 0x400 + (low.toNat - 0xDC00)

/-- A unit and the units next to it. -/
structure Place where
  before : Option Unit
  unit : Unit
  next : Option Unit
  deriving DecidableEq, Repr

namespace Place

variable {place : Place}

/-- Whether the unit is the first half of a pair. -/
def Opens (place : Place) : Prop :=
  IsHigh place.unit ∧ ∃ low ∈ place.next, IsLow low

/-- Whether the unit is the second half of a pair. -/
def Closes (place : Place) : Prop :=
  IsLow place.unit ∧ ∃ high ∈ place.before, IsHigh high

instance (place : Place) : Decidable place.Opens := inferInstanceAs (Decidable (_ ∧ _))

instance (place : Place) : Decidable place.Closes := inferInstanceAs (Decidable (_ ∧ _))

/-- Whether the unit is a surrogate and not half of a pair. -/
def IsUnpaired (place : Place) : Prop :=
  (IsHigh place.unit ∨ IsLow place.unit) ∧ ¬place.Opens ∧ ¬place.Closes

instance (place : Place) : Decidable place.IsUnpaired := inferInstanceAs (Decidable (_ ∧ _))

/-- What the unit stands for. A pair stands for one code point, an unpaired surrogate for U+FFFD,
and any other unit for itself. -/
def codePoint? (place : Place) : Option Nat :=
  if place.Closes then none
  else if place.Opens then some (supplementary place.unit (place.next.getD 0))
  else if place.IsUnpaired then some 0xFFFD
  else some place.unit.toNat

end Place

/-- The places of units that stand behind another unit or at the start of a text. -/
def placesBehind (before : Option Unit) : List Unit → List Place
  | [] => []
  | unit :: rest => ⟨before, unit, rest.head?⟩ :: placesBehind (some unit) rest

def places (units : List Unit) : List Place := placesBehind none units

theorem not_isLow_of_isHigh (h : IsHigh unit) : ¬IsLow unit := by
  rw [isHigh_iff] at h
  rw [isLow_iff]
  omega

theorem toNat_ofNat {number : Nat} (h : number.isValidChar) :
    (Char.ofNat number).toNat = number := by
  rw [Char.ofNat, dif_pos h]
  rfl

theorem toNat_combine (hhigh : IsHigh high) (hlow : IsLow low) :
    (combine high low).toNat = supplementary high low := by
  rw [isHigh_iff] at hhigh
  rw [isLow_iff] at hlow
  refine toNat_ofNat ?_
  unfold Nat.isValidChar
  omega

theorem toNat_single_of_surrogate (h : IsHigh unit ∨ IsLow unit) :
    (single unit).toNat = 0xFFFD := by
  rw [single, if_pos h]
  rfl

theorem toNat_single (h : ¬(IsHigh unit ∨ IsLow unit)) : (single unit).toNat = unit.toNat := by
  have hlt := unit.toNat_lt
  rw [single, if_neg h]
  rw [isHigh_iff, isLow_iff] at h
  refine toNat_ofNat ?_
  unfold Nat.isValidChar
  omega

theorem encodeChar_combine (hhigh : IsHigh high) (hlow : IsLow low) :
    encodeChar (combine high low) = [high, low] := by
  have hcode := toNat_combine hhigh hlow
  generalize combine high low = c at hcode
  rw [isHigh_iff] at hhigh
  rw [isLow_iff] at hlow
  have hsplit : c.toNat = 0x10000 + (high.toNat - 0xD800) * 0x400 + (low.toNat - 0xDC00) := hcode
  have hlarge : ¬c.toNat < 0x10000 := by omega
  have hfirst : 0xD800 + (c.toNat - 0x10000) / 0x400 = high.toNat := by omega
  have hsecond : 0xDC00 + (c.toNat - 0x10000) % 0x400 = low.toNat := by omega
  rw [encodeChar, if_neg hlarge, hfirst, hsecond, UInt16.ofNat_toNat, UInt16.ofNat_toNat]

theorem encodeChar_single (h : ¬(IsHigh unit ∨ IsLow unit)) :
    encodeChar (single unit) = [unit] := by
  have hlt := unit.toNat_lt
  rw [encodeChar, toNat_single h, if_pos (by omega), UInt16.ofNat_toNat]

namespace Place

variable {place : Place}

theorem codePoint?_of_closes (h : place.Closes) : place.codePoint? = none :=
  if_pos h

theorem codePoint?_pair (before : Option Unit) (hhigh : IsHigh high) (hlow : IsLow low) :
    (⟨before, high, some low⟩ : Place).codePoint? = some (combine high low).toNat := by
  have hcloses : ¬(⟨before, high, some low⟩ : Place).Closes := fun h =>
    not_isLow_of_isHigh hhigh h.1
  rw [codePoint?, if_neg hcloses, if_pos ⟨hhigh, low, rfl, hlow⟩, toNat_combine hhigh hlow]
  rfl

theorem codePoint?_alone (hopens : ¬place.Opens) (hcloses : ¬place.Closes) :
    place.codePoint? = some (single place.unit).toNat := by
  rw [codePoint?, if_neg hcloses, if_neg hopens]
  by_cases hsurrogate : IsHigh place.unit ∨ IsLow place.unit
  · rw [if_pos ⟨hsurrogate, hopens, hcloses⟩, toNat_single_of_surrogate hsurrogate]
  · rw [if_neg fun h => hsurrogate h.1, toNat_single hsurrogate]

end Place

/-- Whether the first of some units is no second half of a pair. -/
def StartsAfresh (before : Option Unit) (units : List Unit) : Prop :=
  ∀ high ∈ before, IsHigh high → ∀ low ∈ units.head?, ¬IsLow low

theorem startsAfresh_of_isLow (h : IsLow unit) (units : List Unit) :
    StartsAfresh (some unit) units := by
  rintro _ ⟨⟩ hhigh
  exact absurd h (not_isLow_of_isHigh hhigh)

theorem not_closes (h : StartsAfresh before (unit :: units)) (next : Option Unit) :
    ¬(⟨before, unit, next⟩ : Place).Closes := by
  rintro ⟨hlow, high, hbefore, hhigh⟩
  exact h high hbefore hhigh unit rfl hlow

theorem not_opens (h : StartsAfresh (some unit) units) (before : Option Unit) :
    ¬(⟨before, unit, units.head?⟩ : Place).Opens := by
  rintro ⟨hhigh, low, hnext, hlow⟩
  exact h unit rfl hhigh low hnext hlow

/-- A text is a pair and a text, or a unit that opens no pair and a text, or nothing. -/
theorem decodeChars_induction {motive : List Unit → Prop} (nil : motive [])
    (pair : ∀ high low rest, IsHigh high → IsLow low → motive rest → motive (high :: low :: rest))
    (alone : ∀ unit rest, StartsAfresh (some unit) rest → decodeChars (unit :: rest)
      = single unit :: decodeChars rest → motive rest → motive (unit :: rest))
    (units : List Unit) : motive units := by
  induction units using decodeChars.induct with
  | case1 high low rest hpair ih => exact pair high low rest hpair.1 hpair.2 ih
  | case2 unit next rest hpair ih =>
      refine alone unit (next :: rest) ?_ ?_ ih
      · rintro _ ⟨⟩ hhigh _ ⟨⟩ hlow
        exact hpair ⟨hhigh, hlow⟩
      · rw [decodeChars, if_neg hpair]
  | case3 unit => exact alone unit [] (fun _ _ _ _ h => by cases h) rfl nil
  | case4 => exact nil

theorem toNat_decodeChars (h : StartsAfresh before units) :
    (decodeChars units).map Char.toNat
      = (placesBehind before units).filterMap Place.codePoint? := by
  induction units using decodeChars_induction generalizing before with
  | nil => rfl
  | pair high low rest hhigh hlow ih =>
      have hfirst := Place.codePoint?_pair before hhigh hlow
      have hsecond : (⟨some high, low, rest.head?⟩ : Place).codePoint? = none :=
        Place.codePoint?_of_closes ⟨hlow, high, rfl, hhigh⟩
      rw [decodeChars_pair hhigh hlow, List.map_cons, ih (startsAfresh_of_isLow hlow rest),
        placesBehind, placesBehind, List.head?_cons, List.filterMap_cons_some hfirst,
        List.filterMap_cons_none hsecond]
  | alone unit rest hrest hdecode ih =>
      have hunit := Place.codePoint?_alone (not_opens hrest before) (not_closes h rest.head?)
      rw [hdecode, List.map_cons, ih hrest, placesBehind, List.filterMap_cons_some hunit]

theorem encodeChars_cons (c : Char) (text : List Char) :
    encodeChars (c :: text) = encodeChar c ++ encodeChars text :=
  List.flatMap_cons

/-- A text goes back to its units if and only if none of them is an unpaired surrogate. -/
theorem encodeChars_decodeChars_iff (h : StartsAfresh before units) :
    encodeChars (decodeChars units) = units ↔
      ∀ place ∈ placesBehind before units, ¬place.IsUnpaired := by
  induction units using decodeChars_induction generalizing before with
  | nil => exact iff_of_true rfl (List.forall_mem_nil _)
  | pair high low rest hhigh hlow ih =>
      have hfirst : ¬(⟨before, high, some low⟩ : Place).IsUnpaired := fun h =>
        h.2.1 ⟨hhigh, low, rfl, hlow⟩
      have hsecond : ¬(⟨some high, low, rest.head?⟩ : Place).IsUnpaired := fun h =>
        h.2.2 ⟨hlow, high, rfl, hhigh⟩
      rw [decodeChars_pair hhigh hlow, encodeChars_cons, encodeChar_combine hhigh hlow,
        List.cons_append, List.singleton_append, List.cons_inj_right, List.cons_inj_right,
        ih (startsAfresh_of_isLow hlow rest), placesBehind, placesBehind, List.forall_mem_cons,
        List.forall_mem_cons]
      exact ⟨fun h => ⟨hfirst, hsecond, h⟩, fun h => h.2.2⟩
  | alone unit rest hrest hdecode ih =>
      have hopens := not_opens hrest before
      have hcloses := not_closes h rest.head?
      rw [hdecode, encodeChars_cons, placesBehind, List.forall_mem_cons, ← ih hrest]
      by_cases hsurrogate : IsHigh unit ∨ IsLow unit
      · have hunpaired : (⟨before, unit, rest.head?⟩ : Place).IsUnpaired :=
          ⟨hsurrogate, hopens, hcloses⟩
        refine iff_of_false (fun heq => ?_) fun h => h.1 hunpaired
        rw [single, if_pos hsurrogate] at heq
        obtain rfl : 0xFFFD = unit := List.head_eq_of_cons_eq heq
        exact absurd hsurrogate (by decide)
      · have hpaired : ¬(⟨before, unit, rest.head?⟩ : Place).IsUnpaired := fun h => hsurrogate h.1
        rw [encodeChar_single hsurrogate, List.singleton_append, List.cons_inj_right]
        exact ⟨fun h => ⟨hpaired, h⟩, fun h => h.2⟩

/-- The units of a text stand for its characters, and none of them is an unpaired surrogate. -/
theorem places_encode (text : String) :
    (places (encode text)).filterMap Place.codePoint? = text.toList.map Char.toNat ∧
      ∀ place ∈ places (encode text), ¬place.IsUnpaired := by
  have hstart : StartsAfresh none (encode text) := fun _ h => by cases h
  have hback : decodeChars (encode text) = text.toList := decodeChars_encodeChars text.toList
  constructor
  · rw [places, ← toNat_decodeChars hstart, hback]
  · refine (encodeChars_decodeChars_iff hstart).mp ?_
    rw [hback]
    rfl

end HostBridge.Utf16
