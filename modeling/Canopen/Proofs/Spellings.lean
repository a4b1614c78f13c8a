/-
**Octets in hexadecimal, and how they are spelled.**

* `Hex.digits`: the digits of octets, the high one of each first.
* `Hex.decode?_eq_some_iff`: **a text is read as octets exactly if it spells their digits**, each by
  its small letter or its capital.
* `Hex.decode?_encode`: **octets are read as they were written.**
* `Hex.IsHex`: an even number of hexadecimal letters, and nothing else.
* `Hex.encode_of_decode?`: **what is read is written as the text in small letters.**
* `Hex.codec_bijective`: **reading and writing are inverse up to the case of letters**, and the
  texts that are read are those in hexadecimal.
-/

import Mathlib.Algebra.Group.Nat.Even
import Mathlib.Data.List.Induction
import Canopen.Proofs.Literals
import Canopen.Text.Hex

namespace Canopen.Hex

open Numeral (Spells IsLetter)

/-! ### Digits of octets -/

/-- The digits of octets, the high one of each first. -/
def digits (octets : List UInt8) : List Nat :=
  octets.flatMap fun octet => [octet.toNat / 16, octet.toNat % 16]

theorem digits_cons (octet : UInt8) (rest : List UInt8) :
    digits (octet :: rest) = octet.toNat / 16 :: octet.toNat % 16 :: digits rest := rfl

/-- Two digits make the octet that has them. -/
theorem digits_ofNat_cons {high low : Nat} (upper : high < 16) (lower : low < 16)
    (rest : List UInt8) :
    digits (UInt8.ofNat (16 * high + low) :: rest) = high :: low :: digits rest := by
  have fits : 16 * high + low < UInt8.size := by
    show _ < 256
    omega
  have whole := UInt8.toNat_ofNat_of_lt' fits
  have first : (16 * high + low) / 16 = high := by omega
  have second : (16 * high + low) % 16 = low := by omega
  rw [digits_cons, whole, first, second]

theorem length_digits (octets : List UInt8) : (digits octets).length = 2 * octets.length := by
  induction octets with
  | nil => rfl
  | cons octet rest ih =>
    rw [digits_cons, List.length_cons, List.length_cons, ih, List.length_cons]
    omega

theorem lt_of_mem_digits (octets : List UInt8) : ∀ digit ∈ digits octets, digit < 16 := by
  induction octets with
  | nil => exact nofun
  | cons octet rest ih =>
    rw [digits_cons, List.forall_mem_cons, List.forall_mem_cons]
    exact ⟨Nat.div_lt_of_lt_mul octet.toNat_lt, Nat.mod_lt _ (by decide), ih⟩

/-- An even number of digits are those of octets. -/
theorem exists_digits {row : List Nat} (even : Even row.length) (few : ∀ digit ∈ row, digit < 16) :
    ∃ octets, digits octets = row := by
  -- Two digits at a time, as they make an octet.
  induction row using List.twoStepInduction with
  | nil => exact ⟨[], rfl⟩
  | singleton digit => exact absurd even Nat.not_even_one
  | cons_cons high low rest ih =>
    rw [List.forall_mem_cons, List.forall_mem_cons] at few
    obtain ⟨upper, lower, others⟩ := few
    have more : Even (rest.length + 2) := even
    obtain ⟨octets, rfl⟩ := ih ((Nat.even_add.mp more).mpr even_two) others
    exact ⟨_, digits_ofNat_cons upper lower octets⟩

/-! ### Letters -/

/-- The hexadecimal letters. -/
def letters : Text := Text.ofString "0123456789abcdefABCDEF"

/-- A text in hexadecimal: an even number of hexadecimal letters, and nothing else. -/
def IsHex (text : Text) : Prop :=
  Even text.length ∧ ∀ octet ∈ text, octet ∈ letters

instance (text : Text) : Decidable (IsHex text) :=
  inferInstanceAs (Decidable (_ ∧ _))

theorem exists_isLetter : ∀ octet ∈ letters, ∃ digit < 16, IsLetter octet digit := by
  decide +kernel

theorem mem_letters : ∀ digit < 16, UInt8.ofNat digit.digitChar.toNat ∈ letters ∧
    UInt8.ofNat digit.digitChar.toUpper.toNat ∈ letters := by
  decide

/-- The hexadecimal letters are those of the sixteen digits, small or capital. -/
theorem mem_letters_iff {octet : UInt8} :
    octet ∈ letters ↔ ∃ digit < 16, IsLetter octet digit := by
  constructor
  · exact exists_isLetter octet
  · rintro ⟨digit, few, rfl | rfl⟩
    · exact (mem_letters digit few).1
    · exact (mem_letters digit few).2

theorem isLetter_digit : ∀ value < 16, IsLetter (digit value) value := by
  decide

theorem lowerOctet_letter : ∀ value < 16,
    Text.lowerOctet (UInt8.ofNat value.digitChar.toNat) = digit value ∧
      Text.lowerOctet (UInt8.ofNat value.digitChar.toUpper.toNat) = digit value := by
  decide

variable {text : Text} {row : List Nat} {octets : List UInt8}

/-- In small letters a spelling is made of the small letters of its digits. -/
theorem lower_eq_map (spells : Spells 16 text row) : text.lower = row.map digit := by
  induction spells with
  | nil => rfl
  | @cons octet value text row first rest ih =>
    have small : Text.lowerOctet octet = digit value := by
      rcases first.2 with rfl | rfl
      · exact (lowerOctet_letter value first.1).1
      · exact (lowerOctet_letter value first.1).2
    rw [List.map_cons, ← ih, ← small]
    rfl

theorem spells_map_digit (few : ∀ value ∈ row, value < 16) : Spells 16 (row.map digit) row := by
  refine List.forall₂_map_left_iff.mpr (List.forall₂_same.mpr fun value member => ?_)
  exact ⟨few value member, isLetter_digit value (few value member)⟩

/-- Octets are written by the small letters of their digits. -/
theorem encode_eq_map (octets : List UInt8) : encode octets = (digits octets).map digit := by
  rw [digits, List.map_flatMap]
  rfl

theorem spells_encode (octets : List UInt8) : Spells 16 (encode octets) (digits octets) :=
  encode_eq_map octets ▸ spells_map_digit (lt_of_mem_digits octets)

/-- The texts in hexadecimal are the spellings of octets. -/
theorem isHex_iff : IsHex text ↔ ∃ octets, Spells 16 text (digits octets) := by
  constructor
  · rintro ⟨even, all⟩
    have digit (octet : UInt8) (member : octet ∈ text) : Numeral.isDigit 16 octet = true := by
      obtain ⟨digit, few, letter⟩ := mem_letters_iff.mp (all octet member)
      exact Numeral.isDigit_iff.mpr ⟨digit, few, Numeral.digit?_eq_some_iff.mpr ⟨few, letter⟩⟩
    -- The digits that the text spells are even in number, and so those of octets.
    obtain ⟨row, spells⟩ := Numeral.exists_spells digit
    rw [List.Forall₂.length_eq spells] at even
    obtain ⟨octets, rfl⟩ := exists_digits even spells.lt
    exact ⟨octets, spells⟩
  · rintro ⟨octets, spells⟩
    refine ⟨?_, fun octet member => ?_⟩
    · rw [List.Forall₂.length_eq spells, length_digits]
      exact even_two_mul _
    · obtain ⟨digit, few, reads⟩ :=
        Numeral.isDigit_iff.mp (spells.isDigit (le_refl 16) octet member)
      exact mem_letters_iff.mpr ⟨digit, Numeral.digit?_eq_some_iff.mp reads⟩

/-! ### Reading and writing -/

theorem spells_of_decode? (reads : decode? text = some octets) :
    Spells 16 text (digits octets) := by
  induction text using decode?.induct generalizing octets with
  | case1 =>
    obtain rfl := Option.some.inj reads
    exact .nil
  | case2 octet => exact absurd reads nofun
  | case3 high low rest ih =>
    simp only [decode?, Option.bind_eq_bind, Option.bind_eq_some_iff] at reads
    obtain ⟨upper, first, lower, second, others, later, same⟩ := reads
    obtain rfl := Option.some.inj same
    have leads := Numeral.digit?_eq_some_iff.mp first
    have follows := Numeral.digit?_eq_some_iff.mp second
    rw [digits_ofNat_cons leads.1 follows.1]
    exact .cons leads (.cons follows (ih later))

theorem decode?_of_spells (spells : Spells 16 text (digits octets)) :
    decode? text = some octets := by
  induction octets generalizing text with
  | nil =>
    cases spells
    rfl
  | cons octet rest ih =>
    cases spells with
    | cons first spells =>
      cases spells with
      | cons second spells =>
        rw [decode?, Numeral.digit?_eq_some_iff.mpr first, Numeral.digit?_eq_some_iff.mpr second,
          ih spells]
        show some (UInt8.ofNat (16 * (octet.toNat / 16) + octet.toNat % 16) :: rest) = _
        rw [Nat.div_add_mod, UInt8.ofNat_toNat]

/-- **A text is read as octets exactly if it spells their digits.** -/
theorem decode?_eq_some_iff : decode? text = some octets ↔ Spells 16 text (digits octets) :=
  ⟨spells_of_decode?, decode?_of_spells⟩

/-- **Octets are read as they were written.** -/
theorem decode?_encode (octets : List UInt8) : decode? (encode octets) = some octets :=
  decode?_eq_some_iff.mpr (spells_encode octets)

/-- **What is read is written as the text in small letters.** -/
theorem encode_of_decode? (reads : decode? text = some octets) : encode octets = text.lower := by
  rw [lower_eq_map (decode?_eq_some_iff.mp reads), encode_eq_map]

theorem exists_decode?_iff : (∃ octets, decode? text = some octets) ↔ IsHex text := by
  rw [isHex_iff]
  exact exists_congr fun octets => decode?_eq_some_iff

/-- A text that is read as octets has no blank. -/
theorem solid_of_decode? (reads : decode? text = some octets) : text.any Text.isBlank = false :=
  (decode?_eq_some_iff.mp reads).solid (le_refl 16)

/-- **Reading and writing are inverse up to the case of letters.** Octets are read as they were
written; the texts that are read are those in hexadecimal; such a text spells the digits of what is
read, which is written as the text in small letters. -/
theorem codec_bijective :
    (∀ octets, decode? (encode octets) = some octets) ∧
    (∀ text, (∃ octets, decode? text = some octets) ↔ IsHex text) ∧
    ∀ text octets, decode? text = some octets →
      Spells 16 text (digits octets) ∧ encode octets = text.lower := by
  refine ⟨decode?_encode, fun text => exists_decode?_iff, fun text octets reads => ⟨?_, ?_⟩⟩
  · exact decode?_eq_some_iff.mp reads
  · exact encode_of_decode? reads

/-- A text with letters of both cases is read, and written in small ones; with a NUL in the place
of a letter it is refused. -/
theorem codec_bijective_mixed :
    (decode? (Text.ofString "0A0bFf") = some [10, 11, 255] ∧
      Spells 16 (Text.ofString "0A0bFf") [0, 10, 0, 11, 15, 15] ∧
      encode [10, 11, 255] = Text.ofString "0a0bff") ∧
    ¬ ∃ octets, decode? (Text.ofString "0A0bF" ++ [Text.nul]) = some octets := by
  have reads : decode? (Text.ofString "0A0bFf") = some [10, 11, 255] := by decide
  have other : ¬ IsHex (Text.ofString "0A0bF" ++ [Text.nul]) := by decide
  obtain ⟨-, readable, reading⟩ := codec_bijective
  exact ⟨⟨reads, reading _ _ reads⟩, fun found => other ((readable _).mp found)⟩

end Canopen.Hex
