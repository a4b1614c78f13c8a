/-
**Numerals and words are read as they are written.**

* `Text.words_intercalate`: words with one space between any two of them are read as these words.
* `Numeral.value_map_toDigits`: the digits of a number have its value, by induction on the number
  without its last digit.
* `Numeral.word?_of_radix`: a text of digits is read to its end, in the radix that it tells.
* `Numeral.word?_decimal`, `Numeral.word?_hexadecimal`: **a number of 64 bits is read as it was
  written**, whatever zeros stand in front of it in hexadecimal.
-/

import Mathlib.Algebra.Group.Nat.Defs
import Mathlib.Data.List.TakeWhile
import Canopen.Text.Numeral

namespace Canopen

/-! ### Cuts -/

namespace Text

theorem takeWhile_ne_eq_self {text : Text} {octet : UInt8} (without : octet ∉ text) :
    text.takeWhile (· != octet) = text :=
  List.takeWhile_eq_self_iff.mpr fun _ member => bne_iff_ne.mpr fun same => without (same ▸ member)

theorem cut_eq_self {text : Text} (whole : nul ∉ text) : text.cut = text :=
  takeWhile_ne_eq_self whole

theorem nul_notMem_cut (text : Text) : nul ∉ text.cut := by
  intro member
  exact absurd (List.mem_takeWhile_imp member) (by decide)

/-! ### Words -/

/-- The text is one word: it is not empty, and no octet of it is a blank. -/
structure IsWord (text : Text) : Prop where
  nonempty : text ≠ []
  solid : text.any isBlank = false

theorem words_append_blank (first rest : Text) {blank : UInt8} (blanks : isBlank blank = true) :
    words (first ++ blank :: rest) = words first ++ words rest := by
  rw [words, List.splitOnP_append_cons _ _ blanks, List.filter_append]
  rfl

theorem IsWord.words_eq {text : Text} (word : text.IsWord) : words text = [text] := by
  have nonempty : text.isEmpty = false := List.isEmpty_eq_false_iff.mpr word.nonempty
  have solid : ∀ octet ∈ text, isBlank octet = false := fun octet member =>
    Bool.eq_false_iff.mpr (List.any_eq_false.mp word.solid octet member)
  rw [words, List.splitOnP_eq_singleton solid]
  exact List.filter_cons_of_pos (by rw [nonempty]; rfl)

/-- **Words with one space between any two of them** are read as these words. -/
theorem words_intercalate {parts : List Text} (solid : ∀ part ∈ parts, part.IsWord) :
    words ((ofString " ").intercalate parts) = parts := by
  induction parts with
  | nil => rfl
  | cons part rest ih =>
    rw [List.forall_mem_cons] at solid
    cases rest with
    | nil =>
      rw [List.intercalate_singleton]
      exact solid.1.words_eq
    | cons next others =>
      have space : ofString " " = [32] := rfl
      rw [space] at ih ⊢
      rw [List.intercalate_cons_cons, List.append_assoc, List.singleton_append,
        words_append_blank _ _ (by decide), solid.1.words_eq, ih solid.2, List.singleton_append]

theorem IsWord.append {first rest : Text} (word : first.IsWord)
    (solid : rest.any isBlank = false) : (first ++ rest).IsWord := by
  refine ⟨List.append_ne_nil_of_left_ne_nil word.nonempty rest, ?_⟩
  rw [List.any_append, word.solid, solid]
  rfl

end Text

namespace Numeral

/-! ### Digits -/

/-- A digit stands in one of three ranges of octets, and only the first holds decimal ones. -/
theorem digit?_cases {octet : UInt8} {digit : Nat} (reads : Text.digit? octet = some digit) :
    (48 ≤ octet.toNat ∧ octet.toNat ≤ 57 ∧ digit = octet.toNat - 48) ∨
      (65 ≤ octet.toNat ∧ octet.toNat ≤ 102 ∧ 10 ≤ digit) := by
  unfold Text.digit? at reads
  simp only [UInt8.le_iff_toNat_le, UInt8.reduceToNat] at reads
  split at reads
  · next small =>
    obtain rfl := Option.some.inj reads
    exact Or.inl ⟨small.1, small.2, rfl⟩
  · split at reads
    · obtain rfl := Option.some.inj reads
      right
      omega
    · split at reads
      · obtain rfl := Option.some.inj reads
        right
        omega
      · exact absurd reads nofun

/-- A digit is no blank, no sign, and no NUL. -/
theorem plain_of_isDigit {radix : Nat} {octet : UInt8} (digit : isDigit radix octet = true) :
    Text.isBlank octet = false ∧ octet ≠ 45 ∧ octet ≠ 43 ∧ octet ≠ 0 := by
  unfold isDigit at digit
  split at digit
  · next value reads =>
    have large : 48 ≤ octet.toNat := by
      rcases digit?_cases reads with ⟨least, -, -⟩ | ⟨least, -, -⟩
      · exact least
      · omega
    have apart {other : UInt8} (small : other.toNat < 48) : octet ≠ other := by
      rintro rfl
      exact absurd large (Nat.not_le.mpr small)
    refine ⟨?_, apart (by decide), apart (by decide), apart (by decide)⟩
    have first : (octet == 32) = false := beq_eq_false_iff_ne.mpr (apart (by decide))
    have second : ¬ octet ≤ 13 := by
      rw [UInt8.le_iff_toNat_le]
      exact Nat.not_le.mpr (Nat.lt_of_lt_of_le (by decide) large)
    rw [Text.isBlank, first, decide_eq_false second, Bool.and_false, Bool.or_false]
  · exact absurd digit Bool.false_ne_true

section Written

variable {letter : Char → UInt8} {radix : Nat}

theorem value_append_singleton (digits : Text) (octet : UInt8) :
    value radix (digits ++ [octet]) =
      radix * value radix digits + (Text.digit? octet).getD 0 :=
  List.foldl_append

/-- **The digits of a number have its value**, in any way to write them that is read back. -/
theorem value_map_toDigits (many : 1 < radix)
    (reads : ∀ digit < radix, Text.digit? (letter digit.digitChar) = some digit) (number : Nat) :
    value radix ((Nat.toDigits radix number).map letter) = number := by
  induction number using Nat.strongRecOn with
  | ind number ih =>
    rw [Nat.toDigits_eq_if many]
    split
    · next small =>
      show radix * 0 + (Text.digit? (letter number.digitChar)).getD 0 = number
      rw [reads number small, Nat.mul_zero, Nat.zero_add]
      rfl
    · next large =>
      have less : number / radix < number := Nat.div_lt_self (by omega) many
      rw [List.map_append, List.map_singleton, value_append_singleton, ih _ less,
        reads _ (Nat.mod_lt _ (by omega))]
      exact Nat.div_add_mod number radix

theorem isDigit_of_mem_map_toDigits (many : 1 < radix)
    (reads : ∀ digit < radix, Text.digit? (letter digit.digitChar) = some digit) (number : Nat) :
    ∀ octet ∈ (Nat.toDigits radix number).map letter, isDigit radix octet = true := by
  have one (digit : Nat) (small : digit < radix) :
      isDigit radix (letter digit.digitChar) = true := by
    rw [isDigit, reads digit small]
    exact decide_eq_true small
  induction number using Nat.strongRecOn with
  | ind number ih =>
    rw [Nat.toDigits_eq_if many]
    split
    · next small => exact List.forall_mem_singleton.mpr (one number small)
    · next large =>
      rw [List.map_append, List.forall_mem_append]
      refine ⟨ih _ (Nat.div_lt_self (by omega) many), ?_⟩
      exact List.forall_mem_singleton.mpr (one _ (Nat.mod_lt _ (by omega)))

end Written

/-- The first digit of a number is not zero, unless the number is. -/
theorem exists_toDigits {radix number : Nat} (many : 1 < radix) (positive : 0 < number) :
    ∃ digit rest, 0 < digit ∧ digit < radix ∧
      Nat.toDigits radix number = digit.digitChar :: rest := by
  induction number using Nat.strongRecOn with
  | ind number ih =>
    rw [Nat.toDigits_eq_if many]
    split
    · next small => exact ⟨number, [], positive, small, rfl⟩
    · next large =>
      have more : 0 < number / radix := Nat.div_pos (Nat.le_of_not_lt large) (by omega)
      obtain ⟨digit, rest, least, most, digits⟩ :=
        ih _ (Nat.div_lt_self positive many) more
      exact ⟨digit, rest ++ _, least, most, congrArg (· ++ _) digits⟩

theorem digit?_decimal : ∀ digit < 10,
    Text.digit? (UInt8.ofNat digit.digitChar.toNat) = some digit := by
  decide

theorem digit?_hexadecimal : ∀ digit < 16,
    Text.digit? (UInt8.ofNat digit.digitChar.toUpper.toNat) = some digit := by
  decide

/-! ### Whole texts -/

/-- **A text of digits is read to its end**, in the radix that it tells. -/
theorem word?_of_radix {octet : UInt8} {rest body : Text} {base : Nat}
    (leads : isDigit 10 octet = true) (whole : ∀ other ∈ octet :: rest, other ≠ 0)
    (tells : radix (octet :: rest) = (base, body)) (nonempty : body ≠ [])
    (digits : ∀ other ∈ body, isDigit base other = true)
    (small : value base body < UInt64.size) :
    word? (octet :: rest) = some (value base body) := by
  obtain ⟨solid, minus, plus, -⟩ := plain_of_isDigit leads
  have cut : Text.cut (octet :: rest) = octet :: rest :=
    List.takeWhile_eq_self_iff.mpr fun other member => bne_iff_ne.mpr (whole other member)
  have kept : (octet :: rest).dropWhile Text.isBlank = octet :: rest := by
    rw [List.dropWhile_cons_of_neg]
    rw [solid]
    exact Bool.false_ne_true
  have unsigned : sign (octet :: rest) = (false, octet :: rest) := by
    rw [sign, if_neg minus, if_neg plus]
  have all : body.takeWhile (isDigit base) = body := List.takeWhile_eq_self_iff.mpr digits
  have consumed : body.dropWhile (isDigit base) = [] := List.dropWhile_eq_nil_iff.mpr digits
  have scanned : scan (octet :: rest) = some ⟨false, value base body, []⟩ := by
    simp only [scan, kept, unsigned, tells, all, consumed, if_neg nonempty]
  have fits : ¬ (([] : Text) ≠ [] ∨ range ≤ value base body) := by
    rintro (more | large)
    · exact more rfl
    · exact absurd small (Nat.not_lt.mpr large)
  simp only [word?, cut, scanned, if_neg fits, Bool.false_eq_true, if_false]

/-- A text that does not begin with zero is decimal. -/
theorem radix_of_ne {octet : UInt8} (other : octet ≠ 48) (rest : Text) :
    radix (octet :: rest) = (10, octet :: rest) := by
  cases rest with
  | nil => rfl
  | cons letter rest =>
    rw [radix, if_neg fun zero => other zero.1, if_neg other]

theorem isDigit_of_mem_decimal (number : Nat) :
    ∀ octet ∈ Text.decimal number, isDigit 10 octet = true :=
  isDigit_of_mem_map_toDigits (by decide) digit?_decimal number

theorem length_decimal_le {number width : Nat} (positive : 0 < width)
    (small : number < 10 ^ width) : (Text.decimal number).length ≤ width := by
  rw [Text.decimal, List.length_map]
  exact (Nat.length_toDigits_le_iff (by decide) positive).mpr small

/-- **A decimal numeral is read as it was written.** -/
theorem word?_decimal {number : Nat} (small : number < UInt64.size) :
    word? (Text.decimal number) = some number := by
  by_cases zero : number = 0
  · subst zero
    decide
  · have ten : 1 < 10 := by decide
    have digits := isDigit_of_mem_decimal number
    have read : value 10 (Text.decimal number) = number :=
      value_map_toDigits ten digit?_decimal number
    obtain ⟨digit, rest, least, most, written⟩ := exists_toDigits ten (Nat.pos_of_ne_zero zero)
    have opens : Text.decimal number = UInt8.ofNat digit.digitChar.toNat :: rest.map _ :=
      congrArg (List.map _) written
    have other : UInt8.ofNat digit.digitChar.toNat ≠ 48 := by
      intro same
      have reads := digit?_decimal digit most
      rw [same] at reads
      exact absurd (Option.some.inj reads) (Nat.ne_of_lt least)
    rw [opens] at digits read ⊢
    rw [← read] at small
    refine (word?_of_radix (digits _ List.mem_cons_self) ?_ (radix_of_ne other _)
      (List.cons_ne_nil _ _) digits small).trans (congrArg some read)
    exact fun octet member => (plain_of_isDigit (digits octet member)).2.2.2

theorem value_zero_cons (radix : Nat) (digits : Text) :
    value radix (48 :: digits) = value radix digits := by
  show List.foldl _ (radix * 0 + 0) digits = _
  rw [Nat.mul_zero]
  rfl

theorem value_hexadecimal (width number : Nat) :
    value 16 (Text.hexadecimal width number) = number := by
  have zeros (count : Nat) (digits : Text) :
      value 16 (List.replicate count 48 ++ digits) = value 16 digits := by
    induction count with
    | zero => rfl
    | succ count ih => rw [List.replicate_succ, List.cons_append, value_zero_cons, ih]
  exact (zeros _ _).trans (value_map_toDigits (by decide) digit?_hexadecimal number)

theorem isDigit_of_mem_hexadecimal (width number : Nat) :
    ∀ octet ∈ Text.hexadecimal width number, isDigit 16 octet = true := by
  refine List.forall_mem_append.mpr ⟨?_, ?_⟩
  · intro octet member
    rw [List.eq_of_mem_replicate member]
    rfl
  · exact isDigit_of_mem_map_toDigits (by decide) digit?_hexadecimal number

/-- A hexadecimal numeral fills its width, if the number fits. -/
theorem length_hexadecimal {width number : Nat} (positive : 0 < width)
    (small : number < 16 ^ width) : (Text.hexadecimal width number).length = width := by
  have fits : (Nat.toDigits 16 number).length ≤ width :=
    (Nat.length_toDigits_le_iff (by decide) positive).mpr small
  rw [Text.hexadecimal, List.length_append, List.length_replicate, List.length_map]
  omega

theorem hexadecimal_ne_nil (width number : Nat) : Text.hexadecimal width number ≠ [] := by
  refine List.append_ne_nil_of_right_ne_nil _ ?_
  exact List.map_eq_nil_iff.not.mpr Nat.toDigits_ne_nil

/-- **A hexadecimal numeral is read as it was written.** -/
theorem word?_hexadecimal {number : Nat} (small : number < UInt64.size) (width : Nat) :
    word? (Text.ofString "0x" ++ Text.hexadecimal width number) = some number := by
  have digits := isDigit_of_mem_hexadecimal width number
  have read := value_hexadecimal width number
  obtain ⟨first, rest, written⟩ :=
    List.exists_cons_of_ne_nil (hexadecimal_ne_nil width number)
  have leads : (Text.hexadecimal width number).head?.any (isDigit 16) = true := by
    rw [written, List.head?_cons, Option.any_some]
    exact digits first (written ▸ List.mem_cons_self)
  have tells : radix (48 :: 120 :: Text.hexadecimal width number) =
      (16, Text.hexadecimal width number) := if_pos ⟨rfl, Or.inl rfl, leads⟩
  rw [← read] at small
  refine (word?_of_radix (by decide) ?_ tells (hexadecimal_ne_nil width number) digits
    small).trans (congrArg some read)
  rw [List.forall_mem_cons, List.forall_mem_cons]
  exact ⟨by decide, by decide, fun octet member => (plain_of_isDigit (digits octet member)).2.2.2⟩

/-- A hexadecimal numeral of an order is read as it was written. -/
theorem parse?_hexadecimal {number greatest : Nat} (small : number < UInt64.size) (width : Nat)
    (most : number ≤ greatest) :
    parse? (Text.ofString "0x" ++ Text.hexadecimal width number) greatest = some number := by
  have unsigned : parse? (Text.ofString "0x" ++ Text.hexadecimal width number) greatest =
      (word? (Text.ofString "0x" ++ Text.hexadecimal width number)).filter (· ≤ greatest) := rfl
  rw [unsigned, word?_hexadecimal small]
  exact if_pos (decide_eq_true most)

end Numeral

end Canopen
