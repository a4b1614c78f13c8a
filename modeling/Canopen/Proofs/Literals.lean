/-
**Literals.**

* `Numeral.Spells`: the octets of a text are the letters of digits, one by one.
* `Numeral.Literal`: hexadecimal digits behind `0x`, octal ones behind `0`, and otherwise decimal
  ones, with the number that they have by their places.
* `Numeral.literal_iff`: **a text is a literal exactly if it is made of digits in the radix that it
  tells.**
* `Numeral.Writes`: a literal of at most 64 bits, with blanks and a sign in front of it.
* `Numeral.word?_eq_some_iff`: **a text is read as a number exactly if it writes it.**
* `Numeral.parse?_literal`: **a number of an order is a literal in range**, blanks and NULs apart.
-/

import Mathlib.Data.List.Forall2
import Mathlib.Data.Nat.Digits.Defs
import Canopen.Proofs.Numerals

namespace Canopen.Numeral

/-! ### Digits -/

/-- The octet is the letter of the digit, small or capital. -/
def IsLetter (octet : UInt8) (digit : Nat) : Prop :=
  octet = UInt8.ofNat digit.digitChar.toNat ∨ octet = UInt8.ofNat digit.digitChar.toUpper.toNat

/-- The octets are the letters of digits of a radix, one by one. -/
def Spells (radix : Nat) (text : Text) (digits : List Nat) : Prop :=
  List.Forall₂ (fun octet digit => digit < radix ∧ IsLetter octet digit) text digits

instance (octet : UInt8) (digit : Nat) : Decidable (IsLetter octet digit) :=
  inferInstanceAs (Decidable (_ ∨ _))

instance (radix : Nat) (text : Text) (digits : List Nat) : Decidable (Spells radix text digits) :=
  inferInstanceAs (Decidable (List.Forall₂ _ text digits))

/-- The number with these digits, the highest first. -/
def positional (radix : Nat) (digits : List Nat) : Nat := Nat.ofDigits radix digits.reverse

theorem digit?_small : ∀ digit < 16,
    Text.digit? (UInt8.ofNat digit.digitChar.toNat) = some digit := by
  decide

theorem digit?_ofNat : ∀ octet < 256, ∀ digit ∈ Text.digit? (UInt8.ofNat octet),
    digit < 16 ∧ IsLetter (UInt8.ofNat octet) digit := by
  decide +kernel

theorem digit?_eq_some_iff {octet : UInt8} {digit : Nat} :
    Text.digit? octet = some digit ↔ digit < 16 ∧ IsLetter octet digit := by
  constructor
  · intro reads
    have read := digit?_ofNat octet.toNat octet.toNat_lt digit
    rw [UInt8.ofNat_toNat] at read
    exact read reads
  · rintro ⟨few, rfl | rfl⟩
    · exact digit?_small digit few
    · exact digit?_hexadecimal digit few

section Spelling

variable {radix : Nat} {text : Text} {digits : List Nat}

theorem isDigit_iff {octet : UInt8} :
    isDigit radix octet = true ↔ ∃ digit < radix, Text.digit? octet = some digit := by
  unfold isDigit
  cases Text.digit? octet with
  | none => simp
  | some digit => simp

theorem exists_spells (all : ∀ octet ∈ text, isDigit radix octet = true) :
    ∃ digits, Spells radix text digits := by
  induction text with
  | nil => exact ⟨[], .nil⟩
  | cons octet rest ih =>
    rw [List.forall_mem_cons] at all
    obtain ⟨digit, few, reads⟩ := isDigit_iff.mp all.1
    obtain ⟨digits, spells⟩ := ih all.2
    exact ⟨digit :: digits, .cons ⟨few, (digit?_eq_some_iff.mp reads).2⟩ spells⟩

theorem Spells.isDigit (spells : Spells radix text digits) (few : radix ≤ 16) :
    ∀ octet ∈ text, Numeral.isDigit radix octet = true := by
  induction spells with
  | nil => exact nofun
  | cons first _ ih =>
    refine List.forall_mem_cons.mpr ⟨isDigit_iff.mpr ⟨_, first.1, ?_⟩, ih⟩
    exact digit?_eq_some_iff.mpr ⟨first.1.trans_le few, first.2⟩

theorem Spells.foldl_eq (spells : Spells radix text digits) (few : radix ≤ 16) (start : Nat) :
    text.foldl (fun total octet => radix * total + (Text.digit? octet).getD 0) start =
      positional radix digits + radix ^ digits.length * start := by
  induction spells generalizing start with
  | nil => simp [positional]
  | @cons octet digit text digits first rest ih =>
    have reads := digit?_eq_some_iff.mpr ⟨first.1.trans_le few, first.2⟩
    rw [List.foldl_cons, reads, ih, positional, positional, Nat.ofDigits_reverse_cons,
      List.length_cons, Option.getD_some]
    ring

/-- **The octets of digits have their number.** -/
theorem Spells.value_eq (spells : Spells radix text digits) (few : radix ≤ 16) :
    value radix text = positional radix digits :=
  (spells.foldl_eq few 0).trans (by rw [Nat.mul_zero, Nat.add_zero])

theorem Spells.zero (spells : Spells radix text digits) (positive : 0 < radix) :
    Spells radix (Text.ofString "0" ++ text) (0 :: digits) :=
  .cons ⟨positive, Or.inl rfl⟩ spells

/-- A text spells the same digits in a greater radix, and in a smaller one that has them all. -/
theorem Spells.restrict {other : Nat} (spells : Spells radix text digits)
    (few : ∀ digit ∈ digits, digit < other) : Spells other text digits := by
  induction spells with
  | nil => exact .nil
  | cons first _ ih =>
    rw [List.forall_mem_cons] at few
    exact .cons ⟨few.1, first.2⟩ (ih few.2)

theorem Spells.lt (spells : Spells radix text digits) : ∀ digit ∈ digits, digit < radix := by
  induction spells with
  | nil => exact nofun
  | cons first _ ih => exact List.forall_mem_cons.mpr ⟨first.1, ih⟩

theorem Spells.filterMap_eq (spells : Spells radix text digits) (few : radix ≤ 16) :
    text.filterMap Text.digit? = digits := by
  induction spells with
  | nil => rfl
  | cons first _ ih =>
    rw [List.filterMap_cons_some (digit?_eq_some_iff.mpr ⟨first.1.trans_le few, first.2⟩), ih]

theorem Spells.solid (spells : Spells radix text digits) (few : radix ≤ 16) :
    text.any Text.isBlank = false :=
  List.any_eq_false.mpr fun octet member =>
    Bool.eq_false_iff.mp (plain_of_isDigit (spells.isDigit few octet member)).1

end Spelling

/-! ### Literals -/

/-- A literal, and its value: hexadecimal behind `0x`, octal behind `0`, and otherwise decimal. -/
inductive Literal : Text → Nat → Prop
  | hexadecimal {mark : String} {text : Text} {digits : List Nat}
      (marks : mark = "0x" ∨ mark = "0X") (nonempty : text ≠ []) (spells : Spells 16 text digits) :
      Literal (Text.ofString mark ++ text) (positional 16 digits)
  | octal {text : Text} {digits : List Nat} (spells : Spells 8 text digits) :
      Literal (Text.ofString "0" ++ text) (positional 8 digits)
  | decimal {text : Text} {digit : Nat} {digits : List Nat} (leads : 0 < digit)
      (spells : Spells 10 text (digit :: digits)) : Literal text (positional 10 (digit :: digits))

theorem positional_zero_cons (radix : Nat) (digits : List Nat) :
    positional radix (0 :: digits) = positional radix digits :=
  Nat.ofDigits_reverse_zero_cons digits

theorem isDigit_mark : ∀ mark, mark = 120 ∨ mark = 88 → isDigit 8 mark = false := by
  rintro mark (rfl | rfl) <;> rfl

theorem radix_mark {mark : String} (marks : mark = "0x" ∨ mark = "0X") {text : Text}
    (leads : text.head?.any (isDigit 16) = true) :
    radix (Text.ofString mark ++ text) = (16, text) := by
  rcases marks with rfl | rfl
  · exact if_pos ⟨rfl, Or.inl rfl, leads⟩
  · exact if_pos ⟨rfl, Or.inr rfl, leads⟩

theorem radix_zero {octet : UInt8} (digit : isDigit 8 octet = true) (rest : Text) :
    radix (48 :: octet :: rest) = (8, 48 :: octet :: rest) := by
  have plain : ¬ (octet = 120 ∨ octet = 88) := fun marks =>
    Bool.eq_false_iff.mp (isDigit_mark octet marks) digit
  rw [radix, if_neg fun all => plain all.2.1, if_pos rfl]

/-- A text is made of digits in the radix that it tells, and these have a value. -/
structure IsWhole (text : Text) (number : Nat) : Prop where
  nonempty : (radix text).2 ≠ []
  digits : ∀ octet ∈ (radix text).2, isDigit (radix text).1 octet = true
  reads : value (radix text).1 (radix text).2 = number

theorem isWhole_of_radix {text body : Text} {base : Nat} {digits : List Nat}
    (tells : radix text = (base, body)) (nonempty : body ≠ []) (few : base ≤ 16)
    (spells : Spells base body digits) : IsWhole text (positional base digits) := by
  refine ⟨?_, ?_, ?_⟩
  · rw [tells]
    exact nonempty
  · rw [tells]
    exact spells.isDigit few
  · rw [tells]
    exact spells.value_eq few

theorem Literal.isWhole {text : Text} {number : Nat} (literal : Literal text number) :
    IsWhole text number := by
  cases literal with
  | @hexadecimal mark text digits marks nonempty spells =>
    obtain ⟨octet, rest, rfl⟩ := List.exists_cons_of_ne_nil nonempty
    have leads := spells.isDigit (le_refl 16) octet List.mem_cons_self
    exact isWhole_of_radix (radix_mark marks leads) nonempty (le_refl 16) spells
  | @octal text digits spells =>
    cases spells with
    | nil => exact ⟨nofun, List.forall_mem_singleton.mpr rfl, rfl⟩
    | @cons octet digit rest digits first later =>
      have spells : Spells 8 (octet :: rest) (digit :: digits) := .cons first later
      have few : 8 ≤ 16 := by decide
      have leads := spells.isDigit few octet List.mem_cons_self
      have whole := isWhole_of_radix (radix_zero leads rest) (List.cons_ne_nil _ _) few
        (spells.zero (by decide))
      exact positional_zero_cons 8 (digit :: digits) ▸ whole
  | @decimal text digit digits leads spells =>
    cases spells with
    | @cons octet digit rest digits first later =>
      have spells : Spells 10 (octet :: rest) (digit :: digits) := .cons first later
      have other : octet ≠ 48 := by
        rintro rfl
        have reads := digit?_eq_some_iff.mpr ⟨first.1.trans (by decide), first.2⟩
        exact absurd (Option.some.inj reads) (Nat.ne_of_lt leads)
      exact isWhole_of_radix (radix_of_ne other rest) (List.cons_ne_nil _ _) (by decide) spells

/-- A decimal text is a literal in any case: a zero alone is an octal one. -/
theorem literal_of_ne {octet : UInt8} {rest : Text} (other : octet ≠ 48)
    (all : ∀ other ∈ octet :: rest, isDigit 10 other = true) :
    Literal (octet :: rest) (value 10 (octet :: rest)) := by
  obtain ⟨digits, spells⟩ := exists_spells all
  have few : 10 ≤ 16 := by decide
  rw [spells.value_eq few]
  cases spells with
  | @cons octet digit rest digits first later =>
    refine .decimal (Nat.pos_of_ne_zero ?_) (.cons first later)
    rintro rfl
    rcases first.2 with zero | zero <;> exact other zero

theorem IsWhole.literal {text : Text} {number : Nat} (whole : IsWhole text number) :
    Literal text number := by
  obtain ⟨nonempty, all, rfl⟩ := whole
  cases text with
  | nil => exact absurd rfl nonempty
  | cons octet rest =>
    by_cases zero : octet = 48
    · subst zero
      cases rest with
      | nil => exact .octal .nil
      | cons letter rest =>
        by_cases marks : (letter = 120 ∨ letter = 88) ∧ rest.head?.any (isDigit 16) = true
        · have tells : radix (48 :: letter :: rest) = (16, rest) := if_pos ⟨rfl, marks⟩
          rw [tells] at nonempty all ⊢
          obtain ⟨digits, spells⟩ := exists_spells all
          rw [spells.value_eq (le_refl 16)]
          rcases marks.1 with rfl | rfl
          · exact .hexadecimal (Or.inl rfl) nonempty spells
          · exact .hexadecimal (Or.inr rfl) nonempty spells
        · have tells : radix (48 :: letter :: rest) = (8, 48 :: letter :: rest) := by
            rw [radix, if_neg fun all => marks all.2, if_pos rfl]
          rw [tells] at all ⊢
          obtain ⟨digits, spells⟩ := exists_spells (List.forall_mem_cons.mp all).2
          show Literal _ (value 8 (48 :: letter :: rest))
          have few : 8 ≤ 16 := by decide
          rw [value_zero_cons, spells.value_eq few]
          exact .octal spells
    · rw [radix_of_ne zero] at all ⊢
      exact literal_of_ne zero all

/-- **A text is a literal** exactly if it is made of digits in the radix that it tells. -/
theorem literal_iff {text : Text} {number : Nat} : Literal text number ↔ IsWhole text number :=
  ⟨Literal.isWhole, IsWhole.literal⟩

/-- A literal begins with a decimal digit. -/
theorem Literal.exists_digit {text : Text} {number : Nat} (literal : Literal text number) :
    ∃ octet rest, text = octet :: rest ∧ isDigit 10 octet = true := by
  cases literal with
  | @hexadecimal mark text digits marks nonempty spells =>
    rcases marks with rfl | rfl <;> exact ⟨48, _, rfl, rfl⟩
  | octal spells => exact ⟨48, _, rfl, rfl⟩
  | @decimal text digit digits leads spells =>
    cases spells with
    | @cons octet digit rest digits first later =>
      exact ⟨octet, rest, rfl, isDigit_iff.mpr ⟨digit, first.1,
        digit?_eq_some_iff.mpr ⟨first.1.trans (by decide), first.2⟩⟩⟩

/-- A literal has no blank. -/
theorem Literal.solid {text : Text} {number : Nat} (literal : Literal text number) :
    text.any Text.isBlank = false := by
  cases literal with
  | hexadecimal marks nonempty spells =>
    rw [List.any_append, spells.solid (le_refl 16)]
    rcases marks with rfl | rfl <;> rfl
  | octal spells => exact spells.solid (by decide)
  | decimal leads spells => exact spells.solid (by decide)

/-! ### Numbers of 64 bits -/

/-- A sign in front of a literal, its value, and the number that both come to: a minus counts down
from two to the sixty-fourth. -/
inductive Signs : Text → Nat → Nat → Prop
  | none (magnitude : Nat) : Signs [] magnitude magnitude
  | plus (magnitude : Nat) : Signs (Text.ofString "+") magnitude magnitude
  | minus (magnitude : Nat) :
      Signs (Text.ofString "-") magnitude ((UInt64.size - magnitude) % UInt64.size)

/-- A text writes a number: it is a literal of at most 64 bits, with blanks and a sign in front. -/
inductive Writes : Text → Nat → Prop
  | mk {blanks sign literal : Text} {magnitude number : Nat}
      (blank : ∀ octet ∈ blanks, Text.isBlank octet = true) (signs : Signs sign magnitude number)
      (reads : Literal literal magnitude) (fits : magnitude < UInt64.size) :
      Writes (blanks ++ sign ++ literal) number

/-- What a sign makes of the value behind it. -/
def signed (negative : Bool) (magnitude : Nat) : Nat :=
  if negative then (UInt64.size - magnitude) % UInt64.size else magnitude

theorem Signs.solid {sign : Text} {magnitude number : Nat} (signs : Signs sign magnitude number) :
    sign.any Text.isBlank = false := by
  cases signs <;> rfl

theorem dropWhile_isBlank_append {blanks rest : Text} {octet : UInt8}
    (blank : ∀ octet ∈ blanks, Text.isBlank octet = true) (solid : Text.isBlank octet = false) :
    (blanks ++ octet :: rest).dropWhile Text.isBlank = octet :: rest := by
  rw [List.dropWhile_append_of_pos blank, List.dropWhile_cons_of_neg (Bool.eq_false_iff.mp solid)]

/-- A sign and a literal behind blanks are told apart. -/
theorem Signs.sign_eq {sign literal : Text} {magnitude number value : Nat}
    (signs : Signs sign magnitude number) (reads : Literal literal value) :
    ∃ octet rest negative, sign ++ literal = octet :: rest ∧ Text.isBlank octet = false ∧
      Numeral.sign (octet :: rest) = (negative, literal) ∧ number = signed negative magnitude := by
  cases signs with
  | none =>
    obtain ⟨octet, rest, rfl, digit⟩ := reads.exists_digit
    obtain ⟨solid, minus, plus, -⟩ := plain_of_isDigit digit
    refine ⟨octet, rest, false, rfl, solid, ?_, rfl⟩
    rw [Numeral.sign, if_neg minus, if_neg plus]
  | plus => exact ⟨43, literal, false, rfl, rfl, rfl, rfl⟩
  | minus => exact ⟨45, literal, true, rfl, rfl, rfl, rfl⟩

/-- What stands behind blanks is a sign, or none, and the rest. -/
theorem exists_signs (text : Text) (magnitude : Nat) :
    ∃ front, text = front ++ (sign text).2 ∧
      Signs front magnitude (signed (sign text).1 magnitude) := by
  cases text with
  | nil => exact ⟨[], rfl, .none magnitude⟩
  | cons octet rest =>
    rw [sign]
    by_cases minus : octet = 45
    · rw [if_pos minus, minus]
      exact ⟨[45], rfl, .minus magnitude⟩
    rw [if_neg minus]
    by_cases plus : octet = 43
    · rw [if_pos plus, plus]
      exact ⟨[43], rfl, .plus magnitude⟩
    rw [if_neg plus]
    exact ⟨[], rfl, .none magnitude⟩

theorem writes_iff {text : Text} {number : Nat} :
    Writes text number ↔ ∃ magnitude < UInt64.size,
      Literal (sign (text.dropWhile Text.isBlank)).2 magnitude ∧
        number = signed (sign (text.dropWhile Text.isBlank)).1 magnitude := by
  constructor
  · rintro ⟨blank, signs, reads, fits⟩
    obtain ⟨octet, rest, negative, same, solid, split, counts⟩ := signs.sign_eq reads
    rw [List.append_assoc, same, dropWhile_isBlank_append blank solid, split]
    exact ⟨_, fits, reads, counts⟩
  · rintro ⟨magnitude, fits, reads, counts⟩
    obtain ⟨front, same, signs⟩ := exists_signs (text.dropWhile Text.isBlank) magnitude
    rw [← counts] at signs
    have whole : text = text.takeWhile Text.isBlank ++ front ++
        (sign (text.dropWhile Text.isBlank)).2 := by
      rw [List.append_assoc, ← same, List.takeWhile_append_dropWhile]
    rw [whole]
    exact ⟨fun octet member => List.mem_takeWhile_imp member, signs, reads, fits⟩

/-- A numeral up to the end of a text is a literal behind blanks and a sign. -/
theorem scan_eq_some_iff {text : Text} {negative : Bool} {magnitude : Nat} :
    scan text = some ⟨negative, magnitude, []⟩ ↔
      (sign (text.dropWhile Text.isBlank)).1 = negative ∧
        Literal (sign (text.dropWhile Text.isBlank)).2 magnitude := by
  unfold scan
  generalize sign (text.dropWhile Text.isBlank) = signed
  obtain ⟨minus, unsigned⟩ := signed
  rw [literal_iff]
  constructor
  · intro scanned
    simp only [Option.ite_none_left_eq_some, Option.some.injEq, Scan.mk.injEq] at scanned
    obtain ⟨nonempty, rfl, rfl, consumed⟩ := scanned
    have all := List.dropWhile_eq_nil_iff.mp consumed
    rw [List.takeWhile_eq_self_iff.mpr all] at nonempty ⊢
    exact ⟨rfl, nonempty, all, rfl⟩
  · rintro ⟨rfl, nonempty, all, rfl⟩
    simp only [List.takeWhile_eq_self_iff.mpr all, List.dropWhile_eq_nil_iff.mpr all,
      if_neg nonempty]

/-- **A text is read as a number of 64 bits exactly if it writes it.** -/
theorem word?_eq_some_iff {text : Text} (whole : Text.nul ∉ text) (nonempty : text ≠ [])
    {number : Nat} : word? text = some number ↔ Writes text number := by
  rw [writes_iff]
  unfold word?
  rw [Text.cut_eq_self whole, if_neg nonempty]
  constructor
  · intro read
    split at read
    · exact absurd read nofun
    · next found scanned =>
      split at read
      · exact absurd read nofun
      · next ends =>
        obtain ⟨last, fits⟩ := not_or.mp ends
        obtain ⟨negative, magnitude, rest⟩ := found
        obtain rfl : rest = [] := not_not.mp last
        obtain ⟨rfl, reads⟩ := scan_eq_some_iff.mp scanned
        refine ⟨magnitude, Nat.lt_of_not_le fits, reads, ?_⟩
        rw [← apply_ite] at read
        exact (Option.some.inj read).symm
  · rintro ⟨magnitude, fits, reads, rfl⟩
    rw [scan_eq_some_iff.mpr ⟨rfl, reads⟩]
    have kept : ¬ (([] : Text) ≠ [] ∨ range ≤ magnitude) := by
      rintro (more | large)
      · exact more rfl
      · exact absurd fits (Nat.not_lt.mpr large)
    simp only [if_neg kept]
    exact (apply_ite Option.some _ _ _).symm

/-! ### Numbers of orders -/

theorem Literal.unique {text : Text} {first second : Nat} (one : Literal text first)
    (other : Literal text second) : first = second :=
  one.isWhole.reads.symm.trans other.isWhole.reads

/-- A text without a blank and without a sign in front writes what it is a literal of. -/
theorem writes_cons_iff {octet : UInt8} {rest : Text} {number : Nat}
    (solid : Text.isBlank octet = false) (minus : octet ≠ 45) (plus : octet ≠ 43) :
    Writes (octet :: rest) number ↔
      Literal (octet :: rest) number ∧ number < UInt64.size := by
  have unsigned : sign (octet :: rest) = (false, octet :: rest) := by
    rw [sign, if_neg minus, if_neg plus]
  rw [writes_iff, List.dropWhile_cons_of_neg (Bool.eq_false_iff.mp solid), unsigned]
  constructor
  · rintro ⟨magnitude, fits, reads, rfl⟩
    exact ⟨reads, fits⟩
  · rintro ⟨reads, fits⟩
    exact ⟨number, fits, reads, rfl⟩

theorem literal_nil {number : Nat} : ¬ Literal [] number := by
  intro literal
  obtain ⟨octet, rest, same, -⟩ := literal.exists_digit
  exact absurd same nofun

/-- A literal has no sign in front. -/
theorem Literal.unsigned {octet : UInt8} {rest : Text} {number : Nat}
    (literal : Literal (octet :: rest) number) : octet ≠ 45 ∧ octet ≠ 43 := by
  obtain ⟨first, others, same, digit⟩ := literal.exists_digit
  obtain ⟨rfl, rfl⟩ := List.cons.inj same
  obtain ⟨-, minus, plus, -⟩ := plain_of_isDigit digit
  exact ⟨minus, plus⟩

theorem parse?_eq_some_iff {text : Text} (solid : text.any Text.isBlank = false)
    (whole : Text.nul ∉ text) {greatest number : Nat} (fits : greatest < UInt64.size) :
    parse? text greatest = some number ↔ Literal text number ∧ number ≤ greatest := by
  cases text with
  | nil => exact iff_of_false nofun fun both => literal_nil both.1
  | cons octet rest =>
    rw [parse?]
    split
    · next signs =>
      exact iff_of_false nofun fun both => signs.elim both.1.unsigned.1 both.1.unsigned.2
    · next plain =>
      obtain ⟨minus, plus⟩ := not_or.mp plain
      have blank : Text.isBlank octet = false := (Bool.or_eq_false_iff.mp solid).1
      rw [Option.filter_eq_some_iff, word?_eq_some_iff whole (List.cons_ne_nil _ _),
        writes_cons_iff blank minus plus, decide_eq_true_iff]
      constructor
      · exact fun both => ⟨both.1.1, both.2⟩
      · exact fun both => ⟨⟨both.1, both.2.trans_lt fits⟩, both.2⟩

/-- **A number of an order is a literal in range**, if no octet of it is a blank or a NUL; any other
such text is refused. -/
theorem parse?_literal {text : Text} (solid : text.any Text.isBlank = false)
    (whole : Text.nul ∉ text) (greatest : UInt32) :
    (∀ number, parse? text greatest.toNat = some number ↔
      Literal text number ∧ number ≤ greatest.toNat) ∧
    (parse? text greatest.toNat = none ↔
      ∀ number, Literal text number → greatest.toNat < number) := by
  have fits : greatest.toNat < UInt64.size := greatest.toNat_lt.trans (by decide)
  have reads (number : Nat) : parse? text greatest.toNat = some number ↔
      Literal text number ∧ number ≤ greatest.toNat :=
    parse?_eq_some_iff solid whole fits
  refine ⟨reads, ?_⟩
  rw [Option.eq_none_iff_forall_ne_some]
  refine forall_congr' fun number => ?_
  rw [ne_eq, reads number, not_and, Nat.not_le]

/-- Letters of either case, and zeros in front, in the least range that holds the number. -/
theorem parse?_literal_capitals :
    parse? (Text.ofString "0X00fF") 255 = some 255 ∧
      parse? (Text.ofString "0X00fF") 254 = none := by
  have solid : (Text.ofString "0X00fF").any Text.isBlank = false := by decide
  have whole : Text.nul ∉ Text.ofString "0X00fF" := by decide
  have literal : Literal (Text.ofString "0X00fF") 255 := by
    have spells : Spells 16 (Text.ofString "00fF") [0, 0, 15, 15] := by decide
    exact .hexadecimal (Or.inr rfl) (by decide) spells
  refine ⟨((parse?_literal solid whole 255).1 255).mpr ⟨literal, le_refl 255⟩, ?_⟩
  refine (parse?_literal solid whole 254).2.mpr fun number other => ?_
  rw [other.unique literal]
  decide

end Canopen.Numeral
