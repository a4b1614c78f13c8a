/-
**Words, and what stands around them.**

* `Text.isWord_of_mem_words`: a word of a text has no blank.
* `Text.words_dropWhile`, `Text.words_dropReturn`: blanks in front of a text and a carriage return
  at its end are no part of its words.
* `Text.words_join`: parts with one space between any two of them have the words of the parts.
* `Numeral.isWord_of_parse?`: a number that is read is one word, blanks in front of it apart.
* `Numeral.parse?_dropWhile`: **without these blanks it is read as the same number**, unless they
  have a sign behind them.
-/

import Mathlib.Data.List.DropRight
import Canopen.Exchange
import Canopen.Proofs.Literals

namespace Canopen

/-! ### Words -/

namespace Text

theorem solid_of_mem_splitOnP (text : Text) :
    ∀ part ∈ text.splitOnP isBlank, part.any isBlank = false := by
  induction text with
  | nil =>
    rw [List.splitOnP_nil]
    exact List.forall_mem_singleton.mpr rfl
  | cons octet rest ih =>
    rw [List.splitOnP_cons_eq_if_modifyHead]
    split
    · exact List.forall_mem_cons.mpr ⟨rfl, ih⟩
    · next solid =>
      obtain ⟨first, others, parts⟩ :=
        List.exists_cons_of_ne_nil (List.splitOnP_ne_nil isBlank rest)
      rw [parts, List.forall_mem_cons] at ih
      rw [parts, List.modifyHead_cons, List.forall_mem_cons, List.any_cons,
        Bool.eq_false_iff.mpr solid, ih.1]
      exact ⟨rfl, ih.2⟩

/-- A word of a text has no blank. -/
theorem isWord_of_mem_words {text word : Text} (member : word ∈ text.words) : word.IsWord := by
  obtain ⟨part, kept⟩ := List.mem_filter.mp member
  refine ⟨?_, solid_of_mem_splitOnP text word part⟩
  rintro rfl
  exact absurd kept Bool.false_ne_true

theorem words_cons_blank {blank : UInt8} (blanks : isBlank blank = true) (rest : Text) :
    words (blank :: rest) = words rest :=
  words_append_blank [] rest blanks

/-- Blanks in front of a text are no part of its words. -/
theorem words_dropWhile (text : Text) : words (text.dropWhile isBlank) = words text := by
  induction text with
  | nil => rfl
  | cons octet rest ih =>
    cases blanks : isBlank octet with
    | true => rw [List.dropWhile_cons_of_pos blanks, ih, words_cons_blank blanks]
    | false => rw [List.dropWhile_cons_of_neg (Bool.eq_false_iff.mp blanks)]

/-- A carriage return at the end of a text is no part of its words. -/
theorem words_dropReturn (text : Text) : words (Exchange.dropReturn text) = words text := by
  unfold Exchange.dropReturn
  split
  · next returns =>
    obtain ⟨start, rfl⟩ := List.getLast?_eq_some_iff.mp returns
    rw [List.dropLast_concat, words_append_blank _ _ (by decide)]
    exact (List.append_nil _).symm
  · rfl

/-- Parts with one space between any two of them have the words of the parts. -/
theorem words_join (parts : List Text) :
    words ((ofString " ").intercalate parts) = parts.flatMap words := by
  induction parts with
  | nil => rfl
  | cons part rest ih =>
    cases rest with
    | nil => rw [List.intercalate_singleton, List.flatMap_singleton]
    | cons next others =>
      have space : ofString " " = [32] := rfl
      rw [space] at ih ⊢
      rw [List.intercalate_cons_cons, List.append_assoc, List.singleton_append,
        words_append_blank _ _ (by decide), ih]
      rfl

end Text

/-! ### Numbers behind blanks -/

namespace Numeral

/-- The number has a sign, in front of which blanks may stand. -/
def isSigned (text : Text) : Bool :=
  (text.dropWhile Text.isBlank).head?.any fun octet => octet == 45 || octet == 43

/-- A text with a numeral up to its end is one word, blanks in front of it apart. -/
theorem isWord_of_scan {text : Text} {found : Scan} (scanned : scan text = some found)
    (whole : found.rest = []) : Text.IsWord (text.dropWhile Text.isBlank) := by
  obtain ⟨negative, magnitude, rest⟩ := found
  obtain rfl : rest = [] := whole
  obtain ⟨-, literal⟩ := scan_eq_some_iff.mp scanned
  obtain ⟨front, unsigned, signs⟩ := exists_signs (text.dropWhile Text.isBlank) magnitude
  obtain ⟨octet, digits, begins, -⟩ := literal.exists_digit
  rw [unsigned]
  refine ⟨List.append_ne_nil_of_right_ne_nil _ (begins ▸ List.cons_ne_nil _ _), ?_⟩
  rw [List.any_append, signs.solid, literal.solid]
  rfl

variable {text : Text} {greatest number : Nat}

/-- A number of an order does not start with a sign. -/
theorem parse?_eq (text : Text) (greatest : Nat) :
    parse? text greatest =
      if text = [] ∨ text.head? = some 45 ∨ text.head? = some 43 then none
      else (word? text).filter (· ≤ greatest) := by
  cases text with
  | nil => rfl
  | cons first rest =>
    simp only [parse?, List.cons_ne_nil, List.head?_cons, Option.some.injEq, false_or]

/-- A number that is read has a numeral up to its end. -/
theorem scan_of_parse? (whole : Text.nul ∉ text) (reads : parse? text greatest = some number) :
    (∃ found, scan text = some found ∧ found.rest = []) ∧
      (word? text).filter (· ≤ greatest) = some number := by
  rw [parse?_eq] at reads
  split at reads
  · exact absurd reads nofun
  · next plain =>
    refine ⟨?_, reads⟩
    obtain ⟨read, -⟩ := Option.filter_eq_some_iff.mp reads
    unfold word? at read
    rw [Text.cut_eq_self whole] at read
    split at read
    · rw [if_neg fun empty => plain (Or.inl empty)] at read
      exact absurd read nofun
    · next found scanned =>
      split at read
      · exact absurd read nofun
      · next ends =>
        exact ⟨found, scanned, Decidable.byContradiction fun more => ends (Or.inl more)⟩

/-- A number that is read is one word, blanks in front of it apart. -/
theorem isWord_of_parse? (whole : Text.nul ∉ text) (reads : parse? text greatest = some number) :
    Text.IsWord (text.dropWhile Text.isBlank) := by
  obtain ⟨⟨found, scanned, ends⟩, -⟩ := scan_of_parse? whole reads
  exact isWord_of_scan scanned ends

theorem words_of_parse? (whole : Text.nul ∉ text) (reads : parse? text greatest = some number) :
    text.words = [text.dropWhile Text.isBlank] := by
  rw [← Text.words_dropWhile, (isWord_of_parse? whole reads).words_eq]

/-- Blanks in front of a text make no difference to the number that it writes. -/
theorem word?_dropWhile (whole : Text.nul ∉ text) (worded : text.dropWhile Text.isBlank ≠ []) :
    word? (text.dropWhile Text.isBlank) = word? text := by
  have kept : Text.nul ∉ text.dropWhile Text.isBlank := fun member =>
    whole ((List.dropWhile_suffix _).subset member)
  have scanned : scan (text.dropWhile Text.isBlank) = scan text := by
    unfold scan
    rw [List.dropWhile_idempotent]
  have nonempty : text ≠ [] := by
    rintro rfl
    exact worded rfl
  unfold word?
  rw [Text.cut_eq_self kept, Text.cut_eq_self whole, scanned, if_neg worded, if_neg nonempty]

/-- **Without the blanks in front of it a number is the same**, unless they have a sign behind
them. -/
theorem parse?_dropWhile (whole : Text.nul ∉ text) (reads : parse? text greatest = some number) :
    parse? (text.dropWhile Text.isBlank) greatest =
      if isSigned text then none else some number := by
  obtain ⟨-, read⟩ := scan_of_parse? whole reads
  have word := isWord_of_parse? whole reads
  rw [parse?_eq, word?_dropWhile whole word.nonempty, read]
  refine if_congr ?_ rfl rfl
  rw [isSigned, or_iff_right word.nonempty]
  cases (text.dropWhile Text.isBlank).head? with
  | none => exact iff_of_false (by simp) (by simp)
  | some octet => simp

end Numeral

end Canopen
