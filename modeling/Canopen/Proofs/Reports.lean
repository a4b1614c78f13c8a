/-
**The line of a status tells the status.**

* `NodeStatus.read?`: what a reader of the line makes of it.
* `NodeStatus.length_text_le`: there is room for the whole line, whatever the status is.
* `NodeStatus.read?_reply`: **the status is read as it was written.**
-/

import Mathlib.Data.List.Basic
import Canopen.Console
import Canopen.Proofs.Numerals

namespace Canopen

/-! ### A reader -/

/-- The text behind a label. -/
def Text.behind? (label : String) (text : Text) : Option Text :=
  (Text.ofString label).isPrefixOf? text

/-- The mode with a name. -/
def Mode.ofName? (name : Text) : Option Mode :=
  [idle, segmentedUpload, segmentedDownload, blockUpload, blockDownload].find? fun mode =>
    Text.ofString mode.name == name

/-- The target in the form `0x1018:04`. -/
def Target.ofText? (text : Text) : Option Target :=
  Target.parse? (text.take 6) (Text.ofString "0x" ++ text.drop 7)

namespace NodeStatus

/-- The status that figures with their labels tell. -/
def ofFigures? : List Text → Option NodeStatus
  | [id, mode, target, code, received, ignored] => do
    let id ← (Text.behind? "node=" id).bind Numeral.word?
    let mode ← (Text.behind? "mode=" mode).bind Mode.ofName?
    let target ← (Text.behind? "target=" target).bind Target.ofText?
    let code ← (Text.behind? "last_abort=0x" code).bind fun digits =>
      Numeral.word? (Text.ofString "0x" ++ digits)
    let received ← (Text.behind? "rx=" received).bind Numeral.word?
    let ignored ← (Text.behind? "ignored=" ignored).bind Numeral.word?
    return ⟨UInt8.ofNat id, mode, target, UInt32.ofNat code, UInt64.ofNat received,
      UInt64.ofNat ignored⟩
  | _ => none

/-- The status that a reply tells, behind its `OK`. -/
def read? (reply : Text) : Option NodeStatus :=
  match reply.words with
  | [] => none
  | first :: figures => if first = Text.ofString "OK" then ofFigures? figures else none

end NodeStatus

/-! ### Figures -/

theorem Text.behind?_append (label : String) (figure : Text) :
    behind? label (ofString label ++ figure) = some figure :=
  List.isPrefixOf?_eq_some_iff_append_eq.mpr rfl

theorem Mode.ofName?_name (mode : Mode) : ofName? (Text.ofString mode.name) = some mode := by
  cases mode <;> decide

theorem Target.length_text (target : Target) : target.text.length = 9 := by
  have index : (Text.hexadecimal 4 target.index.toNat).length = 4 :=
    Numeral.length_hexadecimal (by decide) target.index.toNat_lt
  have subindex : (Text.hexadecimal 2 target.subindex.toNat).length = 2 :=
    Numeral.length_hexadecimal (by decide) target.subindex.toNat_lt
  simp only [text, List.length_append, index, subindex]
  rfl

theorem Target.ofText?_text (target : Target) : ofText? target.text = some target := by
  have length : (Text.ofString "0x" ++ Text.hexadecimal 4 target.index.toNat).length = 6 := by
    rw [List.length_append, Numeral.length_hexadecimal (by decide) target.index.toNat_lt]
    rfl
  have first : target.text.take 6 =
      Text.ofString "0x" ++ Text.hexadecimal 4 target.index.toNat := by
    rw [text, List.append_assoc]
    exact List.take_left' length
  have last : target.text.drop 7 = Text.hexadecimal 2 target.subindex.toNat := by
    rw [text]
    refine List.drop_left' ?_
    rw [List.length_append, length]
    rfl
  have index := target.index.toNat_lt
  have subindex := target.subindex.toNat_lt
  have indexed : Numeral.parse? (Text.ofString "0x" ++ Text.hexadecimal 4 target.index.toNat)
      0xFFFF = some target.index.toNat :=
    Numeral.parse?_hexadecimal (Nat.lt_trans index (by decide)) 4 (Nat.le_of_lt_succ index)
  have subindexed : Numeral.parse?
      (Text.ofString "0x" ++ Text.hexadecimal 2 target.subindex.toNat) 0xFF =
        some target.subindex.toNat :=
    Numeral.parse?_hexadecimal (Nat.lt_trans subindex (by decide)) 2 (Nat.le_of_lt_succ subindex)
  rw [ofText?, first, last, parse?, indexed, subindexed]
  show some (Target.mk (UInt16.ofNat target.index.toNat) (UInt8.ofNat target.subindex.toNat)) = _
  rw [UInt16.ofNat_toNat, UInt8.ofNat_toNat]

/-! ### No blanks -/

theorem Text.solid_decimal (number : Nat) : (decimal number).any isBlank = false :=
  List.any_eq_false.mpr fun octet member => Bool.eq_false_iff.mp
    (Numeral.plain_of_isDigit (Numeral.isDigit_of_mem_decimal number octet member)).1

theorem Text.solid_hexadecimal (width number : Nat) :
    (hexadecimal width number).any isBlank = false :=
  List.any_eq_false.mpr fun octet member => Bool.eq_false_iff.mp
    (Numeral.plain_of_isDigit (Numeral.isDigit_of_mem_hexadecimal width number octet member)).1

theorem Mode.solid_name (mode : Mode) : (Text.ofString mode.name).any Text.isBlank = false := by
  cases mode <;> decide

theorem Target.solid_text (target : Target) : target.text.any Text.isBlank = false := by
  rw [text, List.any_append, List.any_append, List.any_append, Text.solid_hexadecimal,
    Text.solid_hexadecimal]
  decide

namespace NodeStatus

variable (status : NodeStatus)

/-- Every figure is one word. -/
theorem isWord_of_mem_figures : ∀ figure ∈ status.figures, figure.IsWord := by
  have label {name : String} {figure : Text} (nonempty : Text.ofString name ≠ [])
      (solid : (Text.ofString name).any Text.isBlank = false)
      (rest : figure.any Text.isBlank = false) : (Text.ofString name ++ figure).IsWord :=
    Text.IsWord.append ⟨nonempty, solid⟩ rest
  simp only [figures, List.forall_mem_cons]
  refine ⟨label (by decide) (by decide) (Text.solid_decimal _),
    label (by decide) (by decide) status.mode.solid_name,
    label (by decide) (by decide) status.target.solid_text,
    label (by decide) (by decide) (Text.solid_hexadecimal _ _),
    label (by decide) (by decide) (Text.solid_decimal _),
    label (by decide) (by decide) (Text.solid_decimal _), List.forall_mem_nil _⟩

/-- The figures tell the status. -/
theorem ofFigures?_figures : ofFigures? status.figures = some status := by
  have id : Numeral.word? (Text.decimal status.id.toNat) = some status.id.toNat :=
    Numeral.word?_decimal (Nat.lt_trans status.id.toNat_lt (by decide))
  have code : Numeral.word? (Text.ofString "0x" ++ Text.hexadecimal 8 status.clientAbort.toNat) =
      some status.clientAbort.toNat :=
    Numeral.word?_hexadecimal (Nat.lt_trans status.clientAbort.toNat_lt (by decide)) 8
  have received : Numeral.word? (Text.decimal status.framesIn.toNat) =
      some status.framesIn.toNat := Numeral.word?_decimal status.framesIn.toNat_lt
  have ignored : Numeral.word? (Text.decimal status.framesIgnored.toNat) =
      some status.framesIgnored.toNat := Numeral.word?_decimal status.framesIgnored.toNat_lt
  simp only [figures, ofFigures?, Text.behind?_append, Option.bind_some, id, Mode.ofName?_name,
    Target.ofText?_text, code, received, ignored, Option.bind_eq_bind, UInt8.ofNat_toNat,
    UInt32.ofNat_toNat, UInt64.ofNat_toNat]
  rfl

/-- **There is room for the whole line**, whatever the status is. -/
theorem length_text_le : status.text.length ≤ Node.statusCapacity := by
  have id : (Text.decimal status.id.toNat).length ≤ 3 :=
    Numeral.length_decimal_le (by decide) (Nat.lt_trans status.id.toNat_lt (by decide))
  have mode : (Text.ofString status.mode.name).length ≤ 18 := by
    cases status.mode <;> decide
  have code : (Text.hexadecimal 8 status.clientAbort.toNat).length = 8 :=
    Numeral.length_hexadecimal (by decide) status.clientAbort.toNat_lt
  have received : (Text.decimal status.framesIn.toNat).length ≤ 20 :=
    Numeral.length_decimal_le (by decide) (Nat.lt_trans status.framesIn.toNat_lt (by decide))
  have ignored : (Text.decimal status.framesIgnored.toNat).length ≤ 20 :=
    Numeral.length_decimal_le (by decide) (Nat.lt_trans status.framesIgnored.toNat_lt (by decide))
  have labels : (Text.ofString "node=").length = 5 ∧ (Text.ofString "mode=").length = 5 ∧
      (Text.ofString "target=").length = 7 ∧ (Text.ofString "last_abort=0x").length = 13 ∧
      (Text.ofString "rx=").length = 3 ∧ (Text.ofString "ignored=").length = 8 ∧
      (Text.ofString " ").length = 1 := by
    decide
  simp only [text, figures, List.intercalate_cons_cons, List.intercalate_singleton,
    List.length_append, Target.length_text, code, labels, Node.statusCapacity]
  omega

/-- **A status is read as it was written.** -/
theorem read?_reply : read? (Reply.text (.ok status.text)) = some status := by
  have reply : Reply.text (.ok status.text) =
      (Text.ofString " ").intercalate (Text.ofString "OK" :: status.figures) := rfl
  have solid : ∀ word ∈ Text.ofString "OK" :: status.figures, word.IsWord :=
    List.forall_mem_cons.mpr ⟨⟨by decide, by decide⟩, status.isWord_of_mem_figures⟩
  rw [read?, reply, Text.words_intercalate solid]
  exact (if_pos rfl).trans status.ofFigures?_figures

end NodeStatus

/-- The line of a status is never cut off. -/
theorem Node.statusText_eq (node : Node) : node.statusText = node.status.text :=
  List.take_of_length_le node.status.length_text_le

end Canopen
