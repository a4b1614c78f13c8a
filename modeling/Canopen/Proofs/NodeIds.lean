/-
**The node that a setting tells.**

* `Numeral.Plain`: the documented way to write a number, decimal or hexadecimal behind `0x`.
* `Environment.nodeIdOf?_eq_some_iff`: **a setting tells the number that it writes**, if a node can
  have it; blanks, a sign and a needless zero change what is written.
* `Environment.Misread`: the settings for which this matters.
* `Environment.agrees_iff`: a number of a node is written in the documented way exactly if it is
  what is read, unless the setting is one of these.
* `Environment.nodeIdSetting_reads`: **all other settings are read as documented**, and no setting
  of these is.
-/

import Canopen.Proofs.Literals
import Canopen.Settings

namespace Canopen

/-! ### The documented way -/

namespace Numeral

/-- The documented way to write a number: decimal, or hexadecimal behind `0x`. -/
inductive Plain : Text → Nat → Prop
  | decimal {text : Text} {digits : List Nat} (nonempty : text ≠ [])
      (spells : Spells 10 text digits) : Plain text (positional 10 digits)
  | hexadecimal {mark : String} {text : Text} {digits : List Nat}
      (marks : mark = "0x" ∨ mark = "0X") (nonempty : text ≠ []) (spells : Spells 16 text digits) :
      Plain (Text.ofString mark ++ text) (positional 16 digits)

theorem Plain.exists_digit {text : Text} {number : Nat} (plain : Plain text number) :
    ∃ octet rest, text = octet :: rest ∧ isDigit 10 octet = true := by
  cases plain with
  | @decimal text digits nonempty spells =>
    obtain ⟨octet, rest, rfl⟩ := List.exists_cons_of_ne_nil nonempty
    exact ⟨octet, rest, rfl, spells.isDigit (by decide) octet List.mem_cons_self⟩
  | hexadecimal marks nonempty spells =>
    rcases marks with rfl | rfl <;> exact ⟨48, _, rfl, rfl⟩

/-! ### A needless zero -/

section Zero

variable {text : Text} {digits : List Nat}

theorem ofDigits_eq_zero {base other : Nat} (positive : 0 < base) :
    ∀ digits : List Nat, Nat.ofDigits base digits = 0 → Nat.ofDigits other digits = 0
  | [], _ => rfl
  | digit :: digits, zero => by
    rw [Nat.ofDigits_cons, Nat.add_eq_zero_iff, Nat.mul_eq_zero, or_iff_right positive.ne'] at zero
    rw [Nat.ofDigits_cons, ofDigits_eq_zero positive digits zero.2, zero.1, Nat.mul_zero]

theorem positional_octal_le (digits : List Nat) : positional 8 digits ≤ positional 10 digits :=
  Nat.ofDigits_monotone _ (by decide)

/-- **Octal digits have the same number as decimal ones** exactly below eight. -/
theorem positional_eq_iff (few : ∀ digit ∈ digits, digit < 8) :
    positional 8 digits = positional 10 digits ↔ positional 8 digits < 8 := by
  unfold positional
  replace few : ∀ digit ∈ digits.reverse, digit < 8 := fun digit member =>
    few digit (List.mem_reverse.mp member)
  generalize digits.reverse = reversed at few ⊢
  cases reversed with
  | nil => exact iff_of_true rfl (by decide)
  | cons last rest =>
    have least : last < 8 := few last List.mem_cons_self
    have above : Nat.ofDigits 8 rest ≤ Nat.ofDigits 10 rest :=
      Nat.ofDigits_monotone rest (by decide)
    have vanishes : Nat.ofDigits 8 rest = 0 → Nat.ofDigits 10 rest = 0 :=
      ofDigits_eq_zero (by decide) rest
    rw [Nat.ofDigits_cons, Nat.ofDigits_cons]
    omega

/-- Decimal digits behind a zero are not hexadecimal ones behind `0x`. -/
theorem zero_append_ne (spells : Spells 10 text digits) {mark : String}
    (marks : mark = "0x" ∨ mark = "0X") (rest : Text) :
    Text.ofString "0" ++ text ≠ Text.ofString mark ++ rest := by
  intro same
  rcases marks with rfl | rfl
  · obtain rfl : text = 120 :: rest := List.tail_eq_of_cons_eq same
    exact absurd (spells.isDigit (by decide) 120 List.mem_cons_self) (by decide)
  · obtain rfl : text = 88 :: rest := List.tail_eq_of_cons_eq same
    exact absurd (spells.isDigit (by decide) 88 List.mem_cons_self) (by decide)

/-- Digits behind a zero are read as octal ones, and refused if they are not. -/
theorem literal_zero_iff (spells : Spells 10 text digits) {number : Nat} :
    Literal (Text.ofString "0" ++ text) number ↔
      Spells 8 text digits ∧ number = positional 8 digits := by
  constructor
  · intro literal
    generalize same : Text.ofString "0" ++ text = whole at literal
    cases literal with
    | hexadecimal marks nonempty other => exact absurd same (zero_append_ne spells marks _)
    | @octal rest others octal =>
      obtain rfl : text = rest := List.tail_eq_of_cons_eq same
      obtain rfl : digits = others :=
        (spells.filterMap_eq (by decide)).symm.trans (octal.filterMap_eq (by decide))
      exact ⟨octal, rfl⟩
    | @decimal rest digit others leads decimal =>
      subst same
      have first := (decimal.filterMap_eq (by decide)).symm.trans
        ((spells.zero (by decide)).filterMap_eq (by decide))
      exact absurd (List.cons.inj first).1 (Nat.ne_of_gt leads)
  · rintro ⟨octal, rfl⟩
    exact .octal octal

/-- Digits behind a zero are meant to be decimal ones. -/
theorem plain_zero_iff (spells : Spells 10 text digits) {number : Nat} :
    Plain (Text.ofString "0" ++ text) number ↔ number = positional 10 digits := by
  have zero := spells.zero (by decide)
  constructor
  · intro plain
    generalize same : Text.ofString "0" ++ text = whole at plain
    cases plain with
    | @decimal rest others nonempty decimal =>
      subst same
      obtain rfl : 0 :: digits = others :=
        (zero.filterMap_eq (by decide)).symm.trans (decimal.filterMap_eq (by decide))
      exact positional_zero_cons 10 digits
    | hexadecimal marks nonempty other => exact absurd same (zero_append_ne spells marks _)
  · rintro rfl
    exact positional_zero_cons 10 digits ▸ .decimal (List.cons_ne_nil _ _) zero

/-- Without a needless zero in front a literal is written in the documented way. -/
theorem literal_iff_plain
    (bare : ∀ rest digits, text = Text.ofString "0" ++ rest → ¬ Spells 10 rest digits)
    {number : Nat} : Literal text number ↔ Plain text number := by
  constructor
  · intro literal
    cases literal with
    | hexadecimal marks nonempty spells => exact .hexadecimal marks nonempty spells
    | octal spells =>
      exact absurd (spells.restrict fun digit member => (spells.lt digit member).trans (by decide))
        (bare _ _ rfl)
    | decimal leads spells =>
      refine .decimal ?_ spells
      rintro rfl
      exact absurd spells nofun
  · intro plain
    cases plain with
    | hexadecimal marks nonempty spells => exact .hexadecimal marks nonempty spells
    | @decimal text digits nonempty spells =>
      cases spells with
      | nil => exact absurd rfl nonempty
      | @cons octet digit rest digits first later =>
        refine .decimal (Nat.pos_of_ne_zero ?_) (.cons first later)
        rintro rfl
        rcases first.2 with rfl | rfl <;> exact bare rest digits rfl later

end Zero

end Numeral

namespace Environment

open Numeral

/-! ### Settings -/

/-- A node can have the number. -/
def IsNode (number : Nat) : Prop := 1 ≤ number ∧ number ≤ greatestNodeId

instance (number : Nat) : Decidable (IsNode number) := inferInstanceAs (Decidable (_ ∧ _))

theorem IsNode.lt {number : Nat} (node : IsNode number) : number < UInt64.size :=
  node.2.trans_lt (by decide)

theorem IsNode.toNat_ofNat {number : Nat} (node : IsNode number) :
    (UInt8.ofNat number).toNat = number :=
  UInt8.toNat_ofNat_of_lt' (node.2.trans_lt (by decide))

/-- A setting that is not read as documented. -/
inductive Misread : Text → Prop
  /-- A number behind blanks or a sign is read. -/
  | fronted {octet : UInt8} {rest : Text} {number : Nat}
      (front : Text.isBlank octet = true ∨ octet = 45 ∨ octet = 43)
      (writes : Writes (octet :: rest) number) (node : IsNode number) : Misread (octet :: rest)
  /-- Octal digits behind a zero are read as such, and make a difference. -/
  | octal {text : Text} {digits : List Nat} (spells : Spells 8 text digits)
      (large : 8 ≤ positional 8 digits) (node : IsNode (positional 8 digits)) :
      Misread (Text.ofString "0" ++ text)
  /-- Decimal digits behind a zero are refused for an eight or a nine. -/
  | refused {text : Text} {digits : List Nat} (spells : Spells 10 text digits)
      (large : ∃ digit ∈ digits, 8 ≤ digit) (node : IsNode (positional 10 digits)) :
      Misread (Text.ofString "0" ++ text)

theorem not_plain_of_front {octet : UInt8} {rest : Text} {number : Nat}
    (front : Text.isBlank octet = true ∨ octet = 45 ∨ octet = 43) :
    ¬ Plain (octet :: rest) number := by
  intro plain
  obtain ⟨first, others, same, digit⟩ := plain.exists_digit
  obtain ⟨rfl, rfl⟩ := List.cons.inj same
  obtain ⟨solid, minus, plus, -⟩ := plain_of_isDigit digit
  rcases front with blank | signs | signs
  · exact Bool.eq_false_iff.mp solid blank
  · exact minus signs
  · exact plus signs

/-- What is written with a zero in front is a literal. -/
theorem writes_zero_iff {text : Text} {number : Nat} (node : IsNode number) :
    Writes (Text.ofString "0" ++ text) number ↔ Literal (Text.ofString "0" ++ text) number :=
  (writes_cons_iff (by decide) (by decide) (by decide)).trans (and_iff_left node.lt)

theorem Misread.differs {value : Text} (misread : Misread value) :
    ∃ number, IsNode number ∧ ¬ (Writes value number ↔ Plain value number) := by
  cases misread with
  | fronted front writes node =>
    exact ⟨_, node, fun same => not_plain_of_front front (same.mp writes)⟩
  | @octal text digits spells large node =>
    refine ⟨_, node, fun same => ?_⟩
    have decimal : Spells 10 text digits :=
      spells.restrict fun digit member => (spells.lt digit member).trans (by decide)
    have plain := same.mp ((writes_zero_iff node).mpr (.octal spells))
    have alike := (plain_zero_iff decimal).mp plain
    exact absurd ((positional_eq_iff spells.lt).mp alike) (Nat.not_lt.mpr large)
  | @refused text digits spells large node =>
    refine ⟨_, node, fun same => ?_⟩
    have writes := same.mpr ((plain_zero_iff spells).mpr rfl)
    obtain ⟨octal, -⟩ := (literal_zero_iff spells).mp ((writes_zero_iff node).mp writes)
    obtain ⟨digit, member, many⟩ := large
    exact absurd (octal.lt digit member) (Nat.not_lt.mpr many)

/-- With a needless zero in front a number is read as documented, unless octal digits matter. -/
theorem agrees_zero {text : Text} {digits : List Nat} (spells : Spells 10 text digits)
    (fine : ¬ Misread (Text.ofString "0" ++ text)) {number : Nat} (node : IsNode number) :
    Literal (Text.ofString "0" ++ text) number ↔ Plain (Text.ofString "0" ++ text) number := by
  rw [literal_zero_iff spells, plain_zero_iff spells]
  by_cases few : ∀ digit ∈ digits, digit < 8
  · have octal := spells.restrict few
    rw [and_iff_right octal]
    by_cases small : positional 8 digits < 8
    · rw [(positional_eq_iff few).mpr small]
    · -- Both numbers are too great for a node, the decimal one all the more.
      have large := Nat.le_of_not_lt small
      have above := positional_octal_le digits
      have many : greatestNodeId < positional 8 digits := Nat.lt_of_not_le fun least =>
        fine (.octal octal large ⟨le_trans (by decide) large, least⟩)
      have most := node.2
      omega
  · have large : ∃ digit ∈ digits, 8 ≤ digit := by
      simpa only [not_forall, Nat.not_lt, exists_prop] using few
    refine iff_of_false (fun both => few both.1.lt) ?_
    rintro rfl
    exact fine (.refused spells large node)

/-- **A number of a node is written in the documented way exactly if it is what is read**, unless
the setting is one of those that are misread. -/
theorem agrees_iff {value : Text} (nonempty : value ≠ []) :
    (∀ number, IsNode number → (Writes value number ↔ Plain value number)) ↔ ¬ Misread value := by
  constructor
  · intro agrees misread
    obtain ⟨number, node, differs⟩ := misread.differs
    exact differs (agrees number node)
  · intro fine number node
    obtain ⟨octet, rest, rfl⟩ := List.exists_cons_of_ne_nil nonempty
    by_cases front : Text.isBlank octet = true ∨ octet = 45 ∨ octet = 43
    · exact iff_of_false (fun writes => fine (.fronted front writes node))
        (not_plain_of_front front)
    obtain ⟨solid, unsigned⟩ := not_or.mp front
    obtain ⟨minus, plus⟩ := not_or.mp unsigned
    rw [writes_cons_iff (Bool.eq_false_iff.mpr solid) minus plus, and_iff_left node.lt]
    by_cases zero : ∃ text digits, octet :: rest = Text.ofString "0" ++ text ∧
        Spells 10 text digits
    · obtain ⟨text, digits, same, spells⟩ := zero
      rw [same] at fine ⊢
      exact agrees_zero spells fine node
    · exact literal_iff_plain fun text digits same spells => zero ⟨text, digits, same, spells⟩

/-! ### What is told -/

theorem of_filled {setting : Option Text} {value : Text} (given : filled setting = some value) :
    Text.nul ∉ value ∧ value ≠ [] := by
  obtain ⟨cut, nonempty⟩ := Option.filter_eq_some_iff.mp given
  obtain ⟨text, -, rfl⟩ := Option.map_eq_some_iff.mp cut
  exact ⟨text.nul_notMem_cut, of_decide_eq_true nonempty⟩

/-- **A setting tells the number that it writes**, if a node can have it. -/
theorem nodeIdOf?_eq_some_iff {value : Text} (whole : Text.nul ∉ value) (nonempty : value ≠ [])
    {id : UInt8} : nodeIdOf? value = some id ↔ Writes value id.toNat ∧ IsNode id.toNat := by
  rw [nodeIdOf?, Option.map_eq_some_iff]
  constructor
  · rintro ⟨number, told, rfl⟩
    obtain ⟨read, fits⟩ := Option.filter_eq_some_iff.mp told
    have node : IsNode number := of_decide_eq_true fits
    rw [node.toNat_ofNat]
    exact ⟨(word?_eq_some_iff whole nonempty).mp read, node⟩
  · rintro ⟨writes, node⟩
    refine ⟨id.toNat, Option.filter_eq_some_iff.mpr ⟨?_, decide_eq_true node⟩, id.ofNat_toNat⟩
    exact (word?_eq_some_iff whole nonempty).mpr writes

/-- The node is as documented: the one that the setting tells in the documented way, and otherwise
the first one, with a notice. -/
structure ReadsPlainly (environment : Environment) (value : Text) : Prop where
  told : ∀ id : UInt8, Plain value id.toNat → IsNode id.toNat →
    environment.nodeIdSetting = (id, [])
  ignored : (∀ number, Plain value number → ¬ IsNode number) →
    environment.nodeIdSetting = (defaultNodeId, [.nodeIdInvalid value])

section Settings

variable {environment : Environment} {value : Text}

theorem nodeIdSetting_of_some {id : UInt8} (given : filled environment.nodeId = some value)
    (told : nodeIdOf? value = some id) : environment.nodeIdSetting = (id, []) := by
  unfold nodeIdSetting
  rw [given]
  simp only [told]

theorem nodeIdSetting_of_none (given : filled environment.nodeId = some value)
    (told : nodeIdOf? value = none) :
    environment.nodeIdSetting = (defaultNodeId, [.nodeIdInvalid value]) := by
  unfold nodeIdSetting
  rw [given]
  simp only [told]

theorem nodeIdSetting_eq_iff (given : filled environment.nodeId = some value) {id : UInt8} :
    environment.nodeIdSetting = (id, []) ↔ Writes value id.toNat ∧ IsNode id.toNat := by
  obtain ⟨whole, nonempty⟩ := of_filled given
  rw [← nodeIdOf?_eq_some_iff whole nonempty]
  cases told : nodeIdOf? value with
  | none =>
    rw [nodeIdSetting_of_none given told]
    exact iff_of_false nofun nofun
  | some other =>
    rw [nodeIdSetting_of_some given told, Prod.mk.injEq, Option.some.injEq]
    exact and_iff_left rfl

/-- The notice is given exactly if no number of a node is written. -/
theorem nodeIdSetting_ignored_iff (given : filled environment.nodeId = some value) :
    environment.nodeIdSetting = (defaultNodeId, [.nodeIdInvalid value]) ↔
      ∀ number, Writes value number → ¬ IsNode number := by
  obtain ⟨whole, nonempty⟩ := of_filled given
  cases told : nodeIdOf? value with
  | none =>
    refine iff_of_true (nodeIdSetting_of_none given told) fun number writes node => ?_
    rw [← node.toNat_ofNat] at writes node
    exact Option.some_ne_none _
      (((nodeIdOf?_eq_some_iff whole nonempty).mpr ⟨writes, node⟩).symm.trans told)
  | some id =>
    obtain ⟨writes, node⟩ := (nodeIdOf?_eq_some_iff whole nonempty).mp told
    rw [nodeIdSetting_of_some given told]
    exact iff_of_false nofun fun absent => absent _ writes node

theorem readsPlainly_iff (given : filled environment.nodeId = some value) :
    ReadsPlainly environment value ↔
      ∀ number, IsNode number → (Writes value number ↔ Plain value number) := by
  constructor
  · intro plainly number node
    obtain ⟨id, rfl⟩ : ∃ id : UInt8, id.toNat = number := ⟨_, node.toNat_ofNat⟩
    constructor
    · intro writes
      have told := (nodeIdSetting_eq_iff given).mpr ⟨writes, node⟩
      obtain ⟨other, plain, fits⟩ : ∃ number, Plain value number ∧ IsNode number := by
        by_contra absent
        have ignored := plainly.ignored fun number plain fits => absent ⟨number, plain, fits⟩
        exact absurd (told.symm.trans ignored) nofun
      rw [← fits.toNat_ofNat] at plain fits
      obtain rfl := (Prod.mk.inj (told.symm.trans (plainly.told _ plain fits))).1
      exact plain
    · exact fun plain => ((nodeIdSetting_eq_iff given).mp (plainly.told id plain node)).1
  · intro agrees
    refine ⟨fun id plain node => ?_, fun absent => ?_⟩
    · exact (nodeIdSetting_eq_iff given).mpr ⟨(agrees _ node).mpr plain, node⟩
    · exact (nodeIdSetting_ignored_iff given).mpr fun number writes node =>
        absent number ((agrees number node).mp writes) node

/-- **All settings but those that are misread are read as documented**, and none of these is. A
setting tells the number that it writes with blanks, a sign, or a zero in front, if a node can have
this number; and every other one is ignored with a notice. -/
theorem nodeIdSetting_reads (given : filled environment.nodeId = some value) :
    (∀ id, environment.nodeIdSetting = (id, []) ↔ Writes value id.toNat ∧ IsNode id.toNat) ∧
      (environment.nodeIdSetting = (defaultNodeId, [.nodeIdInvalid value]) ↔
        ∀ number, Writes value number → ¬ IsNode number) ∧
      (ReadsPlainly environment value ↔ ¬ Misread value) := by
  obtain ⟨-, nonempty⟩ := of_filled given
  refine ⟨fun id => nodeIdSetting_eq_iff given, nodeIdSetting_ignored_iff given, ?_⟩
  rw [readsPlainly_iff given, agrees_iff nonempty]

end Settings

/-- A setting of octal digits tells the last node. -/
theorem nodeIdSetting_reads_octal :
    let environment : Environment := { empty with nodeId := some (Text.ofString "0177") }
    filled environment.nodeId = some (Text.ofString "0177") ∧
      environment.nodeIdSetting = (127, []) ∧
      ¬ ReadsPlainly environment (Text.ofString "0177") := by
  intro environment
  have given : filled environment.nodeId = some (Text.ofString "0177") := rfl
  have spells : Spells 8 (Text.ofString "177") [1, 7, 7] := by decide
  have writes : Writes (Text.ofString "0177") 127 :=
    (writes_zero_iff (by decide)).mpr (.octal spells)
  have misread : Misread (Text.ofString "0177") := .octal spells (by decide) (by decide)
  obtain ⟨told, -, plainly⟩ := nodeIdSetting_reads given
  exact ⟨given, (told 127).mpr ⟨writes, by decide⟩, fun reads => plainly.mp reads misread⟩

/-- **Not every setting is read as documented.** The decimal ten with a zero in front is read as
eight. -/
theorem nodeIdSetting_not_always_plain :
    ¬ ∀ (environment : Environment) (value : Text), filled environment.nodeId = some value →
      ReadsPlainly environment value := by
  intro always
  let environment : Environment := { empty with nodeId := some (Text.ofString "010") }
  have plainly := always environment (Text.ofString "010") rfl
  have plain : Plain (Text.ofString "010") 10 :=
    .decimal (by decide) (by decide : Spells 10 (Text.ofString "010") [0, 1, 0])
  have octal : environment.nodeIdSetting = (8, []) := rfl
  exact absurd (octal.symm.trans (plainly.told 10 plain (by decide))) (by decide)

end Environment

end Canopen
