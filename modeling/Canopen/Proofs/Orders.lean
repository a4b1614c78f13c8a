/-
**The lines that an operator is understood in.**

* `Target.IsNamed`: two words write the numbers of a target, each in its range.
* `Order.Reads`: the grammar of orders, word by word.
* `Order.meets_ofWords`: words are read as the grammar tells, or what is wrong is told.
* `Order.parse_eq_ok_iff`: **a line is read as an order exactly if its words are in the grammar.**
* `Order.isAbout_words`: what is wrong with a line is told in words of the line.
* `Station.answer_of_order`, `Station.answer_of_complaint`: a line that is read is carried out, and
  any other one changes nothing.
-/

import Canopen.Console
import Canopen.Proofs.Words

namespace Canopen

/-- Two words write the index and the subindex of a target. -/
structure Target.IsNamed (target : Target) (index subindex : Text) : Prop where
  index : Numeral.parse? index 0xFFFF = some target.index.toNat
  subindex : Numeral.parse? subindex 0xFF = some target.subindex.toNat

theorem Numeral.le_of_parse? {text : Text} {greatest number : Nat}
    (reads : parse? text greatest = some number) : number ≤ greatest := by
  rw [parse?_eq] at reads
  split at reads
  · exact absurd reads nofun
  · exact of_decide_eq_true (Option.filter_eq_some_iff.mp reads).2

/-- **Words name the target with their numbers.** -/
theorem Target.parse?_eq_some_iff {index subindex : Text} {target : Target} :
    parse? index subindex = some target ↔ target.IsNamed index subindex := by
  constructor
  · intro reads
    simp only [parse?, Option.bind_eq_bind, Option.bind_eq_some_iff] at reads
    obtain ⟨first, indexed, second, subindexed, same⟩ := reads
    obtain rfl := Option.some.inj same
    have few := Numeral.le_of_parse? indexed
    have less := Numeral.le_of_parse? subindexed
    refine ⟨indexed.trans (congrArg some ?_), subindexed.trans (congrArg some ?_)⟩
    · exact (UInt16.toNat_ofNat_of_lt' (Nat.lt_succ_of_le few)).symm
    · exact (UInt8.toNat_ofNat_of_lt' (Nat.lt_succ_of_le less)).symm
  · rintro ⟨indexed, subindexed⟩
    rw [parse?, indexed, subindexed]
    show some (Target.mk (UInt16.ofNat target.index.toNat) (UInt8.ofNat target.subindex.toNat)) = _
    rw [UInt16.ofNat_toNat, UInt8.ofNat_toNat]

namespace Order

/-! ### The grammar -/

/-- The words of an order. -/
inductive Reads : List Text → Order → Prop
  | quit (rest : List Text) : Reads (Text.ofString "QUIT" :: rest) .quit
  | status (rest : List Text) : Reads (Text.ofString "STATUS" :: rest) .status
  | level {name : Text} {level : Level} (named : Level.ofName? name = some level) :
      Reads [Text.ofString "LEVEL", name] (.level level)
  | abort {word : Text} {code : UInt32} (named : Abort.parse? word = some code) :
      Reads [Text.ofString "ABORT", word] (.abort code)
  | get {index subindex : Text} {target : Target} (named : target.IsNamed index subindex) :
      Reads [Text.ofString "GET", index, subindex] (.get target)
  | set {index subindex hex : Text} {target : Target} {data : List UInt8}
      (named : target.IsNamed index subindex) (reads : Hex.decode? hex = some data) :
      Reads [Text.ofString "SET", index, subindex, hex] (.set target data)

/-- The word that tells the order. -/
def keyword : Order → Text
  | .quit => Text.ofString "QUIT"
  | .status => Text.ofString "STATUS"
  | .level _ => Text.ofString "LEVEL"
  | .abort _ => Text.ofString "ABORT"
  | .get _ => Text.ofString "GET"
  | .set _ _ => Text.ofString "SET"

theorem exists_get {order : Order} (first : order.keyword = Text.ofString "GET") :
    ∃ target, order = .get target := by
  cases order with
  | get target => exact ⟨target, rfl⟩
  | _ => exact absurd first (by rw [keyword]; decide)

theorem exists_set {order : Order} (first : order.keyword = Text.ofString "SET") :
    ∃ target data, order = .set target data := by
  cases order with
  | set target data => exact ⟨target, data, rfl⟩
  | _ => exact absurd first (by rw [keyword]; decide)

theorem Reads.head? {words : List Text} {order : Order} (reads : Reads words order) :
    words.head? = some order.keyword := by
  cases reads <;> rfl

end Order

/-- The complaint is about words, and quotes none but them. -/
def Complaint.IsAbout (words : List Text) : Complaint → Prop
  | abortCode word | hex word | unknown word => word ∈ words
  | refused _ => False
  | _ => True

namespace Order

/-- What words are read as is in the grammar, and what is wrong with them is told in them. -/
def Meets (words : List Text) : Except Complaint Order → Prop
  | .ok order => Reads words order
  | .error complaint => complaint.IsAbout words

theorem meets_parseLevel (rest : List Text) :
    Meets (Text.ofString "LEVEL" :: rest) (parseLevel rest) := by
  unfold parseLevel
  split
  · split
    · next named => exact Reads.level named
    · trivial
  · trivial

theorem meets_parseAbort (rest : List Text) :
    Meets (Text.ofString "ABORT" :: rest) (parseAbort rest) := by
  unfold parseAbort
  split
  · split
    · next named => exact Reads.abort named
    · exact List.mem_cons_of_mem _ List.mem_cons_self
  · trivial

theorem meets_parseGet (rest : List Text) :
    Meets (Text.ofString "GET" :: rest) (parseGet rest) := by
  unfold parseGet
  split
  · split
    · next named => exact Reads.get (Target.parse?_eq_some_iff.mp named)
    · trivial
  · trivial

theorem meets_parseSet (rest : List Text) :
    Meets (Text.ofString "SET" :: rest) (parseSet rest) := by
  unfold parseSet
  split
  · split
    · trivial
    · next hex _ _ => exact List.mem_of_getLast? rfl
    · next named reads => exact Reads.set (Target.parse?_eq_some_iff.mp named) reads
  · trivial

/-- **Every line of words is met**: it is read as the grammar tells, or what is wrong is told. -/
theorem meets_ofWords (words : List Text) : Meets words (ofWords words) := by
  cases words with
  | nil => trivial
  | cons word rest =>
    rw [ofWords]
    split
    · next first => exact first ▸ Reads.quit rest
    split
    · next first => exact first ▸ Reads.status rest
    split
    · next first => exact first ▸ meets_parseLevel rest
    split
    · next first => exact first ▸ meets_parseAbort rest
    split
    · next first => exact first ▸ meets_parseGet rest
    split
    · next first => exact first ▸ meets_parseSet rest
    · exact List.mem_cons_self

/-- **Words are read as an order exactly if they are in the grammar.** -/
theorem ofWords_eq_ok_iff {words : List Text} {order : Order} :
    ofWords words = .ok order ↔ Reads words order := by
  constructor
  · intro read
    have meets := meets_ofWords words
    rw [read] at meets
    exact meets
  · intro reads
    cases reads with
    | quit rest => rfl
    | status rest => rfl
    | @level name level named =>
      show parseLevel [name] = _
      rw [parseLevel, named]
    | @abort word code named =>
      show parseAbort [word] = _
      rw [parseAbort, named]
    | @get index subindex target named =>
      show parseGet [index, subindex] = _
      rw [parseGet, Target.parse?_eq_some_iff.mpr named]
    | @set index subindex hex target data named reads =>
      show parseSet [index, subindex, hex] = _
      rw [parseSet, Target.parse?_eq_some_iff.mpr named, reads]

/-- **A line is read as an order exactly if its words are in the grammar.** -/
theorem parse_eq_ok_iff {line : Text} {order : Order} :
    parse line = .ok order ↔ Reads line.words order :=
  ofWords_eq_ok_iff

/-- **What is wrong with a line is told in words of the line.** -/
theorem isAbout_words {line : Text} {complaint : Complaint}
    (wrong : parse line = .error complaint) : complaint.IsAbout line.words := by
  have meets := meets_ofWords line.words
  rw [parse] at wrong
  rw [wrong] at meets
  exact meets

end Order

/-! ### Answers -/

namespace Station

variable {σ : Type} [Store σ] (station : Station σ) {line : Text}

/-- A line that is read as an order is carried out. -/
theorem answer_of_order {order : Order} (read : Order.parse line = .ok order) :
    station.answer line =
      { station.obey order with
        events := .note (.orderReceived line) :: (station.obey order).events } := by
  unfold answer
  rw [read]

/-- A line that is not read changes nothing, and what is wrong with it is told. -/
theorem answer_of_complaint {complaint : Complaint} (wrong : Order.parse line = .error complaint) :
    let answer := station.answer line
    answer.station = station ∧ answer.reply = .ok (Reply.text (.error complaint)) ∧
      Event.responses answer.events = [] := by
  intro answer
  unfold answer Station.answer
  rw [wrong]
  cases complaint <;> exact ⟨rfl, rfl, rfl⟩

end Station

end Canopen
