/-
**One line in, one line out.**

* `Exchange.gather_eq_lineOf`: **a line does not depend on how the octets are cut that bring it.**
* `Exchange.lineOf_eq_iff`: the line of a stream told by its octets, as `Exchange.Reads` says.
* `Exchange.connect_eq`: a connection puts its line to what answers it, once.
* `Exchange.lineOf_request`, `Exchange.lineOf_reply`: the line feed that is put behind a line is
  taken off it again, so a line that is clean in itself arrives as it is.
* `Exchange.Behaves.serve`: **connections are served in order**, with one answer each, up to the
  first one whose line is exactly `QUIT`.
* `Text.isLine`: a text without line feeds and carriage returns.
* `Station.answer_isLine`: **the console answers every line with such a text.**
* `Exchange.line_for_line`: what a client sends is what is answered, and what is answered is what
  the client gets.
-/

import Canopen.Proofs.Aborted
import Canopen.Proofs.Registers
import Canopen.Service

namespace Canopen

/-! ### Framing -/

namespace Exchange

theorem flatten_pieces (sizes : List Nat) (octets : List UInt8) :
    (pieces sizes octets).flatten = octets := by
  induction sizes generalizing octets with
  | nil => exact List.append_nil octets
  | cons size sizes ih => rw [pieces, List.flatten_cons, ih, List.take_append_drop]

/-- Nothing behind a line feed matters. -/
theorem lineOf_append_of_mem {first : List UInt8} (ended : Text.newline ∈ first)
    (rest : List UInt8) : lineOf (first ++ rest) = lineOf first := by
  have short : (first.takeWhile (· != Text.newline)).length ≠ first.length := by
    intro whole
    have all := List.takeWhile_eq_self_iff.mp
      ((List.takeWhile_prefix (· != Text.newline)).eq_of_length whole)
    exact absurd (all _ ended) (by decide)
  rw [lineOf, List.takeWhile_append, if_neg short, lineOf]

/-- **A line does not depend on how the octets are cut that bring it.** -/
theorem gather_eq_lineOf (read : List UInt8) (pieces : List (List UInt8)) :
    gather read pieces = lineOf (read ++ pieces.flatten) := by
  induction pieces generalizing read with
  | nil => rw [gather, List.flatten_nil, List.append_nil]
  | cons piece rest ih =>
    rw [gather, List.flatten_cons, ← List.append_assoc]
    split
    · next ended => exact (lineOf_append_of_mem ended _).symm
    · exact ih _

theorem lineOf_eq_dropReturn {text : Text} (whole : Text.newline ∉ text) :
    lineOf text = dropReturn text :=
  congrArg dropReturn (Text.takeWhile_ne_eq_self whole)

theorem lineOf_append_newline (text : Text) : lineOf (text ++ [Text.newline]) = lineOf text := by
  by_cases ended : Text.newline ∈ text
  · exact lineOf_append_of_mem ended _
  · have all := List.takeWhile_eq_self_iff.mp (Text.takeWhile_ne_eq_self ended)
    rw [lineOf_eq_dropReturn ended, lineOf, List.takeWhile_append_of_pos all]
    exact congrArg dropReturn (List.append_nil text)

/-- **A connection** puts its line to what answers it, once, and brings back the answer. -/
theorem connect_eq {κ : Type} (answering : Answering κ) (state : κ)
    (pieces : List (List UInt8)) :
    let answered := answering state (lineOf pieces.flatten)
    connect answering state pieces =
      ⟨answered.1, answered.2.map reply, answered.2.isSome && !ends (lineOf pieces.flatten)⟩ := by
  have gathered : gather [] pieces = lineOf pieces.flatten := gather_eq_lineOf [] pieces
  rw [connect, gathered]

/-- A client's line arrives as it would alone. -/
theorem lineOf_request (line : Text) : lineOf (request line) = lineOf line := by
  unfold request
  split
  · rfl
  · exact lineOf_append_newline line

/-- An answer comes back as it would alone. -/
theorem lineOf_reply (answer : Text) : lineOf (reply answer) = lineOf answer :=
  lineOf_append_newline answer

/-- A text without a line feed, and without a carriage return at its end, is a line as it is. -/
theorem lineOf_eq_self {text : Text} (whole : Text.newline ∉ text)
    (bare : text.getLast? ≠ some Text.carriageReturn) : lineOf text = text := by
  rw [lineOf_eq_dropReturn whole, dropReturn, if_neg bare]

/-- What stands before the first line feed, all of the octets if there is none, is the line, or the
line and one carriage return behind it. -/
def Reads (octets : List UInt8) (line : Text) : Prop :=
  ∃ before : List UInt8, 10 ∉ before ∧
    (octets = before ∨ ∃ rest, octets = before ++ 10 :: rest) ∧
    (before = line ++ [13] ∨ before = line ∧ before.getLast? ≠ some 13)

/-- One carriage return is taken off the end, and nothing else. -/
theorem dropReturn_eq_iff {text line : Text} :
    dropReturn text = line ↔ text = line ++ [13] ∨ text = line ∧ text.getLast? ≠ some 13 := by
  unfold dropReturn
  by_cases returned : text.getLast? = some Text.carriageReturn
  · obtain ⟨front, rfl⟩ := List.getLast?_eq_some_iff.mp returned
    rw [if_pos returned, List.dropLast_concat]
    constructor
    · rintro rfl
      exact Or.inl rfl
    · rintro (same | ⟨-, bare⟩)
      · exact (List.append_inj' same rfl).1
      · exact absurd returned bare
  · rw [if_neg returned]
    constructor
    · exact fun same => Or.inr ⟨same, returned⟩
    · rintro (rfl | ⟨same, -⟩)
      · exact absurd List.getLast?_concat returned
      · exact same

/-- What stands before the first line feed. -/
theorem takeWhile_eq_iff {octets before : List UInt8} :
    octets.takeWhile (· != Text.newline) = before ↔
      10 ∉ before ∧ (octets = before ∨ ∃ rest, octets = before ++ 10 :: rest) := by
  have splits {front rest : List UInt8} (clean : 10 ∉ front) :
      (front ++ 10 :: rest).takeWhile (· != Text.newline) = front := by
    have all := List.takeWhile_eq_self_iff.mp (Text.takeWhile_ne_eq_self clean)
    exact (List.takeWhile_append_of_pos all).trans (List.append_nil front)
  constructor
  · rintro rfl
    by_cases ended : 10 ∈ octets
    · obtain ⟨front, rest, rfl, clean⟩ := List.eq_append_cons_of_mem ended
      rw [splits clean]
      exact ⟨clean, Or.inr ⟨rest, rfl⟩⟩
    · have whole := Text.takeWhile_ne_eq_self ended
      exact ⟨fun member => ended (whole ▸ member), Or.inl whole.symm⟩
  · rintro ⟨clean, rfl | ⟨rest, rfl⟩⟩
    · exact Text.takeWhile_ne_eq_self clean
    · exact splits clean

/-- **The line of a stream, told by its octets.** -/
theorem lineOf_eq_iff {octets : List UInt8} {line : Text} :
    lineOf octets = line ↔ Reads octets line := by
  rw [lineOf, dropReturn_eq_iff]
  constructor
  · intro trimmed
    obtain ⟨clean, stands⟩ := takeWhile_eq_iff.mp (rfl : octets.takeWhile _ = _)
    exact ⟨_, clean, stands, trimmed⟩
  · rintro ⟨before, clean, stands, trimmed⟩
    rw [takeWhile_eq_iff.mpr ⟨clean, stands⟩]
    exact trimmed

/-- A text comes back without the carriage return behind it, with or without a line feed. -/
theorem lineOf_returned {text octets : List UInt8} (clean : 10 ∉ text)
    (stands : octets = text ++ [13] ∨ ∃ rest, octets = text ++ 13 :: 10 :: rest) :
    lineOf octets = text := by
  refine lineOf_eq_iff.mpr ⟨text ++ [13], ?_, ?_, Or.inl rfl⟩
  · rw [List.mem_append, List.mem_singleton, not_or]
    exact ⟨clean, by decide⟩
  · rcases stands with ends | ⟨rest, fed⟩
    · exact Or.inl ends
    · exact Or.inr ⟨rest, fed.trans (List.append_cons text 13 _)⟩

/-- The octets are sent in pieces of some sizes, and arrive in other ones. -/
def Carries (octets : List UInt8) (arrived : List (List UInt8)) : Prop :=
  ∃ sizes, arrived.flatten = (pieces sizes octets).flatten

theorem Carries.flatten {octets : List UInt8} {arrived : List (List UInt8)}
    (carries : Carries octets arrived) : arrived.flatten = octets := by
  obtain ⟨sizes, same⟩ := carries
  rw [same, flatten_pieces]

theorem Carries.gather {octets : List UInt8} {arrived : List (List UInt8)}
    (carries : Carries octets arrived) : gather [] arrived = lineOf octets := by
  rw [gather_eq_lineOf, List.nil_append, carries.flatten]

/-! ### Service -/

section Handlers

variable {κ : Type}

/-- A handler that answers every line. -/
def steady (handler : κ → Text → κ × Text) : Answering κ := fun state line =>
  ((handler state line).1, some (handler state line).2)

/-- Lines put to a handler in order: its state behind them, and its answers. -/
def consult (handler : κ → Text → κ × Text) : κ → List Text → κ × List Text
  | state, [] => (state, [])
  | state, line :: later =>
    let answered := handler state line
    let rest := consult handler answered.1 later
    (rest.1, answered.2 :: rest.2)

/-- What answers lines does so as a handler does, in states that it does not leave. -/
structure Behaves (answering : Answering κ) (handler : κ → Text → κ × Text) (holds : κ → Prop) :
    Prop where
  answers : ∀ state, holds state → ∀ line, answering state line = steady handler state line
  keeps : ∀ state, holds state → ∀ line, holds (handler state line).1

theorem behaves_steady (handler : κ → Text → κ × Text) :
    Behaves (steady handler) handler fun _ => True :=
  ⟨fun _ _ _ => rfl, fun _ _ _ => trivial⟩

/-- The lines that are served: those up to the first one that ends the service. -/
def served (lines : List Text) : List Text := lines.take (lines.idxOf quitLine + 1)

theorem served_cons (line : Text) (later : List Text) :
    served (line :: later) = line :: if line = quitLine then [] else served later := by
  rw [served, List.idxOf_cons, List.take_succ_cons]
  by_cases ends : line = quitLine
  · rw [if_pos ends, beq_iff_eq.mpr ends]
    rfl
  · rw [if_neg ends, beq_eq_false_iff_ne.mpr ends]
    rfl

variable {answering : Answering κ} {handler : κ → Text → κ × Text} {holds : κ → Prop} {state : κ}

/-- **A connection** puts one line to the handler, once, and brings back its answer. -/
theorem Behaves.connect (behaves : Behaves answering handler holds) (held : holds state)
    (pieces : List (List UInt8)) :
    let line := lineOf pieces.flatten
    connect answering state pieces =
      ⟨(handler state line).1, some (reply (handler state line).2), line != quitLine⟩ := by
  intro line
  rw [connect_eq, behaves.answers state held]
  rfl

/-- **Connections are served in order**, with one answer each, up to the first one whose line is
exactly `QUIT`. -/
theorem Behaves.serve (behaves : Behaves answering handler holds) (held : holds state)
    (connections : List (List (List UInt8))) :
    let lines := connections.map fun pieces => lineOf pieces.flatten
    let consulted := consult handler state (served lines)
    serve answering state connections =
      (consulted.1, consulted.2.map fun answer => some (reply answer)) := by
  induction connections generalizing state with
  | nil => rfl
  | cons pieces later ih =>
    intro lines consulted
    have first : served lines = _ := served_cons (lineOf pieces.flatten) _
    have rest := ih (behaves.keeps state held (lineOf pieces.flatten))
    rw [Exchange.serve, behaves.connect held]
    by_cases ends : lineOf pieces.flatten = quitLine
    · rw [if_pos ends] at first
      simp only [consulted, first, bne_eq_false_iff_eq.mpr ends, Bool.false_eq_true, if_false]
      rfl
    · rw [if_neg ends] at first
      simp only [consulted, first, bne_iff_ne.mpr ends, if_true, rest]
      rfl

/-- **A client gets the answer to its line**, if it finds the service. -/
theorem Behaves.request (behaves : Behaves answering handler holds) {service : Service κ}
    (held : holds service.state) {path line : Text}
    (found : service.places.contact path line = .ok ()) :
    (service.request answering path line).2.reply =
      some (lineOf (handler service.state (lineOf line)).2) := by
  have connected := behaves.connect held [Exchange.request line]
  rw [List.flatten_singleton, lineOf_request] at connected
  unfold Service.request Service.take
  simp only [found, connected]
  exact congrArg some (lineOf_reply _)

end Handlers

end Exchange

/-! ### Texts of one line -/

namespace Text

/-- The text has no line feed and no carriage return. -/
def isLine (text : Text) : Bool :=
  text.all fun octet => octet != newline && octet != carriageReturn

theorem isLine_append (first second : Text) :
    (first ++ second).isLine = (first.isLine && second.isLine) :=
  List.all_append

theorem isLine_iff {text : Text} :
    text.isLine = true ↔ newline ∉ text ∧ carriageReturn ∉ text := by
  simp only [isLine, List.all_eq_true, Bool.and_eq_true, bne_iff_ne]
  constructor
  · exact fun plain => ⟨fun member => (plain _ member).1 rfl, fun member => (plain _ member).2 rfl⟩
  · rintro ⟨whole, plain⟩ octet member
    exact ⟨fun same => whole (same ▸ member), fun same => plain (same ▸ member)⟩

/-- A text without blanks is one line. -/
theorem isLine_of_solid {text : Text} (solid : text.any isBlank = false) : text.isLine = true := by
  rw [List.any_eq_false] at solid
  exact isLine_iff.mpr
    ⟨fun member => solid _ member (by decide), fun member => solid _ member (by decide)⟩

/-- Lines with single spaces between them are one line. -/
theorem isLine_join {parts : List Text} (lines : ∀ part ∈ parts, part.isLine = true) :
    isLine ((ofString " ").intercalate parts) = true := by
  induction parts with
  | nil => rfl
  | cons part rest ih =>
    rw [List.forall_mem_cons] at lines
    cases rest with
    | nil =>
      rw [List.intercalate_singleton]
      exact lines.1
    | cons next others =>
      rw [List.intercalate_cons_cons, isLine_append, isLine_append, lines.1, ih lines.2]
      decide

end Text

theorem Status.isLine_text (status : Status) : (Text.ofString status.text).isLine = true := by
  cases status <;> decide

theorem NodeStatus.isLine_text (status : NodeStatus) : status.text.isLine = true :=
  Text.isLine_join fun figure member =>
    Text.isLine_of_solid (status.isWord_of_mem_figures figure member).solid

/-- What is wrong with a line is told in one line. -/
theorem Complaint.isLine_text {complaint : Complaint} {line : Text}
    (about : complaint.IsAbout line.words) : complaint.text.isLine = true := by
  have quoted {word : Text} (member : word ∈ line.words) (before after : String)
      (first : (Text.ofString before).isLine = true) (last : (Text.ofString after).isLine = true) :
      (Text.ofString before ++ word ++ Text.ofString after).isLine = true := by
    rw [Text.isLine_append, Text.isLine_append, first, last,
      Text.isLine_of_solid (Text.isWord_of_mem_words member).solid]
    rfl
  cases complaint with
  | abortCode word => exact quoted about _ _ (by decide) (by decide)
  | hex word => exact quoted about _ _ (by decide) (by decide)
  | unknown word => exact quoted about _ _ (by decide) (by decide)
  | refused status => exact about.elim
  | _ => decide

namespace Reply

theorem isLine_ok {result : Text} (line : result.isLine = true) :
    (Reply.text (.ok result)).isLine = true := by
  cases result with
  | nil => decide
  | cons octet rest =>
    show (Text.ofString "OK " ++ (octet :: rest)).isLine = true
    rw [Text.isLine_append, line]
    decide

theorem isLine_error {complaint : Complaint} (line : complaint.text.isLine = true) :
    (Reply.text (.error complaint)).isLine = true := by
  show (Text.ofString "ERR " ++ complaint.text).isLine = true
  rw [Text.isLine_append, line]
  decide

/-- A reply begins with `OK` or with `ERR` and a blank. -/
theorem isPrefix_text (reply : Reply) :
    Text.ofString "OK" <+: reply.text ∨ Text.ofString "ERR " <+: reply.text := by
  cases reply with
  | ok result => exact Or.inl (isPrefix_text_ok result)
  | error complaint => exact Or.inr (isPrefix_text_error complaint)

end Reply

/-! ### The console -/

/-- No supplier fails, and no observer does. -/
structure Dictionary.Unfailing (dictionary : Dictionary) : Prop where
  suppliers : ∀ supplier ∈ dictionary.suppliers, ∀ target fault, supplier target ≠ .fail fault
  observers : ∀ observer ∈ dictionary.observers, ∀ target data,
    (observer target data).fault = none

namespace Dictionary.Unfailing

variable {dictionary : Dictionary}

theorem supplied {suppliers : List Supplier} {target : Target}
    (unfailing : ∀ supplier ∈ suppliers, ∀ target fault, supplier target ≠ .fail fault)
    (fault : Fault) : Dictionary.supplied suppliers target ≠ .fail fault := by
  intro failed
  obtain ⟨before, supplier, after, split, fails, -⟩ := supplied_eq_fail_iff.mp failed
  have member : supplier ∈ suppliers := split ▸ List.mem_append_cons_self
  exact unfailing supplier member target fault fails

/-- A read is answered, unless a supplier fails. -/
theorem read (unfailing : dictionary.Unfailing) (target : Target) (checked : Bool) :
    ∃ reading, (dictionary.read target checked).outcome = .ok reading := by
  have entry (entry : Entry) :
      ∃ reading, dictionary.readEntry target entry checked = .ok reading := by
    unfold readEntry
    split
    · exact ⟨_, rfl⟩
    split
    · next fault supplies => exact absurd supplies (supplied unfailing.suppliers fault)
    all_goals exact ⟨_, rfl⟩
  unfold Dictionary.read
  cases dictionary.find? target with
  | none => exact ⟨_, rfl⟩
  | some found => exact entry found

/-- A write is answered, unless an observer fails. -/
theorem write (unfailing : dictionary.Unfailing) (target : Target) (data : List UInt8)
    (checked : Bool) :
    (dictionary.write target data checked).store.Unfailing ∧
      ∃ status, (dictionary.write target data checked).outcome = .ok status := by
  rcases dictionary.write_cases target data checked with
    ⟨kept, status, -, outcome⟩ | ⟨entry, -, -, stores⟩
  · rw [kept]
    exact ⟨unfailing, status, outcome⟩
  · have shown : (present dictionary.observers 0 target data).1 = none :=
      present_fault_iff.mpr fun observer member => unfailing.observers observer member target data
    rw [stores]
    refine ⟨⟨unfailing.suppliers, unfailing.observers⟩, .ok, ?_⟩
    unfold store
    simp only [shown]

end Dictionary.Unfailing

namespace Station

variable {station : Station Dictionary}

theorem isLine_readReply (reading : Reading) : (Reply.text (readReply reading)).isLine = true := by
  unfold readReply
  split
  · have solid := Hex.solid_of_decode? (Hex.decode?_encode (reading.into []))
    exact Reply.isLine_ok (Text.isLine_of_solid solid)
  · exact Reply.isLine_error (Status.isLine_text _)

theorem isLine_writeReply (status : Status) : (Reply.text (writeReply status)).isLine = true := by
  unfold writeReply
  split
  · decide
  · exact Reply.isLine_error (Status.isLine_text _)

/-- **The console answers every line with one line**, unless a callback of the dictionary fails. -/
theorem answer_isLine (unfailing : station.store.Unfailing) (line : Text) :
    ∃ reply : Reply, (station.answer line).reply = .ok reply.text ∧ reply.text.isLine = true ∧
      (station.answer line).station.store.Unfailing := by
  cases read : Order.parse line with
  | error complaint =>
    obtain ⟨same, told, -⟩ := station.answer_of_complaint read
    have about := Complaint.isLine_text (Order.isAbout_words read)
    rw [same]
    exact ⟨_, told, Reply.isLine_error about, unfailing⟩
  | ok order =>
    have carried := station.answer_of_order read
    rw [carried]
    cases order with
    | quit => exact ⟨.ok [], rfl, by decide, unfailing⟩
    | status =>
      refine ⟨.ok station.node.statusText, rfl, Reply.isLine_ok ?_, unfailing⟩
      rw [Node.statusText_eq]
      exact NodeStatus.isLine_text _
    | level level => exact ⟨.ok [], rfl, by decide, unfailing⟩
    | abort code => exact ⟨.ok [], rfl, by decide, unfailing⟩
    | get target =>
      obtain ⟨reading, outcome⟩ := unfailing.read target false
      refine ⟨readReply reading, ?_, isLine_readReply reading, unfailing⟩
      exact congrArg (Except.map fun reading => (readReply reading).text) outcome
    | set target data =>
      obtain ⟨kept, status, outcome⟩ := unfailing.write target data false
      refine ⟨writeReply status, ?_, isLine_writeReply status, kept⟩
      exact congrArg (Except.map fun status => (writeReply status).text) outcome

/-- The console as what answers lines. -/
def answering : Exchange.Answering (Station Dictionary) := fun station line =>
  ((station.answer line).station, (station.answer line).reply.toOption)

/-- The console as a handler. -/
def handle (station : Station Dictionary) (line : Text) : Station Dictionary × Text :=
  ((station.answer line).station, (station.answer line).reply.toOption.getD [])

theorem behaves_answering :
    Exchange.Behaves answering handle fun station => station.store.Unfailing where
  answers station unfailing line := by
    obtain ⟨reply, told, -⟩ := answer_isLine unfailing line
    rw [answering, Exchange.steady, handle, told]
    rfl
  keeps station unfailing line := by
    obtain ⟨-, -, -, kept⟩ := answer_isLine unfailing line
    exact kept

end Station

/-- **One line in, one line out.** A service puts one line of each connection to its handler, once
and in order, up to the first one that is exactly `QUIT`, and sends one answer back to each. However
the octets are cut on their way, in both directions the line is what stands before the first line
feed, less one carriage return: `Reads` says so of the octets. The console answers every line with
`OK` or `ERR` and with one line, if no callback of its dictionary fails. So a text without a line
feed, and without a carriage return at its end, is put to the console as it is, and the answer comes
back as it is. -/
theorem Exchange.line_for_line {κ : Type} (handler : κ → Text → κ × Text) (state : κ)
    {station : Station Dictionary} (unfailing : station.store.Unfailing) :
    (∀ connections : List (List (List UInt8)),
        let lines := connections.map fun pieces => lineOf pieces.flatten
        let consulted := consult handler state (served lines)
        serve (steady handler) state connections =
          (consulted.1, consulted.2.map fun answer => some (reply answer))) ∧
      (∀ (line answer : Text) (arrived : List (List UInt8)),
        (Carries (request line) arrived → gather [] arrived = lineOf line) ∧
          (Carries (reply answer) arrived → gather [] arrived = lineOf answer)) ∧
      (∀ (service : Service κ) (path line : Text), service.places.contact path line = .ok () →
        (service.request (steady handler) path line).2.reply =
          some (lineOf (handler service.state (lineOf line)).2)) ∧
      (∀ line : Text, ∃ answer, (station.answer line).reply = .ok answer ∧
        (Text.ofString "OK" <+: answer ∨ Text.ofString "ERR " <+: answer) ∧
        Text.newline ∉ answer ∧ Text.carriageReturn ∉ answer) ∧
      (∀ text : Text, Text.newline ∉ text → text.getLast? ≠ some Text.carriageReturn →
        ∃ answer, (station.answer text).reply = .ok answer ∧
          (∀ arrived, Carries (request text) arrived → gather [] arrived = text ∧
            connect Station.answering station arrived =
              ⟨(station.answer text).station, some (reply answer), text != quitLine⟩) ∧
          (∀ arrived, Carries (reply answer) arrived → gather [] arrived = answer) ∧
          ∀ (service : Service (Station Dictionary)) (path : Text), service.state = station →
            service.places.contact path text = .ok () →
              (service.request Station.answering path text).2.reply = some answer) ∧
      (∀ connections : List (List (List UInt8)),
        let lines := connections.map fun pieces => lineOf pieces.flatten
        let consulted := consult Station.handle station (served lines)
        serve Station.answering station connections =
          (consulted.1, consulted.2.map fun answer => some (reply answer))) ∧
      (∀ (octets : List UInt8) (line : Text), lineOf octets = line ↔ Reads octets line) ∧
      (∀ (text rest : List UInt8) (arrived : List (List UInt8)), 10 ∉ text →
        arrived.flatten = text ++ [13, 10] ++ rest ∨ arrived.flatten = text ++ [13] →
          connect (steady handler) state arrived =
            ⟨(handler state text).1, some ((handler state text).2 ++ [10]), text != quitLine⟩) ∧
      (∀ (service : Service κ) (path asked text : Text),
        service.places.contact path asked = .ok () → 10 ∉ text →
        (handler service.state (lineOf asked)).2 = text ++ [13] →
          (service.request (steady handler) path asked).2.reply = some text) := by
  have answers (line : Text) : ∃ answer, (station.answer line).reply = .ok answer ∧
      (Text.ofString "OK" <+: answer ∨ Text.ofString "ERR " <+: answer) ∧
      Text.newline ∉ answer ∧ Text.carriageReturn ∉ answer := by
    obtain ⟨reply, told, line, -⟩ := Station.answer_isLine unfailing line
    exact ⟨reply.text, told, reply.isPrefix_text, Text.isLine_iff.mp line⟩
  refine ⟨fun connections => (behaves_steady handler).serve trivial connections,
    fun line answer arrived => ⟨fun carries => ?_, fun carries => ?_⟩,
    fun service path line found => (behaves_steady handler).request trivial found, answers,
    fun text whole bare => ?_,
    fun connections => Station.behaves_answering.serve unfailing connections,
    fun octets line => lineOf_eq_iff, fun text rest arrived clean stands => ?_,
    fun service path asked text found clean told => ?_⟩
  · rw [carries.gather, lineOf_request]
  · rw [carries.gather, lineOf_reply]
  · obtain ⟨answer, told, -, plain, clean⟩ := answers text
    have arrives : lineOf text = text := lineOf_eq_self whole bare
    have returns : lineOf answer = answer :=
      lineOf_eq_self plain fun last => clean (List.mem_of_getLast? last)
    have handled : Station.handle station text = ((station.answer text).station, answer) := by
      rw [Station.handle, told]
      rfl
    refine ⟨answer, told, fun arrived carries => ⟨?_, ?_⟩, fun arrived carries => ?_,
      fun service path same found => ?_⟩
    · rw [carries.gather, lineOf_request, arrives]
    · have connected := Station.behaves_answering.connect unfailing arrived
      rw [carries.flatten, lineOf_request, arrives] at connected
      simp only [handled] at connected
      exact connected
    · rw [carries.gather, lineOf_reply, returns]
    · subst same
      have asked := Station.behaves_answering.request unfailing found
      rw [arrives, handled, returns] at asked
      exact asked
  · have line : lineOf arrived.flatten = text := by
      rcases stands with fed | unfed
      · rw [fed, List.append_assoc]
        exact lineOf_returned clean (Or.inr ⟨rest, rfl⟩)
      · exact lineOf_returned clean (Or.inl unfed)
    rw [(behaves_steady handler).connect trivial arrived, line]
    rfl
  · have asked := (behaves_steady handler).request trivial found
    rw [told, lineOf_returned clean (Or.inl rfl)] at asked
    exact asked

/-- A line to read an entry arrives in two pieces, at a console that reports what is written; and
once more behind a carriage return, which is cut off from the line feed. -/
theorem Exchange.line_for_line_cut :
    let station : Station Dictionary :=
      ⟨.new 1, (Dictionary.single ⟨0x2000, 1⟩ [9]).observe (.on ⟨0x2000, none⟩ none), .info⟩
    let line := Text.ofString "GET 0x2000 1"
    let arrived := ["GET 0x20", "00 1\n"].map Text.ofString
    let returned := ["GET 0x2000 1\r", "\nQUIT\n"].map Text.ofString
    gather [] arrived = line ∧
      (connect Station.answering station arrived).sent = some (Text.ofString "OK 09\n") ∧
      gather [] returned = line ∧
      (connect (steady Station.handle) station returned).sent =
        some (Text.ofString "OK 09\n") := by
  intro station line arrived returned
  have unfailing : station.store.Unfailing := by
    refine ⟨List.forall_mem_nil _, List.forall_mem_singleton.mpr fun target data => ?_⟩
    exact ite_self none
  obtain ⟨-, -, -, -, texts, -, told, trims, -⟩ := line_for_line Station.handle station unfailing
  obtain ⟨answer, answered, arrives, -, -⟩ := texts line (by decide) (by decide)
  obtain ⟨gathered, connected⟩ := arrives arrived ⟨[], by decide⟩
  have reads : (station.answer line).reply = .ok (Text.ofString "OK 09") := rfl
  rw [reads] at answered
  rw [← Except.ok.inj answered] at connected
  have trimmed := trims line (Text.ofString "QUIT\n") returned (by decide) (Or.inl (by decide))
  have cut : lineOf returned.flatten = line :=
    (told _ _).mpr ⟨line ++ [13], by decide, Or.inr ⟨Text.ofString "QUIT\n", by decide⟩, Or.inl rfl⟩
  refine ⟨gathered, congrArg Connection.sent connected, ?_, ?_⟩
  · exact (gather_eq_lineOf [] returned).trans cut
  · rw [trimmed]
    rfl

end Canopen
