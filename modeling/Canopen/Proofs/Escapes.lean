/-
**A callback that fails leaves a line of the console without an answer.**

* `Dictionary.Fails`: a callback fails at an order, and no other one stands in its way.
* `Dictionary.left`: what such an order leaves behind.
* `Dictionary.read_eq_error_iff`, `Dictionary.write_eq_error_iff`: reads and writes of an operator
  fail exactly with their callbacks.
* `Station.FailsAt`: a callback fails at the order that a line is read as.
* `Station.answer_cases_fails`: **a line is answered with one line, or a callback fails.**
* `Station.Attends`: lines that are due, and what is sent back for them.
* `Station.attends_serve`: **the service answers the lines that are due, up to the first one at
  which a callback fails**, and is gone behind it.
-/

import Canopen.Proofs.Endings

namespace Canopen

/-! ### The dictionary -/

namespace Dictionary

/-- A callback fails at an order. -/
inductive Fails (dictionary : Dictionary) : Order → Fault → Prop
  /-- A supplier fails at an entry, before any other has something to say about it. -/
  | get {target : Target} {entry : Entry} {before after : List Supplier} {supplier : Supplier}
      {fault : Fault} (found : dictionary.find? target = some entry)
      (suppliers : dictionary.suppliers = before ++ supplier :: after)
      (silent : ∀ earlier ∈ before, earlier target = .pass)
      (fails : supplier target = .fail fault) : Fails dictionary (.get target) fault
  /-- An observer is the first to fail at a value that an entry takes. -/
  | set {target : Target} {data : List UInt8} {entry : Entry} {before after : List Observer}
      {observer : Observer} {fault : Fault} (found : dictionary.find? target = some entry)
      (admits : entry.Admits data)
      (observers : dictionary.observers = before ++ observer :: after)
      (unharmed : ∀ earlier ∈ before, (earlier target data).fault = none)
      (fails : (observer target data).fault = some fault) :
      Fails dictionary (.set target data) fault

/-- What an order that fails leaves behind: a value that is shown is in its entry already. -/
def left (dictionary : Dictionary) : Order → Dictionary
  | .set target data => dictionary.set target data
  | _ => dictionary

variable {dictionary : Dictionary} {target : Target} {data : List UInt8} {fault : Fault}

theorem readEntry_eq_error_iff {entry : Entry} :
    dictionary.readEntry target entry false = .error fault ↔
      supplied dictionary.suppliers target = .fail fault := by
  unfold readEntry
  cases supplied dictionary.suppliers target with
  | pass => cases entry.value <;> exact iff_of_false nofun nofun
  | value octets => exact iff_of_false nofun nofun
  | fail other =>
    exact ⟨fun same => congrArg Supply.fail (Except.error.inj same), fun same =>
      congrArg Except.error (Supply.fail.inj same)⟩

/-- **A read of an operator fails** exactly if a supplier does. -/
theorem read_eq_error_iff :
    (dictionary.read target false).outcome = .error fault ↔
      dictionary.Fails (.get target) fault := by
  constructor
  · intro failed
    unfold read at failed
    cases found : dictionary.find? target with
    | none =>
      rw [found] at failed
      exact absurd failed nofun
    | some entry =>
      rw [found] at failed
      obtain ⟨before, supplier, after, suppliers, fails, silent⟩ :=
        supplied_eq_fail_iff.mp (readEntry_eq_error_iff.mp failed)
      exact .get found suppliers silent fails
  · rintro (⟨found, suppliers, silent, fails⟩ | _)
    unfold read
    rw [found]
    exact readEntry_eq_error_iff.mpr
      (supplied_eq_fail_iff.mpr ⟨_, _, _, suppliers, fails, silent⟩)

/-- **A write of an operator fails** exactly if an observer does. -/
theorem write_eq_error_iff :
    (dictionary.write target data false).outcome = .error fault ↔
      dictionary.Fails (.set target data) fault := by
  constructor
  · intro failed
    rcases dictionary.write_cases target data false with
      ⟨-, status, -, outcome⟩ | ⟨entry, found, accepted, stores⟩
    · exact absurd (outcome.symm.trans failed) nofun
    · rw [stores] at failed
      obtain ⟨before, observer, after, observers, fails, unharmed⟩ :=
        store_eq_error_iff.mp failed
      exact .set found (writeStatus_eq_ok_iff.mp accepted) observers unharmed fails
  · rintro (_ | ⟨found, admits, observers, unharmed, fails⟩)
    rw [write_of_accepted found (writeStatus_eq_ok_iff.mpr admits)]
    exact store_eq_error_iff.mpr ⟨_, _, _, observers, fails, unharmed⟩

/-- A value that an observer fails at is in its entry. -/
theorem store_write_of_fails (fails : dictionary.Fails (.set target data) fault) :
    (dictionary.write target data false).store = dictionary.set target data := by
  cases fails with
  | set found admits => rw [write_of_accepted found (writeStatus_eq_ok_iff.mpr admits), store]

end Dictionary

/-! ### The console -/

namespace Station

/-- A callback fails at the order that a line is read as. -/
structure FailsAt (station : Station Dictionary) (line : Text) (order : Order) (fault : Fault) :
    Prop where
  reads : Order.Reads line.words order
  fails : station.store.Fails order fault

variable {station : Station Dictionary} {line : Text} {order : Order} {fault : Fault}

/-- A call leads to an answer of one line, unless it fails. -/
theorem conclude_cases {α : Type} {call : Call Dictionary α} {reply : α → Reply}
    (error_iff : ∀ fault, call.outcome = .error fault ↔ station.store.Fails order fault)
    (isLine : ∀ answer, (reply answer).text.isLine = true) :
    (∃ fault, station.store.Fails order fault ∧
        (station.conclude call reply).reply = .error fault) ∨
      (¬ ∃ fault, station.store.Fails order fault) ∧
        ∃ told : Reply, (station.conclude call reply).reply = .ok told.text ∧
          told.text.isLine = true := by
  simp only [← error_iff]
  unfold conclude
  cases call.outcome with
  | error fault => exact .inl ⟨fault, rfl, rfl⟩
  | ok answer => exact .inr ⟨nofun, reply answer, rfl, isLine answer⟩

/-- **An order is answered with one line, unless a callback fails at it.** -/
theorem obey_cases (station : Station Dictionary) (order : Order) :
    (∃ fault, station.store.Fails order fault ∧ (station.obey order).reply = .error fault) ∨
      (¬ ∃ fault, station.store.Fails order fault) ∧
        ∃ reply : Reply, (station.obey order).reply = .ok reply.text ∧
          reply.text.isLine = true := by
  cases order with
  | get target => exact conclude_cases (fun _ => Dictionary.read_eq_error_iff) isLine_readReply
  | set target data =>
    exact conclude_cases (fun _ => Dictionary.write_eq_error_iff) isLine_writeReply
  | status =>
    refine .inr ⟨nofun, .ok station.node.statusText, rfl, Reply.isLine_ok ?_⟩
    rw [Node.statusText_eq]
    exact NodeStatus.isLine_text _
  | _ => exact .inr ⟨nofun, .ok [], rfl, by decide⟩

/-- What an order leaves behind that a callback fails at. -/
theorem obey_of_fails (fails : station.store.Fails order fault) :
    (station.obey order).station = { station with store := station.store.left order } := by
  cases order with
  | get target => rfl
  | set target data =>
    exact congrArg (fun store => { station with store := store })
      (Dictionary.store_write_of_fails fails)
  | _ => exact nomatch fails

/-- **A line is answered with one line, or a callback fails**, and then it has no answer. -/
theorem answer_cases_fails (station : Station Dictionary) (line : Text) :
    (∃ order fault, station.FailsAt line order fault ∧
        (station.answer line).reply = .error fault ∧
        (station.answer line).station = { station with store := station.store.left order }) ∨
      (¬ ∃ order fault, station.FailsAt line order fault) ∧
        ∃ reply : Reply, (station.answer line).reply = .ok reply.text ∧
          reply.text.isLine = true := by
  cases read : Order.parse line with
  | error complaint =>
    obtain ⟨-, told, -⟩ := station.answer_of_complaint read
    refine .inr ⟨fun ⟨order, fault, failing⟩ => ?_, _, told, Reply.isLine_error ?_⟩
    · exact nomatch read.symm.trans (Order.parse_eq_ok_iff.mpr failing.reads)
    · exact Complaint.isLine_text (Order.isAbout_words read)
  | ok order =>
    have reads : Order.Reads line.words order := Order.parse_eq_ok_iff.mp read
    rw [station.answer_of_order read]
    rcases station.obey_cases order with ⟨fault, fails, silent⟩ | ⟨unharmed, answered⟩
    · exact .inl ⟨order, fault, ⟨reads, fails⟩, silent, obey_of_fails fails⟩
    · refine .inr ⟨fun ⟨other, fault, failing⟩ => unharmed ⟨fault, ?_⟩, answered⟩
      have same := read.symm.trans (Order.parse_eq_ok_iff.mpr failing.reads)
      rw [Except.ok.inj same]
      exact failing.fails

/-! ### The service -/

/-- Lines that are due at a console, in order, and what is sent back for them. -/
inductive Attends : Station Dictionary → List Text → List (Option (List UInt8)) → Prop
  | done (station : Station Dictionary) : Attends station [] []
  /-- No callback fails, the line is answered, and the next one is due. -/
  | answered {station : Station Dictionary} {line : Text} {later : List Text}
      {sent : List (Option (List UInt8))} {reply : Reply}
      (unharmed : ¬ ∃ order fault, station.FailsAt line order fault)
      (told : (station.answer line).reply = .ok reply.text)
      (rest : Attends (station.answer line).station later sent) :
      Attends station (line :: later) (some (Exchange.reply reply.text) :: sent)
  /-- A callback fails: nothing is sent back, and the service is gone. -/
  | broken {station : Station Dictionary} {line : Text} {order : Order} {fault : Fault}
      (failing : station.FailsAt line order fault) (later : List Text) :
      Attends station (line :: later) [none]

theorem connect_answering (station : Station Dictionary) (pieces : List (List UInt8)) :
    let line := Exchange.lineOf pieces.flatten
    let answer := (station.answer line).reply.toOption
    Exchange.connect answering station pieces =
      ⟨(station.answer line).station, answer.map Exchange.reply,
        answer.isSome && line != Exchange.quitLine⟩ :=
  Exchange.connect_eq Station.answering station pieces

/-- **The service attends to the lines that are due**, up to the first one at which a callback
fails. -/
theorem attends_serve (station : Station Dictionary) (connections : List (List (List UInt8))) :
    let due := Exchange.served (connections.map fun pieces => Exchange.lineOf pieces.flatten)
    station.Attends due (Exchange.serve answering station connections).2 := by
  induction connections generalizing station with
  | nil => exact .done station
  | cons pieces later ih =>
    intro due
    let line := Exchange.lineOf pieces.flatten
    have first : due = _ := Exchange.served_cons line _
    have connected := station.connect_answering pieces
    have goesOn := congrArg Exchange.Connection.goesOn connected
    rw [first]
    rcases station.answer_cases_fails line with
      ⟨order, fault, failing, silent, -⟩ | ⟨unharmed, reply, told, -⟩
    · simp only [line, silent] at connected goesOn
      rw [Exchange.serve_of_ends goesOn, connected]
      exact .broken failing _
    · simp only [line, told] at connected goesOn
      by_cases quits : line = Exchange.quitLine
      · rw [if_pos quits, Exchange.serve_of_ends (goesOn.trans (bne_eq_false_iff_eq.mpr quits)),
          connected]
        exact .answered unharmed told (.done _)
      · rw [if_neg quits, Exchange.serve_of_goesOn (goesOn.trans (bne_iff_ne.mpr quits)), connected]
        exact .answered unharmed told (ih _)

/-- **The console answers every line at which no callback fails.** Whatever the node is at, a line
is answered with one line, `OK` or `ERR` in front, or it is read as an order at which a supplier or
an observer fails. Then the fault leaves the console, and there is no answer; a value that the
observer failed at is kept, and nothing else changes. So the service attends to the lines that are
due up to the first such line, and is gone behind it. -/
theorem answer_or_fails (station : Station Dictionary) :
    (∀ line,
      (∃ order fault, station.FailsAt line order fault ∧
          (station.answer line).reply = .error fault ∧
          (station.answer line).station = { station with store := station.store.left order }) ∨
        (¬ ∃ order fault, station.FailsAt line order fault) ∧
          ∃ answer, (station.answer line).reply = .ok answer ∧ answer.isLine = true ∧
            (Text.ofString "OK" <+: answer ∨ Text.ofString "ERR " <+: answer)) ∧
      ∀ connections : List (List (List UInt8)),
        let due := Exchange.served (connections.map fun pieces => Exchange.lineOf pieces.flatten)
        station.Attends due (Exchange.serve answering station connections).2 :=
  ⟨fun line => (station.answer_cases_fails line).imp_right fun ⟨unharmed, reply, told, isLine⟩ =>
    ⟨unharmed, reply.text, told, isLine, reply.isPrefix_text⟩, station.attends_serve⟩

/-- A line to read an entry whose supplier fails has no answer. -/
theorem answer_not_always :
    ¬ ∀ (station : Station Dictionary) (line : Text),
      ∃ answer, (station.answer line).reply = .ok answer := by
  intro always
  let dictionary := (Dictionary.single ⟨0x2000, 1⟩ [9]).supply
    (.on ⟨0x2000, none⟩ (.fail (.described (Text.ofString "boom"))))
  obtain ⟨answer, told⟩ := always ⟨.new 3, dictionary, .info⟩ (Text.ofString "GET 0x2000 1")
  have failed : (Station.answer ⟨.new 3, dictionary, .info⟩ (Text.ofString "GET 0x2000 1")).reply =
      .error (.described (Text.ofString "boom")) := rfl
  exact nomatch failed.symm.trans told

end Station

end Canopen
