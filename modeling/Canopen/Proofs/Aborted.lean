/-
**What an aborted request leaves behind.**

* `Dictionary.Strands`: an entry takes the value of a call, and then an observer fails at it.
* `Dictionary.write_strands`, `Dictionary.write_of_not_strands`: such a write fails, but its value
  stays; any other one is met, or changes nothing.
* `Server.receive_aborted`: **a request that is answered with an abort leaves the dictionary as it
  is**, unless its value is stranded; that one is the only value that it leaves behind.
-/

import Canopen.Proofs.Entries
import Canopen.Proofs.Replies
import Canopen.Proofs.Turns

namespace Canopen

namespace Dictionary

variable {dictionary : Dictionary} {target : Target} {data : List UInt8} {call : WriteCall}

/-- An entry takes the value of a call, and then an observer fails at it. -/
structure Strands (dictionary : Dictionary) (call : WriteCall) : Prop where
  taken : ∃ entry, dictionary.find? call.target = some entry ∧
    writeStatus entry call.data call.checked = .ok
  failed : ∃ observer ∈ dictionary.observers, (observer call.target call.data).fault ≠ none

/-- **A write fails at its observers when the value is in its entry already**, and it stays. -/
theorem write_strands (strands : dictionary.Strands call) :
    let written := dictionary.write call.target call.data call.checked
    written.store = dictionary.set call.target call.data ∧
      ∃ fault, written.outcome = .error fault := by
  obtain ⟨⟨entry, found, accepted⟩, observer, member, fails⟩ := strands
  have stores : dictionary.write call.target call.data call.checked =
      dictionary.store call.target call.data := write_of_accepted found accepted
  intro written
  refine ⟨congrArg Call.store stores, ?_⟩
  cases shown : (present dictionary.observers 0 call.target call.data).1 with
  | none => exact absurd (present_fault_iff.mp shown observer member) fails
  | some fault =>
    refine ⟨fault, (congrArg Call.outcome stores).trans ?_⟩
    unfold store
    simp only [shown]

/-- Any other write is met, or changes nothing. -/
theorem write_of_not_strands (kept : ¬ dictionary.Strands call) :
    let written := dictionary.write call.target call.data call.checked
    written.store = dictionary ∨ written.outcome = .ok .ok := by
  intro written
  rcases dictionary.write_cases call.target call.data call.checked with
    ⟨refused, -⟩ | ⟨entry, found, accepted, stores⟩
  · exact Or.inl refused
  · refine Or.inr ((congrArg Call.outcome stores).trans ?_)
    have shown : (present dictionary.observers 0 call.target call.data).1 = none := by
      refine present_fault_iff.mpr fun observer member => ?_
      refine Decidable.byContradiction fun fails => ?_
      exact kept ⟨⟨entry, found, accepted⟩, observer, member, fails⟩
    unfold store
    simp only [shown]

end Dictionary

/-- The response to a value that is stored is no abort. -/
theorem Session.Stores.isAbort_eq_false {session : Session} {request : Request} {target : Target}
    {data : List UInt8} {accepted : Response}
    (stores : session.Stores request target data accepted) : accepted.isAbort = false := by
  cases stores <;> rfl

namespace Server

variable {server : Server} {dictionary : Dictionary} {frame : Frame} {time : Nat}
  {target : Target} {code : UInt32}

/-- A request whose value is stranded is answered with a general abort, and the value stays. -/
theorem receive_strands {call : WriteCall} (asked : call ∈ server.asks (.frame frame time))
    (strands : dictionary.Strands call) :
    let reaction := server.receive dictionary frame time
    reaction.store = dictionary.set call.target call.data ∧
      Event.responses reaction.events = [.abort call.target 0x08000000] := by
  change call ∈ (server.session.plan (server.session.interpret frame.octets)).writes at asked
  generalize planned : server.session.plan (server.session.interpret frame.octets) = plan at asked
  obtain ⟨-, kept, responses⟩ := receive_run dictionary time planned
  cases plan with
  | finish move => exact absurd asked List.not_mem_nil
  | read session next => exact absurd asked List.not_mem_nil
  | write session notices data next =>
    obtain rfl := List.mem_singleton.mp asked
    obtain ⟨stays, fault, failed⟩ := Dictionary.write_strands strands
    obtain ⟨-, told⟩ := Plan.run_write_fault failed
    exact ⟨kept.trans ((Plan.store_settle ..).trans stays), responses.trans told⟩

/-- **An aborted request changes nothing**, unless its value is stranded. -/
theorem receive_not_strands
    (aborted : .abort target code ∈ Event.responses (server.receive dictionary frame time).events)
    (kept : ∀ call ∈ server.asks (.frame frame time), ¬ dictionary.Strands call) :
    (server.receive dictionary frame time).store = dictionary := by
  have stores := Session.stores_plan server.session frame.octets
  change ∀ call ∈ (server.session.plan (server.session.interpret frame.octets)).writes, _ at kept
  generalize planned : server.session.plan (server.session.interpret frame.octets) = plan
    at kept stores
  obtain ⟨-, leads, responses⟩ := receive_run dictionary time planned
  cases plan with
  | finish move => exact leads
  | read session next => exact leads.trans (Plan.store_settle ..)
  | write session notices data next =>
    rcases Dictionary.write_of_not_strands (kept _ List.mem_cons_self) with same | met
    · exact leads.trans ((Plan.store_settle ..).trans same)
    · -- A write that is met is answered with success, and not with an abort.
      obtain ⟨accepted, holds, answers⟩ := stores
      have told := (answers .ok).2
      rw [if_pos rfl] at told
      rw [responses.trans ((Plan.run_write met).2.trans told)] at aborted
      have plain := holds.isAbort_eq_false
      rw [← List.mem_singleton.mp aborted] at plain
      exact absurd plain.symm Bool.false_ne_true

/-- **What an aborted request leaves behind.** It leaves the dictionary as it is, unless it asks to
write a value that its entry takes before an observer fails; then this value stays, and the client
is told of a general failure. -/
theorem receive_aborted
    (aborted : .abort target code ∈ Event.responses (server.receive dictionary frame time).events) :
    let reaction := server.receive dictionary frame time
    (∀ call ∈ server.asks (.frame frame time), dictionary.Strands call →
        reaction.store = dictionary.set call.target call.data ∧
          Event.responses reaction.events = [.abort call.target 0x08000000]) ∧
      ((∀ call ∈ server.asks (.frame frame time), ¬ dictionary.Strands call) →
        reaction.store = dictionary) :=
  ⟨fun _ asked strands => receive_strands asked strands, receive_not_strands aborted⟩

/-- A value that an observer fails at stays in its entry. -/
theorem receive_aborted_observed :
    let dictionary := (Dictionary.single ⟨0x2000, 1⟩ [9]).observe
      (.on ⟨0x2000, none⟩ (some .bare))
    let reaction := (new 0x582).receive dictionary (Request.expedited ⟨0x2000, 1⟩ [1]).frame 0
    .abort ⟨0x2000, 1⟩ 0x08000000 ∈ Event.responses reaction.events ∧
      reaction.store = dictionary.set ⟨0x2000, 1⟩ [1] := by
  intro dictionary reaction
  have answer : Event.responses reaction.events = [.abort ⟨0x2000, 1⟩ 0x08000000] := by decide
  have aborted : .abort ⟨0x2000, 1⟩ 0x08000000 ∈ Event.responses reaction.events := by
    rw [answer]
    exact List.mem_cons_self
  have strands : dictionary.Strands ⟨⟨0x2000, 1⟩, [1], true⟩ :=
    ⟨⟨_, rfl, by decide⟩, _, List.mem_cons_self, by decide⟩
  exact ⟨aborted, ((receive_aborted aborted).1 _ List.mem_cons_self strands).1⟩

/-- A request that is aborted because an observer fails does not leave its entry as it was. -/
theorem receive_aborted_not_always_kept :
    ¬ ∀ (dictionary : Dictionary) (frame : Frame) (target : Target) (code : UInt32),
      let reaction := (new 0x582).receive dictionary frame 0
      .abort target code ∈ Event.responses reaction.events →
        ∀ place, reaction.store.find? place = dictionary.find? place := by
  intro always
  have same := always
    ((Dictionary.single ⟨0x2000, 1⟩ [9]).observe (.on ⟨0x2000, none⟩ (some .bare)))
    (Request.expedited ⟨0x2000, 1⟩ [1]).frame ⟨0x2000, 1⟩ 0x08000000 (by decide) ⟨0x2000, 1⟩
  exact absurd same (by decide)

end Server

end Canopen
