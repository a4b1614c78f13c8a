/-
**What a client can neither change nor learn.**

* `Entry.veiled`: an entry as far as a client may see it.
* `Dictionary.Alike`: two dictionaries that differ at most in values that no client may read. Reads
  and writes answer alike over them, and leave them alike (`Alike.read`, `Alike.write`).
* `Server.run_alike`: **two runs over them differ in nothing**, by induction on the operations.
* `Server.run_respects_rights`: no client changes an entry that it may not write, and no client
  learns anything of a value that it may not read, not even whether there is one.
-/

import Canopen.Proofs.Entries

namespace Canopen

namespace Entry

/-- An entry as far as a client may see it. -/
def veiled (entry : Entry) : Entry :=
  if entry.access.readable then entry else { entry with value := none }

theorem access_veiled (entry : Entry) : entry.veiled.access = entry.access := by
  unfold veiled
  split <;> rfl

/-- Entries that look the same to a client have all in common but a value that it may not read. -/
theorem eq_of_veiled {one two : Entry} (same : one.veiled = two.veiled) :
    one = { two with value := one.value } ∧
      (one.access.readable = true → one.value = two.value) := by
  have access : one.access = two.access := by
    rw [← access_veiled one, same, access_veiled]
  unfold veiled at same
  cases readable : one.access.readable with
  | true =>
    have also : two.access.readable = true := access ▸ readable
    rw [if_pos readable, if_pos also] at same
    subst same
    exact ⟨rfl, fun _ => rfl⟩
  | false =>
    have neither : ¬ two.access.readable = true := by
      rw [← access, readable]
      exact Bool.false_ne_true
    rw [readable, if_neg Bool.false_ne_true, if_neg neither] at same
    refine ⟨?_, fun known => absurd known Bool.false_ne_true⟩
    exact congrArg (fun entry => { entry with value := one.value }) same

theorem veiled_congr {one two : Entry} (same : one.veiled = two.veiled) (data : List UInt8) :
    veiled { one with value := some data } = veiled { two with value := some data } := by
  rw [(eq_of_veiled same).1]

end Entry

namespace Dictionary

/-- Two dictionaries that differ at most in values that no client may read. -/
structure Alike (first second : Dictionary) : Prop where
  suppliers : first.suppliers = second.suppliers
  observers : first.observers = second.observers
  entries : ∀ target,
    (first.find? target).map Entry.veiled = (second.find? target).map Entry.veiled

namespace Alike

variable {first second : Dictionary} {target : Target}

/-- An entry is in both dictionaries or in none of them. -/
theorem found (alike : first.Alike second) (target : Target) :
    first.find? target = none ∧ second.find? target = none ∨
      ∃ one two, first.find? target = some one ∧ second.find? target = some two ∧
        one.veiled = two.veiled := by
  have entries := alike.entries target
  cases here : first.find? target with
  | none =>
    rw [here, Option.map_none, eq_comm, Option.map_eq_none_iff] at entries
    exact Or.inl ⟨rfl, entries⟩
  | some one =>
    rw [here, Option.map_some, eq_comm, Option.map_eq_some_iff] at entries
    obtain ⟨two, there, same⟩ := entries
    exact Or.inr ⟨one, two, rfl, there, same.symm⟩

theorem absence (alike : first.Alike second) (target : Target) :
    first.absence target = second.absence target := by
  have known (place : Target) :
      (first.find? place).isSome = (second.find? place).isSome := by
    rw [← Option.isSome_map (f := Entry.veiled), alike.entries, Option.isSome_map]
  have index : first.hasIndex target.index = second.hasIndex target.index := by
    rw [Bool.eq_iff_iff, hasIndex_iff, hasIndex_iff]
    simp only [known]
  rw [Dictionary.absence, index, Dictionary.absence]

/-- **A client reads the same.** -/
theorem read (alike : first.Alike second) (target : Target) :
    (first.read target true).outcome = (second.read target true).outcome := by
  rcases alike.found target with ⟨missing, absent⟩ | ⟨one, two, here, there, same⟩
  · simp only [Dictionary.read, Call.quiet, missing, absent, alike.absence]
  · obtain ⟨form, value⟩ := Entry.eq_of_veiled same
    have access : one.access = two.access := by rw [form]
    simp only [Dictionary.read, Call.quiet, here, there, readEntry, Bool.true_and, access,
      alike.suppliers]
    cases readable : two.access.readable with
    | true =>
      rw [value (access ▸ readable)]
    | false => rfl

/-- **A write is answered the same**, and leaves the dictionaries alike. -/
theorem write (alike : first.Alike second) (target : Target) (data : List UInt8)
    (checked : Bool) :
    let one := first.write target data checked
    let two := second.write target data checked
    one.store.Alike two.store ∧ one.outcome = two.outcome ∧ one.notices = two.notices ∧
      one.observed = two.observed := by
  rcases alike.found target with ⟨missing, absent⟩ | ⟨one, two, here, there, same⟩
  · simp only [Dictionary.write, missing, absent, alike.absence]
    exact ⟨alike, rfl, rfl, rfl⟩
  · have form := (Entry.eq_of_veiled same).1
    have status : writeStatus one data checked = writeStatus two data checked := by
      rw [form]
      rfl
    have size : one.fixedSize = two.fixedSize := by rw [form]
    simp only [Dictionary.write, here, there, status, size]
    cases writeStatus two data checked with
    | ok =>
      simp only [store, alike.observers, and_true]
      refine ⟨alike.suppliers, alike.observers, fun other => ?_⟩
      rw [find?_set, find?_set]
      by_cases self : other = target
      · rw [if_pos self, if_pos self, here, there, Option.map_some, Option.map_some,
          Option.map_some, Option.map_some, Entry.veiled_congr same]
      · rw [if_neg self, if_neg self, alike.entries]
    | _ => exact ⟨alike, rfl, rfl, rfl⟩

end Alike

end Dictionary

/-- Calls that answer and report the same come to the same. -/
theorem Plan.settle_congr {σ α : Type} (session : Session) (events : List Event)
    {first second : Call σ α} (outcome : first.outcome = second.outcome)
    (notices : first.notices = second.notices) (observed : first.observed = second.observed)
    (next : α → Move) :
    (settle session events first next).1 = (settle session events second next).1 := by
  have form : first = ⟨first.store, second.outcome, second.notices, second.observed⟩ := by
    rw [← outcome, ← notices, ← observed]
  rw [form, settle_store]

namespace Server

variable {server : Server} {first second : Dictionary}

theorem run_plan_alike (alike : first.Alike second) (plan : Plan) :
    (plan.run first).1 = (plan.run second).1 ∧ (plan.run first).2.Alike (plan.run second).2 := by
  cases plan with
  | finish move => exact ⟨rfl, alike⟩
  | read session next =>
    refine ⟨Plan.settle_congr _ _ (alike.read session.target) rfl rfl next, ?_⟩
    show (Plan.settle _ _ (first.read session.target true) next).2.Alike
      (Plan.settle _ _ (second.read session.target true) next).2
    rw [Plan.store_settle, Plan.store_settle]
    exact alike
  | write session notices data next =>
    obtain ⟨stores, outcome, reports, observed⟩ := alike.write session.target data true
    refine ⟨Plan.settle_congr _ _ outcome reports observed next, ?_⟩
    show (Plan.settle _ _ (first.write session.target data true) next).2.Alike
      (Plan.settle _ _ (second.write session.target data true) next).2
    rw [Plan.store_settle, Plan.store_settle]
    exact stores

theorem perform_alike (alike : first.Alike second) (server : Server) (operation : Operation) :
    let one := server.perform first operation
    let two := server.perform second operation
    one.server = two.server ∧ one.events = two.events ∧ one.store.Alike two.store := by
  cases operation with
  | frame frame time =>
    obtain ⟨move, stores⟩ :=
      run_plan_alike alike (server.session.plan (server.session.interpret frame.octets))
    simp only [perform, receive, move, true_and]
    exact stores
  | abort code => exact ⟨rfl, rfl, alike⟩
  | upload target => exact ⟨rfl, rfl, alike⟩
  | download target data =>
    obtain ⟨stores, -, reports, observed⟩ := alike.write target data false
    refine ⟨rfl, ?_, stores⟩
    show Event.ofCall (first.write target data false) =
      Event.ofCall (second.write target data false)
    rw [Event.ofCall, reports, observed, Event.ofCall]

/-- **Two runs over dictionaries that are alike differ in nothing**, and leave them alike. -/
theorem run_alike (alike : first.Alike second) (server : Server) (operations : List Operation) :
    let one := server.run first operations
    let two := server.run second operations
    one.server = two.server ∧ one.events = two.events ∧ one.store.Alike two.store := by
  induction operations generalizing server first second with
  | nil => exact ⟨rfl, rfl, alike⟩
  | cons operation later ih =>
    obtain ⟨servers, events, stores⟩ := perform_alike alike server operation
    obtain ⟨last, rest, kept⟩ := ih stores (server.perform first operation).server
    rw [servers] at last rest kept
    simp only [run, servers, events]
    exact ⟨last, congrArg _ rest, kept⟩

/-! ### Entries that a client may not write -/

/-- A client's operation leaves an entry alone that it may not write. -/
theorem perform_keeps_entry (server : Server) {dictionary : Dictionary} {operation : Operation}
    (remote : operation.isLocal = false) {target : Target} {entry : Entry}
    (found : dictionary.find? target = some entry) (fixed : entry.access.writable = false) :
    (server.perform dictionary operation).store.find? target = some entry := by
  rcases server.perform_cases dictionary operation with
    same | ⟨call, asked, other, here, accepted, stored⟩
  · rw [same, found]
  · rw [stored]
    by_cases self : target = call.target
    · subst self
      rw [checked_of_mem_asks remote asked] at accepted
      have writable := Dictionary.writable_of_writeStatus accepted
      obtain rfl := Option.some.inj (found.symm.trans here)
      exact absurd (writable.symm.trans fixed) nofun
    · rw [Dictionary.find?_set_of_ne self, found]

theorem run_keeps_entry (server : Server) {dictionary : Dictionary} {operations : List Operation}
    (remote : ∀ operation ∈ operations, operation.isLocal = false) {target : Target}
    {entry : Entry} (found : dictionary.find? target = some entry)
    (fixed : entry.access.writable = false) :
    (server.run dictionary operations).store.find? target = some entry := by
  induction operations generalizing server dictionary with
  | nil => exact found
  | cons operation later ih =>
    have kept := perform_keeps_entry server (remote operation List.mem_cons_self) found fixed
    exact ih _ (fun other member => remote other (List.mem_cons_of_mem _ member)) kept

/-- **Clients are kept to their rights.** Whatever a client sends and whenever its transfers are
ended on this side, no entry changes that it may not write; and over two dictionaries that differ
at most in values that it may not read, it is sent the same frames. -/
theorem run_respects_rights (server : Server) (operations : List Operation)
    (remote : ∀ operation ∈ operations, operation.isLocal = false) :
    (∀ (dictionary : Dictionary) (target : Target) (entry : Entry),
        dictionary.find? target = some entry → entry.access.writable = false →
          (server.run dictionary operations).store.find? target = some entry) ∧
      ∀ first second : Dictionary, first.Alike second →
        let one := server.run first operations
        let two := server.run second operations
        server.frames one.events = server.frames two.events ∧ one.events = two.events ∧
          one.server = two.server ∧ one.store.Alike two.store := by
  refine ⟨fun dictionary target entry found fixed => run_keeps_entry server remote found fixed, ?_⟩
  intro first second alike one two
  obtain ⟨servers, events, stores⟩ := run_alike alike server operations
  exact ⟨congrArg _ events, events, servers, stores⟩

/-- An entry that a client may not write, and one that it may not read: both are asked for the
wrong way, and the second has a value or none. -/
theorem run_respects_rights_refused :
    let dictionary (hidden : Option (List UInt8)) : Dictionary :=
      ⟨[(⟨0x2000, 1⟩, ⟨[], .constant, 0, 0, some [1]⟩),
        (⟨0x2000, 2⟩, ⟨[], .writeOnly, 0, 0, hidden⟩)], [], []⟩
    let operations : List Operation :=
      [.frame (Request.expedited ⟨0x2000, 1⟩ [7]).frame 0,
        .frame (Request.upload ⟨0x2000, 2⟩).frame 1, .abort 0x08000000]
    let one := (new 0x582).run (dictionary none) operations
    let two := (new 0x582).run (dictionary (some [9, 9])) operations
    one.store.find? ⟨0x2000, 1⟩ = some ⟨[], .constant, 0, 0, some [1]⟩ ∧
      (new 0x582).frames one.events = (new 0x582).frames two.events := by
  intro dictionary operations one two
  have remote : ∀ operation ∈ operations, operation.isLocal = false := by decide
  have alike : (dictionary none).Alike (dictionary (some [9, 9])) := by
    refine ⟨rfl, rfl, fun target => ?_⟩
    by_cases fixed : target = ⟨0x2000, 1⟩
    · rw [fixed]
      rfl
    by_cases hidden : target = ⟨0x2000, 2⟩
    · rw [hidden]
      rfl
    have absent (value : Option (List UInt8)) : (dictionary value).find? target = none := by
      simp [dictionary, Dictionary.find?, Ne.symm fixed, Ne.symm hidden]
    rw [absent, absent]
  obtain ⟨kept, blind⟩ := run_respects_rights (new 0x582) operations remote
  exact ⟨kept (dictionary none) ⟨0x2000, 1⟩ _ rfl rfl, (blind _ _ alike).1⟩

end Server

end Canopen
