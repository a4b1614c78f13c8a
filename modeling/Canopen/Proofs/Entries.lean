/-
**The entries of a dictionary under reads and writes.**

* `Dictionary.find?_set`: a value that is set is found in its own entry, and nowhere else.
* `Dictionary.hasIndex_eq_any`: the search for an index comes to whether any entry has it.
* `Dictionary.hasIndex_iff`: the entries that are found tell which indices there are.
* `Dictionary.supplied_eq_fail_iff`, `Dictionary.present_eq_findSome?`: the first callback with
  something to say counts.
* `Dictionary.write_cases`: **a write is refused, and nothing is changed, or its value is set.**
* `Server.asks`: the writes that an operation asks a store for.
* `Server.perform_cases`: **an operation leaves a dictionary as it is, or sets a value that it asks
  to write.**
* `Server.asksAll`: the writes that frames in order ask a store for. A record grows by them, and a
  store that is left alone by reads is what they make of it.
* `Dictionary.Offers`: the value that a client reads from an entry. Only a value that is set there
  takes its place.
-/

import Canopen.Proofs.Recorded
import Canopen.Proofs.Runs

namespace Canopen

namespace Supply

/-- What is said, if anything. -/
def heard? : Supply → Option Supply
  | .pass => none
  | supply => some supply

theorem heard?_eq_none_iff {supply : Supply} : supply.heard? = none ↔ supply = .pass := by
  cases supply <;> simp [heard?]

theorem heard?_eq_fail_iff {supply : Supply} {fault : Fault} :
    supply.heard? = some (.fail fault) ↔ supply = .fail fault := by
  cases supply <;> simp [heard?]

end Supply

/-- The rank of a target tells its index. -/
theorem Target.rank_div (target : Target) : target.rank / UInt8.size = target.index.toNat := by
  have small := target.subindex.toNat_lt
  simp only [Target.rank, UInt8.size] at small ⊢
  omega

namespace Dictionary

variable {dictionary : Dictionary} {target : Target} {entry : Entry} {data : List UInt8}
  {checked : Bool} {fault : Fault}

/-- A value that is set is found in its own entry, and nowhere else. -/
theorem find?_set (dictionary : Dictionary) (target other : Target) (data : List UInt8) :
    (dictionary.set target data).find? other =
      if other = target then
        (dictionary.find? target).map fun entry => { entry with value := some data }
      else dictionary.find? other := by
  unfold find? set
  induction dictionary.entries with
  | nil => exact (ite_self none).symm
  | cons first rest ih =>
    obtain ⟨place, entry⟩ := first
    rw [List.map_cons, List.find?_cons, List.find?_cons, List.find?_cons]
    by_cases here : place = target
    · subst here
      rw [if_pos rfl]
      by_cases same : place = other
      · subst same
        simp only [beq_self_eq_true, if_true, Option.map_some]
      · have elsewhere : (place == other) = false := beq_eq_false_iff_ne.mpr same
        rw [if_neg (Ne.symm same)] at ih ⊢
        simp only [elsewhere]
        exact ih
    · rw [if_neg here]
      have elsewhere : (place == target) = false := beq_eq_false_iff_ne.mpr here
      by_cases same : place = other
      · subst same
        simp only [beq_self_eq_true, if_neg here]
      · have apart : (place == other) = false := beq_eq_false_iff_ne.mpr same
        simp only [apart, elsewhere]
        exact ih

theorem find?_set_self (found : dictionary.find? target = some entry) (data : List UInt8) :
    (dictionary.set target data).find? target = some { entry with value := some data } := by
  rw [find?_set, if_pos rfl, found, Option.map_some]

theorem find?_set_of_ne {other : Target} (apart : other ≠ target) (data : List UInt8) :
    (dictionary.set target data).find? other = dictionary.find? other := by
  rw [find?_set, if_neg apart]

/-- The first entry from subindex zero on has the index if any entry has it. -/
theorem hasIndex_eq_any (dictionary : Dictionary) (index : UInt16) :
    dictionary.hasIndex index = dictionary.entries.any fun entry => entry.1.index == index := by
  rw [Bool.eq_iff_iff, hasIndex, lowerBound, Option.any_eq_true, List.any_eq_true]
  constructor
  · rintro ⟨rank, least, same⟩
    obtain ⟨member, -⟩ := List.min?_eq_some_iff.mp least
    obtain ⟨ranked, -⟩ := List.mem_filter.mp member
    obtain ⟨entry, held, rfl⟩ := List.mem_map.mp ranked
    refine ⟨entry, held, ?_⟩
    rw [entry.1.rank_div, beq_iff_eq, UInt16.toNat_inj] at same
    exact beq_iff_eq.mpr same
  · rintro ⟨entry, held, same⟩
    rw [beq_iff_eq] at same
    have low : Target.rank ⟨index, 0⟩ = index.toNat * UInt8.size := Nat.add_zero _
    have inside := entry.1.rank_div
    rw [same] at inside
    have below_it : Target.rank ⟨index, 0⟩ ≤ entry.1.rank := by
      rw [low]
      exact (Nat.le_div_iff_mul_le (by decide)).mp (Nat.le_of_eq inside.symm)
    have member : entry.1.rank ∈ (dictionary.entries.map fun entry => entry.1.rank).filter
        (Target.rank ⟨index, 0⟩ ≤ ·) :=
      List.mem_filter.mpr ⟨List.mem_map_of_mem held, decide_eq_true below_it⟩
    obtain ⟨least, found⟩ := Option.isSome_iff_exists.mp (List.isSome_min?_of_mem member)
    obtain ⟨first, below⟩ := List.min?_eq_some_iff.mp found
    have above := of_decide_eq_true (List.mem_filter.mp first).2
    refine ⟨least, found, beq_iff_eq.mpr (Nat.le_antisymm ?_ ?_)⟩
    · rw [← inside]
      exact Nat.div_le_div_right (below _ member)
    · rw [low] at above
      exact (Nat.le_div_iff_mul_le (by decide)).mpr above

/-- The entries that are found tell which indices there are. -/
theorem hasIndex_iff {index : UInt16} :
    dictionary.hasIndex index = true ↔
      ∃ subindex, (dictionary.find? ⟨index, subindex⟩).isSome = true := by
  simp only [hasIndex_eq_any, find?, List.any_eq_true, Option.isSome_map, List.find?_isSome,
    beq_iff_eq]
  constructor
  · rintro ⟨⟨⟨_, subindex⟩, entry⟩, member, rfl⟩
    exact ⟨subindex, _, member, rfl⟩
  · rintro ⟨subindex, place, member, same⟩
    exact ⟨place, member, congrArg Target.index same⟩

/-! ### Callbacks -/

theorem supplied_eq_heard (suppliers : List Supplier) (target : Target) :
    supplied suppliers target =
      (suppliers.findSome? fun supplier => (supplier target).heard?).getD .pass := by
  induction suppliers with
  | nil => rfl
  | cons supplier rest ih =>
    rw [supplied, List.findSome?_cons]
    cases supplier target with
    | pass => exact ih
    | value octets => rfl
    | fail fault => rfl

/-- **The suppliers fail** exactly if the first of them with something to say does. -/
theorem supplied_eq_fail_iff {suppliers : List Supplier} :
    supplied suppliers target = .fail fault ↔
      ∃ before supplier after, suppliers = before ++ supplier :: after ∧
        supplier target = .fail fault ∧ ∀ earlier ∈ before, earlier target = .pass := by
  have first : supplied suppliers target = .fail fault ↔
      (suppliers.findSome? fun supplier => (supplier target).heard?) = some (.fail fault) := by
    rw [supplied_eq_heard]
    cases suppliers.findSome? fun supplier => (supplier target).heard? with
    | none => exact iff_of_false nofun nofun
    | some supply => exact Option.some_inj.symm
  simp only [first, List.findSome?_eq_some_iff, Supply.heard?_eq_fail_iff,
    Supply.heard?_eq_none_iff]

/-- A value that is shown meets the fault of the first observer that fails. -/
theorem present_eq_findSome? (observers : List Observer) (place : Nat) :
    (present observers place target data).1 =
      observers.findSome? fun observer => (observer target data).fault := by
  induction observers generalizing place with
  | nil => rfl
  | cons observer rest ih =>
    rw [present, List.findSome?_cons]
    cases (observer target data).fault with
    | none => exact ih (place + 1)
    | some fault => rfl

/-- A value that is shown meets a fault unless every observer takes it. -/
theorem present_fault_iff {observers : List Observer} {place : Nat} :
    (present observers place target data).1 = none ↔
      ∀ observer ∈ observers, (observer target data).fault = none := by
  rw [present_eq_findSome?, List.findSome?_eq_none_iff]

/-- **The observers fail** exactly if one of them does, the first of these with its fault. -/
theorem store_eq_error_iff :
    (dictionary.store target data).outcome = .error fault ↔
      ∃ before observer after, dictionary.observers = before ++ observer :: after ∧
        (observer target data).fault = some fault ∧
          ∀ earlier ∈ before, (earlier target data).fault = none := by
  rw [← List.findSome?_eq_some_iff, ← present_eq_findSome? dictionary.observers 0, store]
  cases shown : (present dictionary.observers 0 target data).1 with
  | none =>
    simp only [shown]
    exact iff_of_false nofun nofun
  | some other =>
    simp only [shown]
    exact ⟨fun same => congrArg some (Except.error.inj same), fun same =>
      congrArg Except.error (Option.some.inj same)⟩

/-- The observers have no say in the status of a value that is set. -/
theorem store_eq_ok {status : Status}
    (shown : (dictionary.store target data).outcome = .ok status) : status = .ok := by
  unfold store at shown
  cases met : (present dictionary.observers 0 target data).1 with
  | none =>
    simp only [met] at shown
    exact (Except.ok.inj shown).symm
  | some fault =>
    simp only [met] at shown
    exact nomatch shown

/-! ### Writes -/

/-- Only an entry that a client may write takes a value of a client. -/
theorem writable_of_writeStatus (accepted : writeStatus entry data true = .ok) :
    entry.access.writable = true := by
  unfold writeStatus at accepted
  cases writable : entry.access.writable with
  | true => rfl
  | false =>
    rw [writable, Bool.not_false, Bool.and_true, if_pos rfl] at accepted
    exact absurd accepted nofun

/-- A value that an entry takes is stored. -/
theorem write_of_accepted (found : dictionary.find? target = some entry)
    (accepted : writeStatus entry data checked = .ok) :
    dictionary.write target data checked = dictionary.store target data := by
  unfold write
  simp only [found, accepted]

/-- A write without an entry changes nothing. -/
theorem write_of_absent (absent : dictionary.find? target = none) :
    dictionary.write target data checked =
      .quiet dictionary (.ok (dictionary.absence target)) := by
  unfold write
  rw [absent]

/-- A write that is refused changes nothing, and no observer is shown it. -/
theorem write_of_refused (found : dictionary.find? target = some entry)
    (refused : writeStatus entry data checked ≠ .ok) :
    (dictionary.write target data checked).store = dictionary ∧
      (dictionary.write target data checked).outcome = .ok (writeStatus entry data checked) ∧
      (dictionary.write target data checked).observed = [] := by
  unfold write
  simp only [found]
  split
  · next accepted => exact absurd accepted refused
  · next mismatch => exact ⟨rfl, congrArg _ mismatch.symm, rfl⟩
  · exact ⟨rfl, rfl, rfl⟩

theorem absence_ne_ok (dictionary : Dictionary) (target : Target) :
    dictionary.absence target ≠ .ok := by
  unfold absence
  split <;> exact nofun

/-- **A write is refused, and nothing is changed, or its value is set.** -/
theorem write_cases (dictionary : Dictionary) (target : Target) (data : List UInt8)
    (checked : Bool) :
    ((dictionary.write target data checked).store = dictionary ∧
        ∃ status ≠ .ok, (dictionary.write target data checked).outcome = .ok status) ∨
      ∃ entry, dictionary.find? target = some entry ∧ writeStatus entry data checked = .ok ∧
        dictionary.write target data checked = dictionary.store target data := by
  cases found : dictionary.find? target with
  | none =>
    rw [write_of_absent found]
    exact Or.inl ⟨rfl, _, dictionary.absence_ne_ok target, rfl⟩
  | some entry =>
    by_cases accepted : writeStatus entry data checked = .ok
    · exact Or.inr ⟨entry, rfl, accepted, write_of_accepted found accepted⟩
    · obtain ⟨kept, outcome, -⟩ := write_of_refused found accepted
      exact Or.inl ⟨kept, _, accepted, outcome⟩

end Dictionary

/-! ### Operations -/

/-- The writes that an operation asks a store for. -/
def Server.asks (server : Server) : Operation → List WriteCall
  | .frame frame _ => (server.session.plan (server.session.interpret frame.octets)).writes
  | .download target data => [⟨target, data, false⟩]
  | .abort _ | .upload _ => []

/-- The operation uses the store on this side, without a client. -/
def Operation.isLocal : Operation → Bool
  | .upload _ | .download _ _ => true
  | .frame _ _ | .abort _ => false

namespace Plan

theorem checked_of_mem_writes {plan : Plan} {call : WriteCall} (asked : call ∈ plan.writes) :
    call.checked = true := by
  cases plan with
  | write session notices data next =>
    rw [List.mem_singleton.mp asked]
  | _ => exact absurd asked List.not_mem_nil

/-- A plan leaves a dictionary as it is, unless it asks for a write. -/
theorem run_dictionary (plan : Plan) (dictionary : Dictionary) :
    (plan.run dictionary).2 = dictionary ∨ ∃ call ∈ plan.writes,
      (plan.run dictionary).2 = (dictionary.write call.target call.data call.checked).store := by
  cases plan with
  | finish move => exact Or.inl rfl
  | read session next => exact Or.inl (store_settle ..)
  | write session notices data next =>
    exact Or.inr ⟨_, List.mem_singleton_self _, store_settle ..⟩

end Plan

namespace Server

variable {server : Server} {operation : Operation}

/-- A client's writes are checked. -/
theorem checked_of_mem_asks (remote : operation.isLocal = false) {call : WriteCall}
    (asked : call ∈ server.asks operation) : call.checked = true := by
  cases operation with
  | frame frame time => exact Plan.checked_of_mem_writes asked
  | abort code => exact absurd asked List.not_mem_nil
  | upload target => exact absurd asked List.not_mem_nil
  | download target data => exact absurd remote nofun

/-- **An operation leaves a dictionary as it is, or sets a value that it asks to write.** -/
theorem perform_cases (server : Server) (dictionary : Dictionary) (operation : Operation) :
    (server.perform dictionary operation).store = dictionary ∨
      ∃ call ∈ server.asks operation, ∃ entry, dictionary.find? call.target = some entry ∧
        Dictionary.writeStatus entry call.data call.checked = .ok ∧
        (server.perform dictionary operation).store = dictionary.set call.target call.data := by
  have written : (server.perform dictionary operation).store = dictionary ∨
      ∃ call ∈ server.asks operation, (server.perform dictionary operation).store =
        (dictionary.write call.target call.data call.checked).store := by
    cases operation with
    | frame frame time => exact Plan.run_dictionary _ dictionary
    | abort code => exact Or.inl rfl
    | upload target => exact Or.inl rfl
    | download target data => exact Or.inr ⟨_, List.mem_singleton_self _, rfl⟩
  rcases written with same | ⟨call, asked, stored⟩
  · exact Or.inl same
  · rcases dictionary.write_cases call.target call.data call.checked with
      ⟨refused, -⟩ | ⟨entry, found, accepted, taken⟩
    · exact Or.inl (stored.trans refused)
    · rw [taken] at stored
      exact Or.inr ⟨call, asked, entry, found, accepted, stored⟩

end Server

/-! ### Several frames -/

section Asked

variable {σ : Type} [Store σ]

/-- The store behind a call. -/
def WriteCall.on (store : σ) (call : WriteCall) : σ :=
  (Store.write store call.target call.data call.checked).store

/-- Reads leave the store as it is. -/
def Store.Still (σ : Type) [Store σ] : Prop :=
  ∀ (store : σ) (target : Target) (checked : Bool), (Store.read store target checked).store = store

theorem Dictionary.still : Store.Still Dictionary := fun _ _ _ => rfl

/-- A plan changes a store by what it asks to write, if reads leave the store as it is. -/
theorem Plan.run_still (still : Store.Still σ) (plan : Plan) (store : σ) :
    (plan.run store).2 = plan.writes.foldl WriteCall.on store := by
  cases plan with
  | finish move => rfl
  | read session next => exact (store_settle ..).trans (still store session.target true)
  | write session notices data next => exact store_settle ..

namespace Server

/-- The writes that frames in order ask a store for. -/
def asksAll (server : Server) (store : σ) : List (Frame × Nat) → List WriteCall
  | [] => []
  | (frame, time) :: later =>
    let reaction := server.receive store frame time
    server.asks (.frame frame time) ++ reaction.server.asksAll reaction.store later

/-- A frame that is met without a call on the store asks for nothing. -/
theorem asksAll_finish {server : Server} {frame : Frame} {move : Move}
    (planned : server.session.plan (server.session.interpret frame.octets) = .finish move)
    (store : σ) (time : Nat) (later : List (Frame × Nat)) :
    let reaction := server.receive store frame time
    server.asksAll store ((frame, time) :: later) =
      reaction.server.asksAll reaction.store later := by
  have asked : server.asks (.frame frame time) = [] := congrArg Plan.writes planned
  rw [asksAll, asked]
  rfl

/-- **A record changes nothing** of what frames come to, and grows by the writes they ask for. -/
theorem receiveAll_recorded (server : Server) (store : σ) (writes : List WriteCall)
    (frames : List (Frame × Nat)) :
    let reaction := server.receiveAll store frames
    server.receiveAll (Recorded.mk store writes) frames =
      ⟨reaction.server, ⟨reaction.store, writes ++ server.asksAll store frames⟩,
        reaction.events⟩ := by
  induction frames generalizing server store writes with
  | nil =>
    show Reaction.mk server (Recorded.mk store writes) [] = ⟨server, ⟨store, writes ++ []⟩, []⟩
    rw [List.append_nil]
  | cons received later ih =>
    obtain ⟨frame, time⟩ := received
    have first := receive_recorded server store writes frame time
    have rest := ih (server.receive store frame time).server (server.receive store frame time).store
      (writes ++ server.asks (.frame frame time))
    rw [receiveAll_cons, receiveAll_cons, first, asksAll, ← List.append_assoc]
    exact congrArg (fun rest : Reaction (Recorded σ) =>
      { rest with events := (server.receive store frame time).events ++ rest.events }) rest

/-- A store is what the writes asked for make of it, if reads leave it as it is. -/
theorem receiveAll_still (still : Store.Still σ) (server : Server) (store : σ)
    (frames : List (Frame × Nat)) :
    (server.receiveAll store frames).store =
      (server.asksAll store frames).foldl WriteCall.on store := by
  induction frames generalizing server store with
  | nil => rfl
  | cons received later ih =>
    obtain ⟨frame, time⟩ := received
    have first : (server.receive store frame time).store =
        (server.asks (.frame frame time)).foldl WriteCall.on store := Plan.run_still still _ store
    rw [asksAll, List.foldl_append, ← first]
    exact ih _ _

end Server

end Asked

/-! ### The value of an entry -/

/-- Nothing stands between a client and its entry, which it may read and which holds the value. -/
structure Dictionary.Offers (dictionary : Dictionary) (target : Target)
    (value : Option (List UInt8)) : Prop where
  unsupplied : dictionary.suppliers = []
  unobserved : dictionary.observers = []
  held : ∃ entry, dictionary.find? target = some entry ∧ entry.access.readable = true ∧
    entry.value = value

namespace Dictionary.Offers

variable {dictionary : Dictionary} {target : Target} {value : Option (List UInt8)}

theorem read {data : List UInt8} (offers : dictionary.Offers target (some data)) :
    (Store.read dictionary target true).outcome = .ok (.supplied data) := by
  obtain ⟨entry, found, readable, held⟩ := offers.held
  show (Dictionary.read dictionary target true).outcome = _
  unfold Dictionary.read readEntry
  simp only [found, readable, held, offers.unsupplied, Call.quiet]
  rfl

theorem set_self (offers : dictionary.Offers target value) (data : List UInt8) :
    (dictionary.set target data).Offers target (some data) := by
  obtain ⟨entry, found, readable, -⟩ := offers.held
  exact ⟨offers.unsupplied, offers.unobserved, _, find?_set_self found data, readable, rfl⟩

theorem set_of_ne (offers : dictionary.Offers target value) {other : Target}
    (apart : other ≠ target) (data : List UInt8) :
    (dictionary.set other data).Offers target value := by
  obtain ⟨entry, found, readable, held⟩ := offers.held
  refine ⟨offers.unsupplied, offers.unobserved, entry, ?_, readable, held⟩
  rw [find?_set_of_ne (Ne.symm apart), found]

/-- Behind any operation an entry still offers something. -/
theorem perform (offers : dictionary.Offers target value) (server : Server)
    (operation : Operation) :
    ∃ next, (server.perform dictionary operation).store.Offers target next := by
  rcases server.perform_cases dictionary operation with same | ⟨call, -, -, -, -, stored⟩
  · rw [same]
    exact ⟨value, offers⟩
  · rw [stored]
    by_cases here : call.target = target
    · rw [here]
      exact ⟨_, offers.set_self call.data⟩
    · exact ⟨value, offers.set_of_ne here call.data⟩

end Dictionary.Offers

end Canopen
