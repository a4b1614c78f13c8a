/-
**A dictionary is a map with callbacks.**

* `Catalogue`: a map from targets to entries, with the suppliers and observers around it.
* `Usage`: one use of a dictionary, with callbacks that never fail; `Outcome` is what comes of it.
* `Catalogue.apply`: what a use does to a map, and its outcome.
* `Dictionary.view`: the map that a dictionary shows.
* `Dictionary.apply_refines`: **one use of a dictionary is one use of its map**, with the same
  outcome.
-/

import Canopen.Proofs.Lines

namespace Canopen

/-- The supplier never fails. -/
def Supplier.Unfailing (supplier : Supplier) : Prop :=
  ∀ target fault, supplier target ≠ .fail fault

/-- The observer never fails. -/
def Observer.Unfailing (observer : Observer) : Prop :=
  ∀ target data, (observer target data).fault = none

/-- One use of a dictionary. -/
inductive Usage
  /-- Adds an entry. -/
  | add (target : Target) (entry : Entry)
  /-- Adds an entry for a number of a fixed width. -/
  | addNumber (width : Nat) (target : Target) (name : Text) (access : Access) (value : Nat)
  /-- Adds an entry for a text. -/
  | addString (target : Target) (name : Text) (access : Access) (value : Text) (maxSize : Nat)
  /-- Reads into a buffer that holds something already. -/
  | read (target : Target) (checked : Bool) (before : List UInt8)
  | write (target : Target) (data : List UInt8) (checked : Bool)
  | supply (supplier : Supplier) (unfailing : supplier.Unfailing)
  | observe (observer : Observer) (unfailing : observer.Unfailing)
  /-- The callbacks behave otherwise from now on, as those with a state of their own do. -/
  | turn (suppliers : List Supplier) (observers : List Observer)
      (unfailing : Dictionary.Unfailing ⟨[], suppliers, observers⟩)

/-- What comes of a use. -/
inductive Outcome
  | added (taken : Bool)
  /-- The status of a read, and what is in the buffer behind it. -/
  | read (status : Status) (buffer : List UInt8)
  /-- The status of a write, and what the observers were shown. -/
  | written (status : Status) (shown : List Observed)
  | registered
  deriving DecidableEq, Repr

/-! ### The map -/

/-- The value that a supplier has to offer. -/
def Supply.value? : Supply → Option (List UInt8)
  | .value octets => some octets
  | .pass | .fail _ => none

/-- The value of an entry, if it has one, has its fixed size, if it has one. -/
def Entry.fits (entry : Entry) : Bool :=
  entry.value.all fun value => entry.fixedSize == 0 || value.length == entry.fixedSize

/-- A map from targets to entries, and the callbacks around it. -/
structure Catalogue where
  find? : Target → Option Entry
  suppliers : List Supplier
  observers : List Observer

namespace Catalogue

/-- Nothing at all. -/
def empty : Catalogue := ⟨fun _ => none, [], []⟩

variable (catalogue : Catalogue)

/-- Some entry has the index. -/
def HasIndex (index : UInt16) : Prop :=
  ∃ subindex, (catalogue.find? ⟨index, subindex⟩).isSome = true

instance (index : UInt16) : Decidable (catalogue.HasIndex index) :=
  decidable_of_iff (∃ number < UInt8.size, (catalogue.find? ⟨index, .ofNat number⟩).isSome = true)
    ⟨fun ⟨number, _, found⟩ => ⟨.ofNat number, found⟩, fun ⟨subindex, found⟩ =>
      ⟨subindex.toNat, subindex.toNat_lt, by rwa [UInt8.ofNat_toNat]⟩⟩

/-- The status of a target without an entry. -/
def absence (target : Target) : Status :=
  if catalogue.HasIndex target.index then .noSuchSubindex else .noSuchObject

/-- The map with an entry at a target. -/
def put (target : Target) (entry : Entry) : Catalogue :=
  { catalogue with
    find? := fun other => if other = target then some entry else catalogue.find? other }

/-- An entry is added where there is none, if its value fits. -/
def add (target : Target) (entry : Entry) : Catalogue × Outcome :=
  if entry.fits = true ∧ catalogue.find? target = none then
    (catalogue.put target entry, .added true)
  else (catalogue, .added false)

/-- What the first supplier that offers a value offers. -/
def supplied? (target : Target) : Option (List UInt8) :=
  catalogue.suppliers.findSome? fun supplier => (supplier target).value?

/-- A read is refused where there is no entry, and by the rights of the entry; the suppliers come
before the value of the entry. -/
def read (target : Target) (checked : Bool) (before : List UInt8) : Outcome :=
  match catalogue.find? target with
  | none => .read (catalogue.absence target) before
  | some entry =>
    if checked = true ∧ entry.access = .writeOnly then .read .notReadable before
    else match (catalogue.supplied? target).or entry.value with
      | none => .read .noValue before
      | some value => .read .ok value

/-- What the observers of a value are shown, each once and in order. -/
def shown (target : Target) (data : List UInt8) : List Observed :=
  (List.range catalogue.observers.length).map fun place => ⟨place, target, data⟩

/-- A write is refused by the rights of the entry, by its fixed size and by its greatest size. -/
def verdict (entry : Entry) (data : List UInt8) (checked : Bool) : Status :=
  if checked = true ∧ (entry.access = .readOnly ∨ entry.access = .constant) then .notWritable
  else if entry.fixedSize ≠ 0 ∧ data.length ≠ entry.fixedSize then .lengthMismatch
  else if entry.maxSize ≠ 0 ∧ entry.maxSize < data.length then .lengthTooHigh
  else .ok

/-- A write that is refused, or finds no entry, changes nothing and is shown to nobody. -/
def write (target : Target) (data : List UInt8) (checked : Bool) : Catalogue × Outcome :=
  match catalogue.find? target with
  | none => (catalogue, .written (catalogue.absence target) [])
  | some entry =>
    if verdict entry data checked = .ok then
      (catalogue.put target { entry with value := some data },
        .written .ok (catalogue.shown target data))
    else (catalogue, .written (verdict entry data checked) [])

/-- The entry for a number of a fixed width, its octets the least significant first. -/
def number (width : Nat) (name : Text) (access : Access) (value : Nat) : Entry :=
  ⟨name, access, width, 0,
    some ((List.range width).map fun place => UInt8.ofNat (value / 256 ^ place))⟩

/-- The entry for a text of free length. -/
def string (name : Text) (access : Access) (value : Text) (maxSize : Nat) : Entry :=
  ⟨name, access, 0, maxSize, some value⟩

/-- One use of a map. -/
def apply : Usage → Catalogue × Outcome
  | .add target entry => catalogue.add target entry
  | .addNumber width target name access value =>
    catalogue.add target (number width name access value)
  | .addString target name access value maxSize =>
    catalogue.add target (string name access value maxSize)
  | .read target checked before => (catalogue, catalogue.read target checked before)
  | .write target data checked => catalogue.write target data checked
  | .supply supplier _ =>
    ({ catalogue with suppliers := catalogue.suppliers ++ [supplier] }, .registered)
  | .observe observer _ =>
    ({ catalogue with observers := catalogue.observers ++ [observer] }, .registered)
  | .turn suppliers observers _ =>
    ({ catalogue with suppliers := suppliers, observers := observers }, .registered)

end Catalogue

/-! ### The dictionary -/

namespace Dictionary

/-- An addition to a dictionary, and whether it was taken. -/
def enter (dictionary : Dictionary) (target : Target) (entry : Entry) :
    Dictionary × Except Fault Outcome :=
  match dictionary.add target entry with
  | .ok extended => (extended, .ok (.added true))
  | .error _ => (dictionary, .ok (.added false))

/-- One use of a dictionary; a callback that fails leaves it without an outcome. -/
def apply (dictionary : Dictionary) : Usage → Dictionary × Except Fault Outcome
  | .add target entry => dictionary.enter target entry
  | .addNumber width target name access value =>
    dictionary.enter target (number width name access value)
  | .addString target name access value maxSize =>
    dictionary.enter target (string name access value maxSize)
  | .read target checked before =>
    let call := dictionary.read target checked
    (call.store, call.outcome.map fun reading => .read reading.status (reading.into before))
  | .write target data checked =>
    let call := dictionary.write target data checked
    (call.store, call.outcome.map fun status => .written status call.observed)
  | .supply supplier _ => (dictionary.supply supplier, .ok .registered)
  | .observe observer _ => (dictionary.observe observer, .ok .registered)
  | .turn suppliers observers _ =>
    ({ dictionary with suppliers := suppliers, observers := observers }, .ok .registered)

/-- The map that a dictionary shows. -/
def view (dictionary : Dictionary) : Catalogue :=
  ⟨dictionary.find?, dictionary.suppliers, dictionary.observers⟩

/-! ### Additions -/

variable {dictionary : Dictionary} {target : Target} {entry : Entry}

/-- The check of an addition asks whether the value fits. -/
theorem fits_iff : entry.fits = true ↔ ¬ (entry.fixedSize ≠ 0 ∧
    (entry.value.map List.length).getD entry.fixedSize ≠ entry.fixedSize) := by
  unfold Entry.fits
  cases entry.value with
  | none => exact iff_of_true rfl fun misfit => misfit.2 rfl
  | some value =>
    rw [Option.all_some, Bool.or_eq_true, beq_iff_eq, beq_iff_eq, Option.map_some, Option.getD_some]
    omega

/-- The octets of a number, one by one. -/
theorem ofNat_eq_map (width value : Nat) : Octets.ofNat width value =
    (List.range width).map fun place => UInt8.ofNat (value / 256 ^ place) := by
  induction width generalizing value with
  | zero => rfl
  | succ width ih =>
    rw [Octets.ofNat, ih, List.range_succ_eq_map, List.map_cons, List.map_map, Nat.pow_zero,
      Nat.div_one]
    congr 2
    funext place
    rw [Function.comp_apply, Nat.div_div_eq_div_mul, Nat.pow_succ']

theorem number_eq (width : Nat) (name : Text) (access : Access) (value : Nat) :
    number width name access value = Catalogue.number width name access value := by
  rw [number, Catalogue.number, ofNat_eq_map]

/-- An entry that is added is found, and nothing else changes. -/
theorem find?_extended (absent : dictionary.find? target = none) (entry : Entry)
    (other : Target) :
    find? { dictionary with entries := dictionary.entries ++ [(target, entry)] } other =
      if other = target then some entry else dictionary.find? other := by
  unfold find? at absent ⊢
  rw [List.find?_append]
  by_cases here : other = target
  · subst here
    rw [Option.map_eq_none_iff.mp absent, if_pos rfl, Option.none_or, List.find?_singleton,
      beq_self_eq_true]
    rfl
  · have elsewhere : (target == other) = false := beq_eq_false_iff_ne.mpr (Ne.symm here)
    rw [if_neg here, List.find?_singleton, elsewhere, if_neg Bool.false_ne_true, Option.or_none]

/-- An addition is refused, or there is one more entry. -/
theorem enter_cases (dictionary : Dictionary) (target : Target) (entry : Entry) :
    dictionary.enter target entry = (dictionary, .ok (.added false)) ∨
      dictionary.enter target entry =
        ({ dictionary with entries := dictionary.entries ++ [(target, entry)] },
          .ok (.added true)) := by
  unfold enter add
  simp only
  split
  · next taken =>
    split at taken
    · exact absurd taken nofun
    · split at taken
      · exact absurd taken nofun
      · rw [← Except.ok.inj taken]
        exact .inr rfl
  · exact .inl rfl

theorem Unfailing.enter (unfailing : dictionary.Unfailing) (target : Target) (entry : Entry) :
    (dictionary.enter target entry).1.Unfailing := by
  rcases dictionary.enter_cases target entry with refused | taken
  · rw [refused]
    exact unfailing
  · rw [taken]
    exact ⟨unfailing.suppliers, unfailing.observers⟩

/-- **An addition to a dictionary is one to its map.** -/
theorem enter_refines (dictionary : Dictionary) (target : Target) (entry : Entry) :
    (dictionary.enter target entry).1.view = (dictionary.view.add target entry).1 ∧
      (dictionary.enter target entry).2 = .ok (dictionary.view.add target entry).2 := by
  unfold enter add Catalogue.add
  simp only
  by_cases fits : entry.fits = true
  · rw [if_neg (fits_iff.mp fits)]
    cases found : dictionary.find? target with
    | some other =>
      have there : ¬ (entry.fits = true ∧ dictionary.view.find? target = none) := by
        rw [show dictionary.view.find? target = some other from found]
        exact fun both => nomatch both.2
      rw [if_neg there]
      exact ⟨rfl, rfl⟩
    | none =>
      rw [if_pos (show entry.fits = true ∧ dictionary.view.find? target = none from
        ⟨fits, found⟩)]
      refine ⟨?_, rfl⟩
      show Catalogue.mk _ _ _ = Catalogue.mk _ _ _
      congr 1
      funext other
      exact find?_extended found entry other
  · rw [if_neg (fun both : entry.fits = true ∧ _ => fits both.1),
      if_pos (Decidable.not_not.mp (mt fits_iff.mpr fits))]
    exact ⟨rfl, rfl⟩

/-! ### Reads -/

theorem absence_view (dictionary : Dictionary) (target : Target) :
    dictionary.absence target = dictionary.view.absence target :=
  if_congr hasIndex_iff rfl rfl

/-- Suppliers that never fail supply what the first of them offers. -/
theorem supplied_eq {suppliers : List Supplier}
    (unfailing : ∀ supplier ∈ suppliers, Supplier.Unfailing supplier) (target : Target) :
    supplied suppliers target =
      match suppliers.findSome? fun supplier => (supplier target).value? with
      | some octets => .value octets
      | none => .pass := by
  induction suppliers with
  | nil => rfl
  | cons supplier rest ih =>
    obtain ⟨first, later⟩ := List.forall_mem_cons.mp unfailing
    rw [supplied, List.findSome?_cons]
    cases offer : supplier target with
    | pass => exact ih later
    | value octets => rfl
    | fail fault => exact absurd offer (first target fault)

/-- **A read of a dictionary is one of its map.** -/
theorem read_refines (unfailing : dictionary.Unfailing) (target : Target) (checked : Bool)
    (before : List UInt8) :
    (dictionary.read target checked).store = dictionary ∧
      ((dictionary.read target checked).outcome.map fun reading =>
        Outcome.read reading.status (reading.into before)) =
          .ok (dictionary.view.read target checked before) := by
  refine ⟨rfl, ?_⟩
  unfold read Catalogue.read
  cases found : dictionary.find? target with
  | none =>
    rw [show dictionary.view.find? target = none from found, ← absence_view]
    rfl
  | some entry =>
    rw [show dictionary.view.find? target = some entry from found]
    have hidden : (checked && !entry.access.readable) = true ↔
        checked = true ∧ entry.access = .writeOnly := by
      cases checked <;> cases entry.access <;> decide
    have offers : dictionary.view.supplied? target =
        dictionary.suppliers.findSome? fun supplier => (supplier target).value? := rfl
    show (readEntry dictionary target entry checked).map _ = _
    unfold readEntry
    by_cases refused : checked = true ∧ entry.access = .writeOnly
    · rw [if_pos (hidden.mpr refused)]
      simp only [if_pos refused]
      rfl
    · rw [if_neg (mt hidden.mp refused), supplied_eq unfailing.suppliers, ← offers]
      simp only [if_neg refused]
      cases dictionary.view.supplied? target with
      | some octets => rfl
      | none => cases entry.value <;> rfl

/-! ### Writes -/

theorem writeStatus_eq (entry : Entry) (data : List UInt8) (checked : Bool) :
    writeStatus entry data checked = Catalogue.verdict entry data checked := by
  have locked : (checked && !entry.access.writable) = true ↔
      checked = true ∧ (entry.access = .readOnly ∨ entry.access = .constant) := by
    cases checked <;> cases entry.access <;> decide
  exact if_congr locked rfl rfl

/-- Observers that never fail are all shown a value, each once and in order. -/
theorem present_unfailing {observers : List Observer}
    (unfailing : ∀ observer ∈ observers, Observer.Unfailing observer) (place : Nat)
    (target : Target) (data : List UInt8) :
    (present observers place target data).1 = none ∧
      (present observers place target data).2.2 =
        (List.range' place observers.length).map fun place => ⟨place, target, data⟩ := by
  refine ⟨present_fault_iff.mpr fun observer member => unfailing observer member target data, ?_⟩
  induction observers generalizing place with
  | nil => rfl
  | cons observer rest ih =>
    obtain ⟨first, later⟩ := List.forall_mem_cons.mp unfailing
    have shown := ih later (place + 1)
    rw [present, first target data, List.length_cons, List.range'_succ, List.map_cons, ← shown]

/-- A value that is set is put in its entry. -/
theorem view_set (found : dictionary.find? target = some entry) (data : List UInt8) :
    (dictionary.set target data).view =
      dictionary.view.put target { entry with value := some data } := by
  show Catalogue.mk _ _ _ = Catalogue.mk _ _ _
  congr 1
  funext other
  rw [find?_set, found, Option.map_some]
  rfl

/-- **A write to a dictionary is one to its map.** -/
theorem write_refines (unfailing : dictionary.Unfailing) (target : Target) (data : List UInt8)
    (checked : Bool) :
    (dictionary.write target data checked).store.view =
        (dictionary.view.write target data checked).1 ∧
      ((dictionary.write target data checked).outcome.map fun status =>
        Outcome.written status (dictionary.write target data checked).observed) =
          .ok (dictionary.view.write target data checked).2 := by
  unfold Catalogue.write
  cases found : dictionary.find? target with
  | none =>
    rw [show dictionary.view.find? target = none from found, write_of_absent found, absence_view]
    exact ⟨rfl, rfl⟩
  | some entry =>
    rw [show dictionary.view.find? target = some entry from found]
    simp only
    rw [← writeStatus_eq]
    by_cases accepted : writeStatus entry data checked = .ok
    · obtain ⟨unharmed, shown⟩ := present_unfailing unfailing.observers 0 target data
      rw [← List.range_eq_range'] at shown
      rw [write_of_accepted found accepted, if_pos accepted]
      refine ⟨view_set found data, ?_⟩
      unfold store Catalogue.shown
      simp only [unharmed]
      exact congrArg (fun seen => Except.ok (Outcome.written .ok seen)) shown
    · obtain ⟨kept, outcome, unseen⟩ := write_of_refused found accepted
      rw [if_neg accepted, kept, outcome, unseen]
      exact ⟨rfl, rfl⟩

/-! ### Uses -/

/-- **One use of a dictionary is one use of its map**, with the same outcome, and no callback fails
behind it. -/
theorem apply_refines (unfailing : dictionary.Unfailing) (usage : Usage) :
    (dictionary.apply usage).1.Unfailing ∧
      (dictionary.apply usage).1.view = (dictionary.view.apply usage).1 ∧
      (dictionary.apply usage).2 = .ok (dictionary.view.apply usage).2 := by
  cases usage with
  | add target entry =>
    exact ⟨unfailing.enter target entry, enter_refines dictionary target entry⟩
  | addNumber width target name access value =>
    refine ⟨unfailing.enter target _, ?_⟩
    rw [Catalogue.apply, ← number_eq]
    exact enter_refines dictionary target (number width name access value)
  | addString target name access value maxSize =>
    exact ⟨unfailing.enter target _,
      enter_refines dictionary target (string name access value maxSize)⟩
  | read target checked before =>
    obtain ⟨kept, outcome⟩ := read_refines unfailing target checked before
    exact ⟨unfailing, rfl, outcome⟩
  | write target data checked =>
    exact ⟨(unfailing.write target data checked).1, write_refines unfailing target data checked⟩
  | supply supplier harmless =>
    refine ⟨⟨?_, unfailing.observers⟩, rfl, rfl⟩
    exact List.forall_mem_append.mpr ⟨unfailing.suppliers, List.forall_mem_singleton.mpr harmless⟩
  | observe observer harmless =>
    refine ⟨⟨unfailing.suppliers, ?_⟩, rfl, rfl⟩
    exact List.forall_mem_append.mpr ⟨unfailing.observers, List.forall_mem_singleton.mpr harmless⟩
  | turn suppliers observers harmless =>
    exact ⟨⟨harmless.suppliers, harmless.observers⟩, rfl, rfl⟩

end Dictionary

end Canopen
