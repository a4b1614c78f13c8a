/-
**What a dictionary holds is told by its history.**

* `Dictionary.applyAll`, `Catalogue.applyAll`: several uses in order, with their outcomes.
* `History`: uses with their outcomes; `additions` are the entries that were taken, `values` the
  values that were written to a target, and `find?` is the entry that they tell.
* `Catalogue.apply_does`: a use takes an entry, writes a value, or leaves all entries as they are.
* `Catalogue.find?_applyAll`, `Catalogue.additions_applyAll`: **an entry is the one that was taken,
  with the value written last**, and none is ever taken in the place of another.
* `Dictionary.applyAll_refines`: **a dictionary is a map**: every use has the outcome that it has on
  the map, and the entries, and how many they are, are what the history tells.
-/

import Canopen.Proofs.Catalogue

namespace Canopen

/-! ### Histories -/

/-- The entry that a use offers. -/
def Usage.offer? : Usage → Option (Target × Entry)
  | .add target entry => some (target, entry)
  | .addNumber width target name access value =>
    some (target, Catalogue.number width name access value)
  | .addString target name access value maxSize =>
    some (target, Catalogue.string name access value maxSize)
  | _ => none

/-- The entry with another value, if there is one. -/
def Entry.valued (entry : Entry) (value : Option (List UInt8)) : Entry :=
  { entry with value := value.or entry.value }

theorem Entry.valued_getLast? (entry : Entry) (data : List UInt8) (later : List (List UInt8)) :
    { entry with value := some data }.valued later.getLast? =
      entry.valued (data :: later).getLast? := by
  rw [List.getLast?_cons]
  unfold valued
  cases later.getLast? <;> rfl

/-- Uses with their outcomes, in order. -/
abbrev History := List (Usage × Outcome)

namespace History

/-- The entry that was taken, with its target. -/
def addition? (step : Usage × Outcome) : Option (Target × Entry) :=
  if step.2 = .added true then step.1.offer? else none

/-- The value that was written to a target. -/
def written? (target : Target) : Usage × Outcome → Option (List UInt8)
  | (.write other data _, .written .ok _) => if other = target then some data else none
  | _ => none

/-- The entries that were taken, in order. -/
def additions (history : History) : List (Target × Entry) :=
  history.filterMap addition?

/-- The values that were written to a target, in order. -/
def values (history : History) (target : Target) : List (List UInt8) :=
  history.filterMap (written? target)

/-- The entry that was taken for a target, as it was then. -/
def taken? (history : History) (target : Target) : Option Entry :=
  (history.additions.find? fun addition => addition.1 == target).map Prod.snd

/-- The entry of a target: the one that was taken for it, with the value written last. -/
def find? (history : History) (target : Target) : Option Entry :=
  (history.taken? target).map fun entry => entry.valued (history.values target).getLast?

variable {usage : Usage} {outcome : Outcome} {target : Target} {entry : Entry}

theorem additions_cons (step : Usage × Outcome) (later : History) :
    additions (step :: later) = additions [step] ++ additions later := by
  rw [additions, additions, additions, ← List.filterMap_append, List.singleton_append]

theorem additions_taken (offer : usage.offer? = some (target, entry)) (later : History) :
    additions ((usage, .added true) :: later) = (target, entry) :: additions later :=
  List.filterMap_cons_some ((if_pos rfl).trans offer)

theorem additions_untaken (untaken : outcome ≠ .added true) (later : History) :
    additions ((usage, outcome) :: later) = additions later :=
  List.filterMap_cons_none (if_neg untaken)

theorem additions_unoffered (unoffered : usage.offer? = none) (later : History) :
    additions ((usage, outcome) :: later) = additions later :=
  List.filterMap_cons_none ((congrArg (ite _ · none) unoffered).trans (ite_self none))

theorem values_written {data : List UInt8} {checked : Bool} {shown : List Observed}
    (other : Target) (later : History) :
    values ((.write target data checked, .written .ok shown) :: later) other =
      if target = other then data :: values later other else values later other := by
  by_cases here : target = other
  · rw [if_pos here]
    exact List.filterMap_cons_some (if_pos here)
  · rw [if_neg here]
    exact List.filterMap_cons_none (if_neg here)

theorem values_unwritten (unwritten : ∀ shown, outcome ≠ .written .ok shown) (target : Target)
    (later : History) : values ((usage, outcome) :: later) target = values later target := by
  refine List.filterMap_cons_none ?_
  unfold written?
  split
  · next shown heads => exact absurd (Prod.mk.inj heads).2 (unwritten shown)
  · rfl

theorem taken?_taken (offer : usage.offer? = some (target, entry)) (other : Target)
    (later : History) : taken? ((usage, .added true) :: later) other =
      if target = other then some entry else taken? later other := by
  unfold taken?
  rw [additions_taken offer, List.find?_cons]
  by_cases here : target = other
  · rw [if_pos here, beq_iff_eq.mpr here]
    rfl
  · rw [if_neg here, beq_eq_false_iff_ne.mpr here]

theorem taken?_untaken (untaken : outcome ≠ .added true) (target : Target) (later : History) :
    taken? ((usage, outcome) :: later) target = taken? later target := by
  unfold taken?
  rw [additions_untaken untaken]

end History

/-! ### The map -/

namespace Catalogue

/-- Several uses of a map in order, and their outcomes. -/
def applyAll (catalogue : Catalogue) : List Usage → Catalogue × List Outcome
  | [] => (catalogue, [])
  | usage :: later =>
    let first := catalogue.apply usage
    let rest := first.1.applyAll later
    (rest.1, first.2 :: rest.2)

/-- Uses with the outcomes that they have on a map. -/
def history (catalogue : Catalogue) (usages : List Usage) : History :=
  usages.zip (catalogue.applyAll usages).2

variable {catalogue : Catalogue} {target : Target} {entry : Entry}

theorem history_cons (catalogue : Catalogue) (usage : Usage) (later : List Usage) :
    catalogue.history (usage :: later) =
      (usage, (catalogue.apply usage).2) :: (catalogue.apply usage).1.history later := rfl

/-- A use that takes an entry, writes a value, or leaves all entries as they are. -/
inductive Does (catalogue : Catalogue) : Usage → Catalogue × Outcome → Prop
  | takes {usage : Usage} {target : Target} {entry : Entry}
      (offer : usage.offer? = some (target, entry)) (absent : catalogue.find? target = none) :
      Does catalogue usage (catalogue.put target entry, .added true)
  | writes {target : Target} {entry : Entry} {data : List UInt8} {checked : Bool}
      {shown : List Observed} (found : catalogue.find? target = some entry) :
      Does catalogue (.write target data checked)
        (catalogue.put target { entry with value := some data }, .written .ok shown)
  | keeps {usage : Usage} {next : Catalogue} {outcome : Outcome}
      (same : next.find? = catalogue.find?) (untaken : outcome ≠ .added true)
      (unwritten : ∀ shown, outcome ≠ .written .ok shown) : Does catalogue usage (next, outcome)

theorem does_add {usage : Usage} (offer : usage.offer? = some (target, entry)) :
    catalogue.Does usage (catalogue.add target entry) := by
  unfold add
  split
  · next taken => exact .takes offer taken.2
  · exact .keeps rfl nofun nofun

theorem absence_ne_ok (catalogue : Catalogue) (target : Target) :
    catalogue.absence target ≠ .ok := by
  unfold absence
  split <;> exact nofun

theorem does_write (catalogue : Catalogue) (target : Target) (data : List UInt8) (checked : Bool) :
    catalogue.Does (.write target data checked) (catalogue.write target data checked) := by
  have refused {status : Status} (mishap : status ≠ .ok) :
      catalogue.Does (.write target data checked) (catalogue, .written status []) :=
    .keeps rfl nofun fun shown same => mishap (Outcome.written.inj same).1
  unfold write
  split
  · exact refused (catalogue.absence_ne_ok target)
  · next entry found =>
    split
    · exact .writes found
    · next mishap => exact refused mishap

theorem does_read (catalogue : Catalogue) (target : Target) (checked : Bool)
    (before : List UInt8) : catalogue.Does (.read target checked before)
      (catalogue, catalogue.read target checked before) := by
  obtain ⟨status, buffer, reading⟩ :
      ∃ status buffer, catalogue.read target checked before = .read status buffer := by
    unfold read
    repeat' split
    all_goals exact ⟨_, _, rfl⟩
  rw [reading]
  exact .keeps rfl nofun nofun

/-- **A use takes an entry, writes a value, or leaves all entries as they are.** -/
theorem apply_does (catalogue : Catalogue) (usage : Usage) :
    catalogue.Does usage (catalogue.apply usage) := by
  cases usage with
  | add target entry => exact does_add rfl
  | addNumber width target name access value => exact does_add rfl
  | addString target name access value maxSize => exact does_add rfl
  | read target checked before => exact catalogue.does_read target checked before
  | write target data checked => exact catalogue.does_write target data checked
  | supply supplier _ => exact .keeps rfl nofun nofun
  | observe observer _ => exact .keeps rfl nofun nofun
  | turn suppliers observers _ => exact .keeps rfl nofun nofun

theorem find?_put (catalogue : Catalogue) (target other : Target) (entry : Entry) :
    (catalogue.put target entry).find? other =
      if other = target then some entry else catalogue.find? other := rfl

theorem find?_put_eq_none {other : Target} :
    (catalogue.put target entry).find? other = none ↔
      other ≠ target ∧ catalogue.find? other = none := by
  rw [find?_put]
  split
  · next here => exact iff_of_false nofun fun both => both.1 here
  · next apart => exact (and_iff_right apart).symm

/-- **An entry stays, with the value written last, and where there is none the first that is taken
stays.** -/
theorem find?_applyAll (catalogue : Catalogue) (usages : List Usage) (target : Target) :
    (catalogue.applyAll usages).1.find? target =
      ((catalogue.find? target).or ((catalogue.history usages).taken? target)).map
        fun entry => entry.valued ((catalogue.history usages).values target).getLast? := by
  induction usages generalizing catalogue with
  | nil =>
    show catalogue.find? target = ((catalogue.find? target).or none).map fun entry => entry
    rw [Option.or_none, Option.map_id']
  | cons usage later ih =>
    have does := catalogue.apply_does usage
    rw [history_cons, applyAll, ih]
    generalize catalogue.apply usage = step at does ⊢
    cases does with
    | @takes _ place entry offer absent =>
      have unwritten (shown : List Observed) : Outcome.added true ≠ .written .ok shown := nofun
      rw [History.taken?_taken offer, History.values_unwritten unwritten, find?_put]
      by_cases here : target = place
      · rw [here, absent, if_pos rfl, if_pos rfl, Option.none_or, Option.some_or]
      · rw [if_neg here, if_neg (Ne.symm here)]
    | @writes place entry data checked shown found =>
      have untaken : Outcome.written .ok shown ≠ .added true := nofun
      rw [History.taken?_untaken untaken, History.values_written, find?_put]
      by_cases here : target = place
      · rw [here, found, if_pos rfl, if_pos rfl, Option.some_or, Option.some_or, Option.map_some,
          Option.map_some, Entry.valued_getLast?]
      · rw [if_neg here, if_neg (Ne.symm here)]
    | keeps same untaken unwritten =>
      rw [History.taken?_untaken untaken, History.values_unwritten unwritten, same]

/-- **No entry is taken where there is one.** -/
theorem additions_applyAll (catalogue : Catalogue) (usages : List Usage) :
    ((catalogue.history usages).additions.map Prod.fst).Nodup ∧
      ∀ target ∈ (catalogue.history usages).additions.map Prod.fst,
        catalogue.find? target = none := by
  induction usages generalizing catalogue with
  | nil => exact ⟨.nil, List.forall_mem_nil _⟩
  | cons usage later ih =>
    have does := catalogue.apply_does usage
    obtain ⟨apart, absent⟩ := ih (catalogue.apply usage).1
    rw [history_cons]
    generalize catalogue.apply usage = step at does apart absent ⊢
    cases does with
    | takes offer unheld =>
      rw [History.additions_taken offer, List.map_cons, List.nodup_cons, List.forall_mem_cons]
      exact ⟨⟨fun member => (find?_put_eq_none.mp (absent _ member)).1 rfl, apart⟩, unheld,
        fun other member => (find?_put_eq_none.mp (absent other member)).2⟩
    | @writes _ _ _ _ shown found =>
      have untaken : Outcome.written .ok shown ≠ .added true := nofun
      rw [History.additions_untaken untaken]
      exact ⟨apart, fun other member => (find?_put_eq_none.mp (absent other member)).2⟩
    | keeps same untaken unwritten =>
      rw [History.additions_untaken untaken, ← same]
      exact ⟨apart, absent⟩

end Catalogue

/-! ### The dictionary -/

namespace Dictionary

/-- Several uses of a dictionary in order, and their outcomes. -/
def applyAll (dictionary : Dictionary) : List Usage → Dictionary × List (Except Fault Outcome)
  | [] => (dictionary, [])
  | usage :: later =>
    let first := dictionary.apply usage
    let rest := first.1.applyAll later
    (rest.1, first.2 :: rest.2)

variable {dictionary : Dictionary}

/-- There is one more entry behind an addition that is taken. -/
theorem size_enter {usage : Usage} {target : Target} {entry : Entry}
    (offer : usage.offer? = some (target, entry)) (place : Target) (entered : Entry) :
    (dictionary.enter place entered).1.size = dictionary.size +
      (History.additions [(usage, (dictionary.view.add place entered).2)]).length := by
  obtain ⟨-, outcome⟩ := dictionary.enter_refines place entered
  rcases dictionary.enter_cases place entered with refused | taken
  · have untaken : Outcome.added false ≠ .added true := nofun
    rw [refused] at outcome ⊢
    rw [← Except.ok.inj outcome, History.additions_untaken untaken]
    rfl
  · rw [taken] at outcome ⊢
    rw [← Except.ok.inj outcome, History.additions_taken offer]
    exact List.length_append

theorem size_write (dictionary : Dictionary) (target : Target) (data : List UInt8)
    (checked : Bool) : (dictionary.write target data checked).store.size = dictionary.size := by
  rcases dictionary.write_cases target data checked with ⟨kept, -⟩ | ⟨entry, -, -, stores⟩
  · rw [kept]
  · rw [stores]
    exact List.length_map _

/-- A use adds as many entries as it is told to have taken. -/
theorem size_apply (dictionary : Dictionary) (usage : Usage) :
    (dictionary.apply usage).1.size = dictionary.size +
      (History.additions [(usage, (dictionary.view.apply usage).2)]).length := by
  cases usage with
  | add target entry => exact size_enter rfl target entry
  | addNumber width target name access value =>
    rw [Catalogue.apply, ← number_eq]
    exact size_enter rfl target _
  | addString target name access value maxSize => exact size_enter rfl target _
  | write target data checked =>
    rw [History.additions_unoffered rfl]
    exact dictionary.size_write target data checked
  | read target checked before => rw [History.additions_unoffered rfl]; rfl
  | supply supplier _ => rw [History.additions_unoffered rfl]; rfl
  | observe observer _ => rw [History.additions_unoffered rfl]; rfl
  | turn suppliers observers _ => rw [History.additions_unoffered rfl]; rfl

/-- **Uses of a dictionary are uses of its map.** -/
theorem applyAll_view (unfailing : dictionary.Unfailing) (usages : List Usage) :
    (dictionary.applyAll usages).2 = (dictionary.view.applyAll usages).2.map .ok ∧
      (dictionary.applyAll usages).1.view = (dictionary.view.applyAll usages).1 ∧
      (dictionary.applyAll usages).1.size =
        dictionary.size + (dictionary.view.history usages).additions.length := by
  induction usages generalizing dictionary with
  | nil => exact ⟨rfl, rfl, rfl⟩
  | cons usage later ih =>
    obtain ⟨harmless, view, outcome⟩ := apply_refines unfailing usage
    obtain ⟨outcomes, reached, size⟩ := ih harmless
    have grown : (dictionary.view.history (usage :: later)).additions =
        History.additions [(usage, (dictionary.view.apply usage).2)] ++
          ((dictionary.view.apply usage).1.history later).additions :=
      History.additions_cons _ _
    rw [view] at outcomes reached size
    rw [applyAll, Catalogue.applyAll]
    refine ⟨?_, reached, ?_⟩
    · rw [outcome, outcomes, List.map_cons]
    · rw [size, size_apply, grown, List.length_append, Nat.add_assoc]

/-- **A dictionary is a map.** Uses of a dictionary have the outcomes that they have on a map from
targets to entries, and leave that map behind; no entry is ever taken in the place of another, there
are as many as were taken, and each has the value written last. -/
theorem applyAll_refines (usages : List Usage) :
    let reached := Dictionary.empty.applyAll usages
    let expected := Catalogue.empty.applyAll usages
    let history := Catalogue.empty.history usages
    reached.2 = expected.2.map .ok ∧ reached.1.view = expected.1 ∧
      reached.1.size = history.additions.length ∧ (history.additions.map Prod.fst).Nodup ∧
      ∀ target, reached.1.find? target = history.find? target := by
  intro reached expected history
  have unfailing : Dictionary.empty.Unfailing :=
    ⟨List.forall_mem_nil _, List.forall_mem_nil _⟩
  obtain ⟨outcomes, view, size⟩ := applyAll_view unfailing usages
  refine ⟨outcomes, view, ?_, (Catalogue.empty.additions_applyAll usages).1, fun target => ?_⟩
  · rw [size]
    exact Nat.zero_add _
  · have found : reached.1.find? target = expected.1.find? target :=
      congrArg (fun catalogue => catalogue.find? target) view
    rw [found]
    exact Catalogue.empty.find?_applyAll usages target

/-- An entry is kept against a second addition and against a client, but not against an operator. -/
example :
    let target : Target := ⟨0x2000, 1⟩
    (Dictionary.empty.applyAll [.addNumber 2 target [] .readOnly 0x1234,
        .addString target [] .readWrite [9] 0, .write target [5, 6] true, .write target [7] false,
        .write target [7, 8] false, .read target true [1], .read ⟨0x2000, 2⟩ true [1]]).2 =
      [.ok (.added true), .ok (.added false), .ok (.written .notWritable []),
        .ok (.written .lengthMismatch []), .ok (.written .ok []), .ok (.read .ok [7, 8]),
        .ok (.read .noSuchSubindex [1])] := by
  rfl

end Dictionary

end Canopen
