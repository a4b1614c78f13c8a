/-
**The limits of an entry, and the values that keep to them.**

* `Deed`: what is done to a dictionary: additions, writes, and whatever a server does to it.
* `Dictionary.undergo`, `Dictionary.undergoAll`: one deed, and several in order.
* `Dictionary.Changes`: what a deed can do: it takes an entry, sets a value that the limits allow,
  or leaves all entries as they are.
* `Dictionary.Lingers`: an entry was taken with a value beyond its greatest size, and has been left
  alone ever since.
* `Dictionary.undergoAll_limits`: **a value has the fixed size of its entry, and it is beyond the
  greatest size exactly if it lingers.**
-/

import Canopen.Proofs.Catalogue

namespace Canopen

/-- What is done to a dictionary. -/
inductive Deed
  /-- Adds an entry. -/
  | add (target : Target) (entry : Entry)
  /-- Adds an entry for a number of a fixed width. -/
  | addNumber (width : Nat) (target : Target) (name : Text) (access : Access) (value : Nat)
  /-- Adds an entry for a text. -/
  | addString (target : Target) (name : Text) (access : Access) (value : Text) (maxSize : Nat)
  | write (target : Target) (data : List UInt8) (checked : Bool)
  /-- The callbacks are others from now on; they may fail. -/
  | turn (suppliers : List Supplier) (observers : List Observer)
  /-- Something is done to a server, in whatever state it is, that works on the dictionary. -/
  | serve (server : Server) (operation : Operation)

/-- The entry that a deed offers. -/
def Deed.offer? : Deed → Option (Target × Entry)
  | .add target entry => some (target, entry)
  | .addNumber width target name access value =>
    some (target, Dictionary.number width name access value)
  | .addString target name access value maxSize =>
    some (target, Dictionary.string name access value maxSize)
  | .write _ _ _ | .turn _ _ | .serve _ _ => none

/-- The entry holds a value beyond its greatest size. -/
def Entry.Exceeds (entry : Entry) : Prop :=
  ∃ value, entry.value = some value ∧ entry.maxSize ≠ 0 ∧ entry.maxSize < value.length

namespace Dictionary

/-- One deed. -/
def undergo (dictionary : Dictionary) : Deed → Dictionary
  | .add target entry => (dictionary.enter target entry).1
  | .addNumber width target name access value =>
    (dictionary.enter target (number width name access value)).1
  | .addString target name access value maxSize =>
    (dictionary.enter target (string name access value maxSize)).1
  | .write target data checked => (dictionary.write target data checked).store
  | .turn suppliers observers =>
    { dictionary with suppliers := suppliers, observers := observers }
  | .serve server operation => (server.perform dictionary operation).store

/-- Several deeds in order. -/
def undergoAll (dictionary : Dictionary) (deeds : List Deed) : Dictionary :=
  deeds.foldl undergo dictionary

theorem undergoAll_concat (dictionary : Dictionary) (deeds : List Deed) (deed : Deed) :
    dictionary.undergoAll (deeds ++ [deed]) = (dictionary.undergoAll deeds).undergo deed := by
  rw [undergoAll, List.foldl_append]
  rfl

variable {dictionary : Dictionary} {deeds : List Deed} {deed : Deed} {target : Target}
  {entry : Entry} {data value : List UInt8} {checked : Bool}

/-! ### One deed -/

/-- A value that is accepted keeps to the limits, whoever writes it. -/
theorem admits_of_writeStatus (accepted : writeStatus entry data checked = .ok) :
    entry.Admits data := by
  apply writeStatus_eq_ok_iff.mp
  cases checked with
  | false => exact accepted
  | true =>
    have writable := writable_of_writeStatus accepted
    unfold writeStatus at accepted ⊢
    rwa [writable] at accepted

/-- A deed takes an entry, sets a value that the limits allow, or leaves all entries as they are. -/
inductive Changes (dictionary : Dictionary) : Deed → Dictionary → Prop
  | takes {deed : Deed} {next : Dictionary} (target : Target) (entry : Entry)
      (offer : deed.offer? = some (target, entry)) (fits : entry.fits = true)
      (absent : dictionary.find? target = none)
      (found : ∀ other, next.find? other =
        if other = target then some entry else dictionary.find? other) :
      Changes dictionary deed next
  | sets {deed : Deed} {next : Dictionary} (target : Target) (entry : Entry) (data : List UInt8)
      (held : dictionary.find? target = some entry) (admits : entry.Admits data)
      (found : ∀ other, next.find? other =
        if other = target then some { entry with value := some data }
        else dictionary.find? other) :
      Changes dictionary deed next
  | keeps {deed : Deed} {next : Dictionary} (found : next.find? = dictionary.find?) :
      Changes dictionary deed next

theorem changes_enter (offer : deed.offer? = some (target, entry)) :
    dictionary.Changes deed (dictionary.enter target entry).1 := by
  have view : (dictionary.enter target entry).1.find? =
      (dictionary.view.add target entry).1.find? :=
    congrArg Catalogue.find? (enter_refines dictionary target entry).1
  unfold Catalogue.add at view
  split at view
  · next taken =>
    exact .takes target entry offer taken.1 taken.2 fun other => congrFun view other
  · exact .keeps view

theorem changes_set (held : dictionary.find? target = some entry)
    (accepted : writeStatus entry data checked = .ok) :
    dictionary.Changes deed (dictionary.set target data) := by
  refine .sets target entry data held (admits_of_writeStatus accepted) fun other => ?_
  rw [find?_set, held, Option.map_some]

/-- **A deed changes a dictionary in one of three ways.** -/
theorem undergo_changes (dictionary : Dictionary) (deed : Deed) :
    dictionary.Changes deed (dictionary.undergo deed) := by
  cases deed with
  | add target entry => exact changes_enter rfl
  | addNumber width target name access value => exact changes_enter rfl
  | addString target name access value maxSize => exact changes_enter rfl
  | write target data checked =>
    show dictionary.Changes _ (dictionary.write target data checked).store
    rcases dictionary.write_cases target data checked with
      ⟨kept, -⟩ | ⟨entry, held, accepted, stores⟩
    · rw [kept]
      exact .keeps rfl
    · rw [stores]
      exact changes_set held accepted
  | turn suppliers observers => exact .keeps rfl
  | serve server operation =>
    show dictionary.Changes _ (server.perform dictionary operation).store
    rcases server.perform_cases dictionary operation with
      kept | ⟨call, -, entry, held, accepted, stored⟩
    · rw [kept]
      exact .keeps rfl
    · rw [stored]
      exact changes_set held accepted

/-! ### Several deeds -/

/-- The entry was taken with a value beyond its greatest size, and no deed has changed it since. -/
def Lingers (deeds : List Deed) (target : Target) (entry : Entry) : Prop :=
  ∃ before deed after, deeds = before ++ deed :: after ∧
    deed.offer? = some (target, entry) ∧ entry.Exceeds ∧
    (empty.undergoAll before).find? target = none ∧
    ∀ later, later <+: after →
      (empty.undergoAll (before ++ deed :: later)).find? target = some entry

/-- What lingers goes on to linger while it is left alone. -/
theorem Lingers.concat (lingers : Lingers deeds target entry)
    (same : (empty.undergoAll (deeds ++ [deed])).find? target = some entry) :
    Lingers (deeds ++ [deed]) target entry := by
  obtain ⟨before, opening, after, rfl, offer, exceeds, absent, since⟩ := lingers
  refine ⟨before, opening, after ++ [deed], ?_, offer, exceeds, absent, fun later within => ?_⟩
  · rw [List.append_assoc, List.cons_append]
  · rcases List.prefix_concat_iff.mp within with rfl | within
    · rw [← List.cons_append, ← List.append_assoc]
      exact same
    · exact since later within

/-- The limits that an entry is found to keep to behind deeds. -/
structure Keeps (deeds : List Deed) (target : Target) (entry : Entry) : Prop where
  fits : entry.fits = true
  most : entry.Exceeds → Lingers deeds target entry

theorem keeps_set (admits : entry.Admits data) :
    Keeps deeds target { entry with value := some data } where
  fits := by
    rw [Entry.fits, Option.all_some, Bool.or_eq_true, beq_iff_eq, beq_iff_eq]
    exact Decidable.or_iff_not_imp_left.mpr admits.fixed
  most := by
    rintro ⟨value, held, bounded, more⟩
    obtain rfl := Option.some.inj held
    exact absurd (admits.most bounded) (Nat.not_le.mpr more)

/-- **What is found keeps to its limits**, by induction on the deeds from behind: a value that the
last of them has set does, and an entry that it has taken begins to linger if it does not. -/
theorem keeps_undergoAll (found : (empty.undergoAll deeds).find? target = some entry) :
    Keeps deeds target entry := by
  induction deeds using List.reverseRecOn generalizing entry with
  | nil => exact absurd found nofun
  | append_singleton deeds deed ih =>
    have untouched (same : (empty.undergoAll deeds).find? target = some entry) :
        Keeps (deeds ++ [deed]) target entry :=
      ⟨(ih same).fits, fun exceeds => ((ih same).most exceeds).concat found⟩
    have reached := undergoAll_concat empty deeds deed
    have changes := (empty.undergoAll deeds).undergo_changes deed
    rw [← reached] at changes
    cases changes with
    | takes place taken offer fits absent finds =>
      have here := finds target
      rw [found] at here
      split at here
      · next same =>
        obtain rfl := Option.some.inj here
        subst same
        refine ⟨fits, fun exceeds => ⟨deeds, deed, [], rfl, offer, exceeds, absent, ?_⟩⟩
        intro later within
        rw [List.prefix_nil.mp within]
        exact found
      · exact untouched here.symm
    | sets place holder data held admits finds =>
      have here := finds target
      rw [found] at here
      split at here
      · obtain rfl := Option.some.inj here
        exact keeps_set admits
      · exact untouched here.symm
    | keeps finds => exact untouched (finds ▸ found)

/-- **The limits of an entry.** Behind any deeds a value has the fixed size of its entry, if that
has one. It is beyond the greatest size exactly if it is the one that the entry was added with, and
no write has been taken since; the first write that is taken ends it. -/
theorem undergoAll_limits (found : (empty.undergoAll deeds).find? target = some entry)
    (held : entry.value = some value) :
    (entry.fixedSize ≠ 0 → value.length = entry.fixedSize) ∧
      (entry.maxSize ≠ 0 ∧ entry.maxSize < value.length ↔ Lingers deeds target entry) := by
  have keeps := keeps_undergoAll found
  refine ⟨fun sized => ?_, fun beyond => keeps.most ⟨value, held, beyond⟩, ?_⟩
  · have fits := keeps.fits
    rw [Entry.fits, held, Option.all_some, Bool.or_eq_true, beq_iff_eq, beq_iff_eq] at fits
    exact fits.resolve_left sized
  · rintro ⟨-, -, -, -, -, ⟨kept, holds, beyond⟩, -⟩
    rwa [Option.some.inj (held.symm.trans holds)]

/-- A text that is too long for its entry lingers, until a client writes a shorter one. -/
theorem undergoAll_limits_replaced :
    let opening : List Deed := [.addString ⟨0x2000, 1⟩ [] .readWrite [1, 2, 3] 2]
    let deeds := opening ++
      [.serve (.new 0x582) (.frame (Request.expedited ⟨0x2000, 1⟩ [7]).frame 0)]
    Lingers opening ⟨0x2000, 1⟩ (string [] .readWrite [1, 2, 3] 2) ∧
      (empty.undergoAll deeds).find? ⟨0x2000, 1⟩ = some (string [] .readWrite [7] 2) ∧
      ¬ Lingers deeds ⟨0x2000, 1⟩ (string [] .readWrite [7] 2) := by
  intro opening deeds
  have added : (empty.undergoAll opening).find? ⟨0x2000, 1⟩ =
      some (string [] .readWrite [1, 2, 3] 2) := by decide
  have written : (empty.undergoAll deeds).find? ⟨0x2000, 1⟩ =
      some (string [] .readWrite [7] 2) := by decide
  refine ⟨(undergoAll_limits added rfl).2.mp (by decide), written, fun lingers => ?_⟩
  exact absurd ((undergoAll_limits written rfl).2.mpr lingers) (by decide)

/-- A value does not always keep to the limits of its entry. -/
theorem undergoAll_not_always_admits :
    ¬ ∀ (deeds : List Deed) (target : Target) (entry : Entry) (value : List UInt8),
      (empty.undergoAll deeds).find? target = some entry → entry.value = some value →
        entry.Admits value := by
  intro always
  have admits := always [.addString ⟨0x2000, 1⟩ [] .readWrite [1, 2, 3] 2] ⟨0x2000, 1⟩
    (string [] .readWrite [1, 2, 3] 2) [1, 2, 3] (by decide) rfl
  exact absurd (admits.most (by decide)) (by decide)

end Dictionary

end Canopen
