/-
**The object dictionary in memory.**

* `Dictionary`: entries by target, with suppliers that may stand in for a value when it is read
  and observers that see a value once it is written.
* `Dictionary.find?`: the entry of a target.
* `Dictionary.lowerBound`: the first entry that is not before a target. It tells whether an index
  has entries.
* `Dictionary.add`: a new entry; an entry is never replaced, and an initial value must have the
  fixed size of its entry if there is one.
* `Dictionary.read`, `Dictionary.write`: the two calls of a store.

A read looks, in this order, at the existence of the entry, at the rights, at the suppliers in
order and at the value. A write looks at the existence, the rights, the fixed size and the
greatest size; then it sets the value, and then it shows it to the observers in order until one of
them fails.
-/

import Canopen.Store.Basic

namespace Canopen

/-- An entry of an object dictionary. -/
structure Entry where
  name : Text
  access : Access
  /-- The size that every value has; zero for none. -/
  fixedSize : Nat
  /-- The size that no value written exceeds; zero for none. -/
  maxSize : Nat
  /-- The value; an empty value differs from none. -/
  value : Option (List UInt8)
  deriving DecidableEq, Repr, Inhabited

/-- What a supplier has to say about a read. -/
inductive Supply
  /-- The entry's own value counts. -/
  | pass
  | value (octets : List UInt8)
  | fail (fault : Fault)
  deriving DecidableEq, Repr, Inhabited

/-- What comes of an observer that sees a value. -/
structure Observation where
  notices : List Notice
  fault : Option Fault
  deriving DecidableEq, Repr, Inhabited

/-- A stand-in for values that are read. -/
abbrev Supplier := Target → Supply

/-- A spectator of values that are written. -/
abbrev Observer := Target → List UInt8 → Observation

/-- The entries of one index, or a single one of them. -/
structure Pattern where
  index : UInt16
  subindex : Option UInt8
  deriving DecidableEq, Repr, Inhabited

/-- The pattern covers the target. -/
def Pattern.covers (pattern : Pattern) (target : Target) : Bool :=
  pattern.index == target.index && pattern.subindex.all (· == target.subindex)

/-- A supplier for the targets of a pattern. -/
def Supplier.on (pattern : Pattern) (supply : Supply) : Supplier := fun target =>
  if pattern.covers target then supply else .pass

/-- An observer that sees everything and may fail at the targets of a pattern. -/
def Observer.on (pattern : Pattern) (fault : Option Fault) : Observer := fun target _ =>
  ⟨[], if pattern.covers target then fault else none⟩

/-- The object dictionary. -/
structure Dictionary where
  entries : List (Target × Entry)
  suppliers : List Supplier
  observers : List Observer

namespace Dictionary

/-- The dictionary without entries. -/
def empty : Dictionary := ⟨[], [], []⟩

instance : Inhabited Dictionary := ⟨empty⟩

/-- The number of entries. -/
def size (dictionary : Dictionary) : Nat := dictionary.entries.length

/-- The entry of a target. -/
def find? (dictionary : Dictionary) (target : Target) : Option Entry :=
  (dictionary.entries.find? fun entry => entry.1 == target).map Prod.snd

/-- The rank of the first entry that is not before a target, if there is one. -/
def lowerBound (dictionary : Dictionary) (target : Target) : Option Nat :=
  ((dictionary.entries.map fun entry => entry.1.rank).filter (target.rank ≤ ·)).min?

/-- Some entry has the index: the first one from its subindex zero on. -/
def hasIndex (dictionary : Dictionary) (index : UInt16) : Bool :=
  (dictionary.lowerBound ⟨index, 0⟩).any fun rank => rank / UInt8.size == index.toNat

/-- The status of a target without an entry. -/
def absence (dictionary : Dictionary) (target : Target) : Status :=
  if dictionary.hasIndex target.index then .noSuchSubindex else .noSuchObject

/-! ### Building -/

/-- The dictionary with one more entry, or the notice why it is refused. -/
def add (dictionary : Dictionary) (target : Target) (entry : Entry) :
    Except Notice Dictionary :=
  let size := (entry.value.map List.length).getD entry.fixedSize
  if entry.fixedSize ≠ 0 ∧ size ≠ entry.fixedSize then
    .error (.initialValueNotFitting target entry.name size entry.fixedSize)
  else if (dictionary.find? target).isSome then .error (.alreadyDefined target)
  else .ok { dictionary with entries := dictionary.entries ++ [(target, entry)] }

/-- An entry for a number of a fixed width. -/
def number (width : Nat) (name : Text) (access : Access) (value : Nat) : Entry :=
  ⟨name, access, width, 0, some (Octets.ofNat width value)⟩

/-- An entry for a text of free length. -/
def string (name : Text) (access : Access) (value : Text) (maxSize : Nat) : Entry :=
  ⟨name, access, 0, maxSize, some value⟩

/-- The dictionary with one more supplier, asked last. -/
def supply (dictionary : Dictionary) (supplier : Supplier) : Dictionary :=
  { dictionary with suppliers := dictionary.suppliers ++ [supplier] }

/-- The dictionary with one more observer, shown last. -/
def observe (dictionary : Dictionary) (observer : Observer) : Dictionary :=
  { dictionary with observers := dictionary.observers ++ [observer] }

/-! ### Reading -/

/-- What the first supplier with something to say supplies. -/
def supplied : List Supplier → Target → Supply
  | [], _ => .pass
  | supplier :: rest, target =>
    match supplier target with
    | .pass => supplied rest target
    | supply => supply

/-- The answer to a read of an entry at hand. -/
def readEntry (dictionary : Dictionary) (target : Target) (entry : Entry) (checked : Bool) :
    Except Fault Reading :=
  if checked && !entry.access.readable then .ok (.statusOnly .notReadable)
  else match supplied dictionary.suppliers target, entry.value with
    | .fail fault, _ => .error fault
    | .value octets, _ => .ok (.supplied octets)
    | .pass, some value => .ok (.supplied value)
    | .pass, none => .ok (.statusOnly .noValue)

/-- Reads an entry. -/
def read (dictionary : Dictionary) (target : Target) (checked : Bool) :
    Call Dictionary Reading :=
  .quiet dictionary <|
    match dictionary.find? target with
    | none => .ok (.statusOnly (dictionary.absence target))
    | some entry => dictionary.readEntry target entry checked

/-! ### Writing -/

/-- The status of a write to an entry at hand. -/
def writeStatus (entry : Entry) (data : List UInt8) (checked : Bool) : Status :=
  if checked && !entry.access.writable then .notWritable
  else if entry.fixedSize ≠ 0 ∧ data.length ≠ entry.fixedSize then .lengthMismatch
  else if entry.maxSize ≠ 0 ∧ entry.maxSize < data.length then .lengthTooHigh
  else .ok

/-- The dictionary with another value in an entry. -/
def set (dictionary : Dictionary) (target : Target) (data : List UInt8) : Dictionary :=
  { dictionary with
    entries := dictionary.entries.map fun entry =>
      if entry.1 = target then (entry.1, { entry.2 with value := some data }) else entry }

/-- Shows a value to observers in order, the first of them at place `place`, until one fails. -/
def present (observers : List Observer) (place : Nat) (target : Target) (data : List UInt8) :
    Option Fault × List Notice × List Observed :=
  match observers with
  | [] => (none, [], [])
  | observer :: rest =>
    let observation := observer target data
    let seen : Observed := ⟨place, target, data⟩
    match observation.fault with
    | some fault => (some fault, observation.notices, [seen])
    | none =>
      let (fault, notices, observed) := present rest (place + 1) target data
      (fault, observation.notices ++ notices, seen :: observed)

/-- Sets a value and shows it to the observers. -/
def store (dictionary : Dictionary) (target : Target) (data : List UInt8) :
    Call Dictionary Status :=
  let (fault, notices, observed) := present dictionary.observers 0 target data
  let outcome := match fault with
    | some fault => .error fault
    | none => .ok .ok
  ⟨dictionary.set target data, outcome, notices, observed⟩

/-- Writes an entry. -/
def write (dictionary : Dictionary) (target : Target) (data : List UInt8) (checked : Bool) :
    Call Dictionary Status :=
  match dictionary.find? target with
  | none => .quiet dictionary (.ok (dictionary.absence target))
  | some entry =>
    match writeStatus entry data checked with
    | .ok => dictionary.store target data
    | .lengthMismatch =>
      ⟨dictionary, .ok .lengthMismatch, [.sizeNotFitting target entry.fixedSize data.length], []⟩
    | status => .quiet dictionary (.ok status)

instance : Store Dictionary := ⟨read, write⟩

end Dictionary

end Canopen
