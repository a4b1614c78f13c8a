/-
**Stores: what a server reads from and writes to.**

* `Store`: reading and writing entries. A call may fail outright, report notices, and let
  observers see a value.
* `Reading`: the answer to a read. A value may be missing from it whatever its status is.
* `Call`: the store after a call, its outcome and what it reported.

A checked call is one of a client, for which the access rights count; an unchecked one is local.
-/

import Canopen.Notice

namespace Canopen

/-- A failure inside a store, with its reason if it has one. -/
inductive Fault
  | described (reason : Text)
  | bare
  deriving DecidableEq, Repr, Inhabited

/-- The reason of a fault. -/
def Fault.reason? : Fault → Option Text
  | described reason => some reason
  | bare => none

/-- The answer to a read. -/
structure Reading where
  status : Status
  value : Option (List UInt8)
  deriving DecidableEq, Repr, Inhabited

namespace Reading

/-- An answer without a value. -/
def statusOnly (status : Status) : Reading := ⟨status, none⟩

/-- The value asked for. -/
def supplied (value : List UInt8) : Reading := ⟨.ok, some value⟩

/-- What is in a caller's buffer after the answer: the value, or what was there before. -/
def into (reading : Reading) (before : List UInt8) : List UInt8 :=
  reading.value.getD before

end Reading

/-- A value that an observer was shown. -/
structure Observed where
  /-- The place of the observer, from zero. -/
  observer : Nat
  target : Target
  data : List UInt8
  deriving DecidableEq, Repr, Inhabited

/-- The store after a call, its outcome and what it reported. -/
structure Call (σ α : Type) where
  store : σ
  outcome : Except Fault α
  notices : List Notice
  observed : List Observed

/-- A call that reports nothing. -/
def Call.quiet {σ α : Type} (store : σ) (outcome : Except Fault α) : Call σ α :=
  ⟨store, outcome, [], []⟩

/-- Reading and writing entries. -/
class Store (σ : Type) where
  /-- Reads an entry. -/
  read : σ → Target → (checked : Bool) → Call σ Reading
  /-- Writes an entry. -/
  write : σ → Target → List UInt8 → (checked : Bool) → Call σ Status

end Canopen
