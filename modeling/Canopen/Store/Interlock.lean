/-
**A store behind an interlock.**

An interlock answers for some entries itself, and the store behind it is neither asked nor told; a
read of such an entry delivers no value.
-/

import Canopen.Store.Basic

namespace Canopen

/-- A store, and the statuses that stand in front of its entries. -/
structure Interlock (σ : Type) where
  inner : σ
  reading : Target → Option Status
  writing : Target → Option Status

namespace Interlock

variable {σ : Type}

/-- The outcome of a call on the store behind the interlock. -/
def lift {α : Type} (interlock : Interlock σ) (call : Call σ α) : Call (Interlock σ) α :=
  ⟨{ interlock with inner := call.store }, call.outcome, call.notices, call.observed⟩

/-- Reads an entry. -/
def read [Store σ] (interlock : Interlock σ) (target : Target) (checked : Bool) :
    Call (Interlock σ) Reading :=
  match interlock.reading target with
  | some status => .quiet interlock (.ok (.statusOnly status))
  | none => interlock.lift (Store.read interlock.inner target checked)

/-- Writes an entry. -/
def write [Store σ] (interlock : Interlock σ) (target : Target) (data : List UInt8)
    (checked : Bool) : Call (Interlock σ) Status :=
  match interlock.writing target with
  | some status => .quiet interlock (.ok status)
  | none => interlock.lift (Store.write interlock.inner target data checked)

instance [Store σ] : Store (Interlock σ) := ⟨read, write⟩

end Interlock

end Canopen
