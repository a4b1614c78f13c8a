/-
**What a store answers, and who may use an entry.**

* `Status`: the outcome of a read or a write.
* `Status.abortCause?`: the cause for which the client's transfer ends; there is none exactly for
  `ok`.
* `Access`: the rights of a client on an entry.
-/

import Canopen.Abort

namespace Canopen

/-- The outcome of a read or a write. -/
inductive Status
  | ok
  | noSuchObject
  | noSuchSubindex
  | notReadable
  | notWritable
  | lengthMismatch
  | lengthTooHigh
  | valueRejected
  /-- The entry exists but holds no value. -/
  | noValue
  deriving DecidableEq, Repr, Inhabited

namespace Status

/-- Every status. -/
def all : List Status :=
  [ok, noSuchObject, noSuchSubindex, notReadable, notWritable, lengthMismatch, lengthTooHigh,
    valueRejected, noValue]

/-- The status in words. -/
def text : Status → String
  | ok => "ok"
  | noSuchObject => "no such object"
  | noSuchSubindex => "no such subindex"
  | notReadable => "not readable"
  | notWritable => "not writable"
  | lengthMismatch => "length mismatch"
  | lengthTooHigh => "length too high"
  | valueRejected => "value rejected"
  | noValue => "no value"

/-- The cause for which a transfer ends. -/
def abortCause? : Status → Option AbortCause
  | ok => none
  | noSuchObject => some .noSuchObject
  | noSuchSubindex => some .noSuchSubindex
  | notReadable => some .writeOnly
  | notWritable => some .readOnly
  | lengthMismatch => some .lengthMismatch
  | lengthTooHigh => some .lengthTooHigh
  | valueRejected => some .valueRange
  | noValue => some .resourceNotAvailable

/-- Only `ok` lets a transfer go on. -/
theorem abortCause?_eq_none {status : Status} : status.abortCause? = none ↔ status = ok := by
  cases status <;> simp [abortCause?]

/-- The abort code of a status, zero for `ok`. -/
def abortCode (status : Status) : UInt32 :=
  (status.abortCause?.map AbortCause.code).getD 0

end Status

/-- The rights of a client on an entry. -/
inductive Access
  | readOnly
  | writeOnly
  | readWrite
  | constant
  deriving DecidableEq, Repr, Inhabited

namespace Access

/-- A client may read. -/
def readable : Access → Bool
  | writeOnly => false
  | _ => true

/-- A client may write. -/
def writable : Access → Bool
  | writeOnly | readWrite => true
  | readOnly | constant => false

end Access

end Canopen
