/-
**Abort codes.**

* `AbortCause`: why a transfer ends early.
* `AbortCause.code`: the 32-bit code on the wire; `code_ne_zero`: none is zero.
* `Abort.describe`: the text of any code, those of no cause included.
-/

namespace Canopen

/-- Why a transfer ends early. -/
inductive AbortCause
  | toggleNotAlternated
  | timedOut
  | invalidCommand
  | invalidBlockSize
  | invalidSequence
  | checksum
  | outOfMemory
  | unsupportedAccess
  | writeOnly
  | readOnly
  | noSuchObject
  | lengthMismatch
  | lengthTooHigh
  | lengthTooLow
  | noSuchSubindex
  | valueRange
  | resourceNotAvailable
  | general
  | notStored
  | noData
  deriving DecidableEq, Repr

namespace AbortCause

/-- The code on the wire. -/
def code : AbortCause → UInt32
  | toggleNotAlternated => 0x05030000
  | timedOut => 0x05040000
  | invalidCommand => 0x05040001
  | invalidBlockSize => 0x05040002
  | invalidSequence => 0x05040003
  | checksum => 0x05040004
  | outOfMemory => 0x05040005
  | unsupportedAccess => 0x06010000
  | writeOnly => 0x06010001
  | readOnly => 0x06010002
  | noSuchObject => 0x06020000
  | lengthMismatch => 0x06070010
  | lengthTooHigh => 0x06070012
  | lengthTooLow => 0x06070013
  | noSuchSubindex => 0x06090011
  | valueRange => 0x06090030
  | resourceNotAvailable => 0x060A0023
  | general => 0x08000000
  | notStored => 0x08000020
  | noData => 0x08000024

/-- The cause in words. -/
def text : AbortCause → String
  | toggleNotAlternated => "toggle bit not alternated"
  | timedOut => "SDO protocol timed out"
  | invalidCommand => "command specifier not valid or unknown"
  | invalidBlockSize => "invalid block size"
  | invalidSequence => "invalid sequence number"
  | checksum => "CRC error"
  | outOfMemory => "out of memory"
  | unsupportedAccess => "unsupported access to an object"
  | writeOnly => "attempt to read a write only object"
  | readOnly => "attempt to write a read only object"
  | noSuchObject => "object does not exist in the object dictionary"
  | lengthMismatch => "length of service parameter does not match"
  | lengthTooHigh => "length of service parameter too high"
  | lengthTooLow => "length of service parameter too low"
  | noSuchSubindex => "sub-index does not exist"
  | valueRange => "invalid value for parameter"
  | resourceNotAvailable => "resource not available"
  | general => "general error"
  | notStored => "data cannot be transferred or stored to the application"
  | noData => "no data available"

/-- Every cause. -/
def all : List AbortCause :=
  [toggleNotAlternated, timedOut, invalidCommand, invalidBlockSize, invalidSequence, checksum,
    outOfMemory, unsupportedAccess, writeOnly, readOnly, noSuchObject, lengthMismatch,
    lengthTooHigh, lengthTooLow, noSuchSubindex, valueRange, resourceNotAvailable, general,
    notStored, noData]

/-- No cause is missing. -/
theorem mem_all (cause : AbortCause) : cause ∈ all := by
  cases cause <;> decide

/-- No cause has the code zero. -/
theorem code_ne_zero (cause : AbortCause) : cause.code ≠ 0 := by
  cases cause <;> decide

/-- The cause with a code. -/
def ofCode? (code : UInt32) : Option AbortCause :=
  all.find? fun cause => cause.code == code

/-- A cause is found by its code. -/
theorem ofCode?_code (cause : AbortCause) : ofCode? cause.code = some cause := by
  cases cause <;> decide

end AbortCause

/-- The text of a code. -/
def Abort.describe (code : UInt32) : String :=
  if code = 0 then "no error"
  else ((AbortCause.ofCode? code).map AbortCause.text).getD "unknown abort code"

end Canopen
