/-
**Orders of an operator, one a line.**

* `Order.parse`: the order in a line, or what is wrong with the line.
* `Complaint.text`: what is wrong, in words.

Words are separated by blanks. The first word tells the order. `QUIT` and `STATUS` take no notice of
further words; of the others the number of words counts.
-/

import Canopen.Level
import Canopen.Store.Status
import Canopen.Target
import Canopen.Text.Hex
import Canopen.Text.Numeral

namespace Canopen

/-- An order of an operator. -/
inductive Order
  | quit
  | status
  | level (level : Level)
  | abort (code : UInt32)
  | get (target : Target)
  | set (target : Target) (data : List UInt8)
  deriving DecidableEq, Repr

/-- What is wrong with a line or with carrying it out. -/
inductive Complaint
  | empty
  | level
  | abortUsage
  | abortCode (word : Text)
  | getUsage
  | setUsage
  | target
  | hex (word : Text)
  | unknown (word : Text)
  | refused (status : Status)
  deriving DecidableEq, Repr

/-- The complaint in words. -/
def Complaint.text : Complaint → Text
  | empty => Text.ofString "empty command"
  | level => Text.ofString "level expects debug|info|warn|error"
  | abortUsage => Text.ofString "usage: ABORT <code>"
  | abortCode word => Text.ofString "invalid abort code '" ++ word ++ Text.ofString "'"
  | getUsage => Text.ofString "usage: GET <index> <subindex>"
  | setUsage => Text.ofString "usage: SET <index> <subindex> <hex>"
  | target => Text.ofString "invalid index/subindex"
  | hex word => Text.ofString "invalid hex '" ++ word ++ Text.ofString "'"
  | unknown word => Text.ofString "unknown command '" ++ word ++ Text.ofString "'"
  | refused status => Text.ofString status.text

/-- The target that two words name. -/
def Target.parse? (index subindex : Text) : Option Target := do
  let index ← Numeral.parse? index 0xFFFF
  let subindex ← Numeral.parse? subindex 0xFF
  return ⟨UInt16.ofNat index, UInt8.ofNat subindex⟩

/-- The abort code that a word names. -/
def Abort.parse? (word : Text) : Option UInt32 :=
  (Numeral.parse? word 0xFFFFFFFF).map UInt32.ofNat

namespace Order

/-- The order to change the level. -/
def parseLevel : List Text → Except Complaint Order
  | [name] =>
    match Level.ofName? name with
    | some found => .ok (.level found)
    | none => .error .level
  | _ => .error .level

/-- The order to end a transfer. -/
def parseAbort : List Text → Except Complaint Order
  | [word] =>
    match Abort.parse? word with
    | some code => .ok (.abort code)
    | none => .error (.abortCode word)
  | _ => .error .abortUsage

/-- The order to read an entry. -/
def parseGet : List Text → Except Complaint Order
  | [index, subindex] =>
    match Target.parse? index subindex with
    | some found => .ok (.get found)
    | none => .error .target
  | _ => .error .getUsage

/-- The order to write an entry. -/
def parseSet : List Text → Except Complaint Order
  | [index, subindex, hex] =>
    match Target.parse? index subindex, Hex.decode? hex with
    | none, _ => .error .target
    | some _, none => .error (.hex hex)
    | some found, some data => .ok (.set found data)
  | _ => .error .setUsage

/-- The order in words. -/
def ofWords : List Text → Except Complaint Order
  | [] => .error .empty
  | word :: rest =>
    if word = Text.ofString "QUIT" then .ok .quit
    else if word = Text.ofString "STATUS" then .ok .status
    else if word = Text.ofString "LEVEL" then parseLevel rest
    else if word = Text.ofString "ABORT" then parseAbort rest
    else if word = Text.ofString "GET" then parseGet rest
    else if word = Text.ofString "SET" then parseSet rest
    else .error (.unknown word)

/-- The order in a line. -/
def parse (line : Text) : Except Complaint Order :=
  ofWords line.words

end Order

end Canopen
