/-
**Settings from the environment.**

* `Environment.socketPath`: where the control socket is.
* `Environment.nodeIdSetting`: the node to be; one that is no number from 1 to 127 is ignored with
  a notice.
* `Environment.expandHome`: a path with the home directory in place of a leading `~`.

A setting ends at its first NUL, and an empty one counts as missing.
-/

import Canopen.Notice
import Canopen.Text.Numeral

namespace Canopen

/-- The variables that matter. -/
structure Environment where
  home : Option Text
  controlSocket : Option Text
  nodeId : Option Text
  logLevel : Option Text
  transport : Option Text
  iface : Option Text
  deriving DecidableEq, Repr, Inhabited

namespace Environment

/-- The environment without a variable. -/
def empty : Environment := ⟨none, none, none, none, none, none⟩

/-- A variable with something in it. -/
def filled (setting : Option Text) : Option Text :=
  (setting.map Text.cut).filter (· ≠ [])

/-- The directory of the control socket below the home directory. -/
def socketBelowHome : Text := Text.ofString "/.cache/sdosrv/ctl.sock"

/-- The home directory if there is none. -/
def homeless : Text := Text.ofString "/tmp"

/-- Where the control socket is, and the notice if the setting does not tell. -/
def socketPath (environment : Environment) : Text × List Notice :=
  match filled environment.controlSocket with
  | some path => (path, [])
  | none =>
    let path := (filled environment.home).getD homeless ++ socketBelowHome
    (path, [.socketDefaults path])

/-- The tilde for the home directory. -/
def tilde : UInt8 := 126

/-- The path with the home directory in place of a leading `~`. -/
def expandHome (environment : Environment) (path : Text) : Text :=
  match path, filled environment.home with
  | first :: rest, some home =>
    if first = tilde ∧ (rest = [] ∨ rest.head? = some Text.slash) then home ++ rest else path
  | _, _ => path

/-- Where the control socket is, in full. -/
def fullSocketPath (environment : Environment) : Text × List Notice :=
  let (path, notices) := environment.socketPath
  (environment.expandHome path, notices)

/-- The node if nothing tells. -/
def defaultNodeId : UInt8 := 1

/-- The greatest node. -/
def greatestNodeId : Nat := 127

/-- The node that a setting tells. -/
def nodeIdOf? (value : Text) : Option UInt8 :=
  ((Numeral.word? value).filter fun number => 1 ≤ number ∧ number ≤ greatestNodeId).map UInt8.ofNat

/-- The node to be, and the notice if the setting is ignored. -/
def nodeIdSetting (environment : Environment) : UInt8 × List Notice :=
  match filled environment.nodeId with
  | none => (defaultNodeId, [])
  | some value =>
    match nodeIdOf? value with
    | some id => (id, [])
    | none => (defaultNodeId, [.nodeIdInvalid value])

end Environment

end Canopen
