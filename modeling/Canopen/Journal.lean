/-
**The journal of a program: its notices that pass a threshold, line by line.**

* `Journal.lines`: the lines that notices make, a notice with line feeds several.
* `Journal.entry`: one entry for a message template, in which a doubled percent sign stands for one.

A source and a template end at their first NUL.
-/

import Canopen.Notice

namespace Canopen.Journal

/-- The percent sign. -/
def percent : UInt8 := 37

/-- The message of a template. -/
def message : Text → Text
  | [] => []
  | [octet] => [octet]
  | first :: second :: rest =>
    if first = percent ∧ second = percent then percent :: message rest
    else first :: message (second :: rest)

/-- The entry of a message from a source, nothing below the threshold. A template that ends in a
line feed gets no other one. -/
def entry (threshold level : Level) (source : Option Text) (template : Text) : Text :=
  if threshold.admits level then
    let template := template.cut
    let ending := if template.getLast? = some Text.newline then [] else [Text.newline]
    Text.ofString level.tag ++ Text.ofString " " ++ (source.getD (Text.ofString "?")).cut
      ++ Text.ofString ": " ++ message template ++ ending
  else []

/-- The notices that pass a threshold. -/
def admitted (threshold : Level) (notices : List Notice) : List Notice :=
  notices.filter fun notice => threshold.admits notice.level

/-- The lines that notices make. -/
def lines (notices : List Notice) : List Text :=
  notices.flatMap fun notice => notice.line.lines

end Canopen.Journal
