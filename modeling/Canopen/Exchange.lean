/-
**Exchanges: one line to the service, one line back, and the connection is over.**

* `Exchange.lineOf`: the line of everything that a peer sends before it closes its side: up to the
  first line feed, less one carriage return before it.
* `Exchange.gather`: the same line as the service reads it, piece by piece.
* `Exchange.reply`: what the service sends back.
* `Exchange.serve`: connections one after another, up to the one whose line is exactly `QUIT` or
  whose line finds no answer.
-/

import Canopen.Text

namespace Canopen.Exchange

/-- The text less one carriage return at its end. -/
def dropReturn (text : Text) : Text :=
  if text.getLast? = some Text.carriageReturn then text.dropLast else text

/-- The line of everything that a peer sends. -/
def lineOf (stream : List UInt8) : Text :=
  dropReturn (stream.takeWhile (· != Text.newline))

/-- The line as it is read piece by piece, `read` being what is here already: nothing is read after
the piece with the first line feed. -/
def gather (read : List UInt8) : List (List UInt8) → Text
  | [] => lineOf read
  | piece :: rest =>
    let read := read ++ piece
    if Text.newline ∈ read then lineOf read else gather read rest

/-- The line that ends the service. -/
def quitLine : Text := Text.ofString "QUIT"

/-- The service ends after the line. -/
def ends (line : Text) : Bool := line == quitLine

/-- What the service sends back. -/
def reply (answer : Text) : List UInt8 := answer ++ [Text.newline]

/-- What a client sends: the line, with a line feed unless it has one. -/
def request (line : Text) : List UInt8 :=
  if line.getLast? = some Text.newline then line else line ++ [Text.newline]

/-- Octets cut into pieces of the given sizes, the rest in one. -/
def pieces : List Nat → List UInt8 → List (List UInt8)
  | [], octets => [octets]
  | size :: sizes, octets => octets.take size :: pieces sizes (octets.drop size)

/-! ### The service -/

/-- What answers lines, with a state of its own; it may fail to answer, and then it is gone. -/
abbrev Answering (κ : Type) := κ → Text → κ × Option Text

/-- Answers every line with `OK`. -/
def unattended {κ : Type} : Answering κ := fun state _ => (state, some (Text.ofString "OK"))

/-- One connection. -/
structure Connection (κ : Type) where
  /-- The state after it. -/
  state : κ
  /-- What is sent back. -/
  sent : Option (List UInt8)
  /-- The service goes on. -/
  goesOn : Bool

/-- Takes one connection, given what the peer sends piece by piece. -/
def connect {κ : Type} (answering : Answering κ) (state : κ) (pieces : List (List UInt8)) :
    Connection κ :=
  let line := gather [] pieces
  let (state, answer) := answering state line
  ⟨state, answer.map reply, answer.isSome && !ends line⟩

/-- Takes connections in order, up to the one that ends the service: what is sent back to each. -/
def serve {κ : Type} (answering : Answering κ) :
    κ → List (List (List UInt8)) → κ × List (Option (List UInt8))
  | state, [] => (state, [])
  | state, pieces :: rest =>
    let connection := connect answering state pieces
    if connection.goesOn then
      let (state, others) := serve answering connection.state rest
      (state, connection.sent :: others)
    else (connection.state, [connection.sent])

end Canopen.Exchange
