/-
**Where sockets live: a tree of directories, files and sockets.**

* `Places.resolve`: the place that a path names. Every part but the last has to be a directory.
* `Places.makeDirectories`: a directory and those above it, made as far as they are missing. What
  is made before a failure stays.
* `Places.listen`: a socket at a path, in place of a file or socket there.
* `Places.reach`: whether a path leads to a socket that somebody serves.

A path ends at its first NUL, and without a slash in front it starts at the working directory. All
sockets in the tree are served.
-/

import Canopen.Notice

namespace Canopen

/-- What is at a place. -/
inductive PlaceKind
  | directory
  | file
  | socket
  deriving DecidableEq, Repr, Inhabited

/-- A place, by the names that lead to it. -/
abbrev Place := List Text

/-- The places that are taken, in the working directory and elsewhere. -/
structure Places where
  taken : List (Place × PlaceKind)
  deriving DecidableEq, Repr, Inhabited

namespace Places

/-- The name of the root among the places. -/
def rootName : Text := [Text.slash]

/-- The name of a directory inside itself. -/
def here : Text := Text.ofString "."

/-- The name of the directory above. -/
def upward : Text := Text.ofString ".."

/-- The place of a socket whose path is cut to nothing. No path leads there. -/
def nameless : Place := [[Text.nul]]

/-- An empty working directory. -/
def empty : Places := ⟨[]⟩

/-- What is at a place; the working directory, those above it and the root are always there. -/
def at? (places : Places) (place : Place) : Option PlaceKind :=
  if place = [rootName] ∨ place.all (· == upward) then some .directory
  else (places.taken.find? fun entry => entry.1 == place).map Prod.snd

/-- The tree with something at a place. -/
def put (places : Places) (place : Place) (kind : PlaceKind) : Places :=
  ⟨places.taken ++ [(place, kind)]⟩

/-- The tree with a place cleared. -/
def clear (places : Places) (place : Place) : Places :=
  ⟨places.taken.filter fun entry => entry.1 != place⟩

/-! ### Paths -/

/-- The start of a path, and its parts. -/
def parts (path : Text) : Place × List Text :=
  match path.splitOn Text.slash with
  | [] :: rest => ([rootName], rest)
  | names => ([], names)

/-- One part further from a place. -/
def descend (place : Place) (name : Text) : Place :=
  if name = [] ∨ name = here then place
  else if name = upward then
    match place.getLast? with
    | some last =>
      if last = rootName then place
      else if last = upward then place ++ [upward]
      else place.dropLast
    | none => [upward]
  else place ++ [name]

/-- The place that parts lead to from a place. -/
def walk (places : Places) (place : Place) : List Text → Except Refusal Place
  | [] => .ok place
  | name :: rest =>
    match places.at? place with
    | none => .error .notFound
    | some .directory => places.walk (descend place name) rest
    | some _ => .error .notADirectory

/-- The place that a path names; nothing need be there yet. The empty path names none. -/
def resolve (places : Places) (path : Text) : Except Refusal Place :=
  let (start, names) := parts path.cut
  if path.cut = [] then .error .notFound else places.walk start names

/-- What a path names. -/
def find? (places : Places) (path : Text) : Option PlaceKind :=
  (places.resolve path).toOption.bind places.at?

/-- The path without slashes at its end; the root stays. -/
def dropSlashes (path : Text) : Text :=
  let kept := (path.reverse.dropWhile (· == Text.slash)).reverse
  if path ≠ [] ∧ kept = [] then rootName else kept

/-- The path above a path, empty for the working directory. -/
def parentPath (path : Text) : Text :=
  dropSlashes (path.reverse.dropWhile (· != Text.slash)).reverse

/-- The path of names from a start. -/
def pathOf (start : Place) (names : List Text) : Text :=
  start.flatten ++ [Text.slash].intercalate names

/-! ### Directories -/

/-- Makes one directory. Tells whether it was missing. -/
def makeDirectory (places : Places) (path : Text) : Except Refusal (Places × Bool) :=
  match places.resolve path with
  | .error reason => .error reason
  | .ok place =>
    match places.at? place with
    | none => .ok (places.put place .directory, true)
    | some .directory => .ok (places, false)
    | some _ => .error .alreadyThere

/-- Makes directories in order, as far as it goes. Tells whether the last was missing. -/
def makeEach (places : Places) (made : Bool) : List Text → Places × Except Refusal Bool
  | [] => (places, .ok made)
  | path :: rest =>
    match places.makeDirectory path with
    | .error reason => (places, .error reason)
    | .ok (places, made) => places.makeEach made rest

/-- The paths to make for a path, the uppermost first, given its names from the last one up: those
below the first path that is there. A path that ends in a dot is not made itself. -/
def missing (places : Places) (start : Place) : List Text → Except Refusal (List Text)
  | [] => .ok []
  | name :: above => do
    let others ←
      match places.find? (pathOf start above.reverse) with
      | none => places.missing start above
      | some .directory => .ok []
      | some _ => .error .notADirectory
    return if name = here ∨ name = upward then others
      else others ++ [pathOf start (above.reverse ++ [name])]

/-- Makes a directory and those above it, as far as they are missing. It fails without a reason if
the directory is there once those above it are. -/
def makeDirectories (places : Places) (path : Text) : Places × Except (Option Refusal) Unit :=
  let (start, names) := parts path
  match places.missing start (names.filter (· ≠ [])).reverse with
  | .error reason => (places, .error (some reason))
  | .ok paths =>
    match places.makeEach false paths with
    | (places, .error reason) => (places, .error (some reason))
    | (places, .ok false) => (places, .error none)
    | (places, .ok true) => (places, .ok ())

/-- Makes the directories above a path, unless something is there. -/
def makeParent (places : Places) (path : Text) : Places × Except Notice Unit :=
  let parent := parentPath path
  if parent = [] ∨ (places.find? parent).isSome then (places, .ok ())
  else
    let (places, outcome) := places.makeDirectories parent
    (places, outcome.mapError (Notice.directoryNotMade parent))

/-! ### Sockets -/

/-- The length of a path that is too long for a socket. -/
def pathLimit : Nat := 108

/-- What is wrong with the path of a socket. -/
def pathFault (path : Text) : Option Notice :=
  if path = [] then some .pathEmpty
  else if pathLimit ≤ path.length then some (.pathTooLong path)
  else none

/-- The place that the path of a socket names. -/
def address (places : Places) (path : Text) : Except Refusal Place :=
  if path.cut = [] then .ok nameless else places.resolve path

/-- Binds a socket at a path. A file or socket there is taken away first, but not if the path ends
in a slash. -/
def bind (places : Places) (path : Text) : Except Refusal (Places × Place) :=
  let name := dropSlashes path.cut
  match places.address name with
  | .error reason => .error reason
  | .ok place =>
    match places.at? place with
    | some .directory => .error .addressInUse
    | some _ =>
      if name = path.cut then .ok ((places.clear place).put place .socket, place)
      else .error .addressInUse
    | none =>
      if name = path.cut then .ok (places.put place .socket, place) else .error .notFound

/-- Sets up a socket at a path: the tree after it, and the place or what went wrong. -/
def listen (places : Places) (path : Text) : Places × Except Notice Place :=
  match pathFault path with
  | some notice => (places, .error notice)
  | none =>
    match places.makeParent path with
    | (places, .error notice) => (places, .error notice)
    | (places, .ok ()) =>
      match places.bind path with
      | .error reason => (places, .error (.serviceBindFailed reason))
      | .ok (places, place) => (places, .ok place)

/-- Whether a path leads to a socket, or why not. -/
def reach (places : Places) (path : Text) : Except Notice Unit :=
  match places.address path with
  | .error reason => .error (.connectFailed reason)
  | .ok place =>
    match places.at? place with
    | some .socket => .ok ()
    | none => .error (.connectFailed (if place = nameless then .connectionRefused else .notFound))
    | some _ => .error (.connectFailed .connectionRefused)

/-- Whether a client may send a line to a path, or why not. -/
def contact (places : Places) (path line : Text) : Except Notice Unit :=
  if line = [] then .error .requestEmpty
  else match pathFault path with
    | some notice => .error notice
    | none => places.reach path

end Places

end Canopen
