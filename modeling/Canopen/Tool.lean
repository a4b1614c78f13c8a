/-
**The operator's tool: one command, checked, sent as one line, and its answer shown.**

* `Tool.options`: the options and the words of a command.
* `Tool.compose`: the line that a command sends, or why it is rejected.
* `Tool.prepare`: all that happens before the line is sent.
* `Tool.run`: a whole run with something that asks the service; it asks at most once.

The exit code tells whether the service agreed, refused, was not there, or was never asked.
-/

import Canopen.Order
import Canopen.Service
import Canopen.Settings

namespace Canopen.Tool

/-- How a run ends. -/
inductive Exit
  | agreed
  | rejected
  | unreachable
  | refused
  deriving DecidableEq, Repr, Inhabited

/-- The exit code. -/
def Exit.code : Exit → Nat
  | agreed => 0
  | rejected => 2
  | unreachable => 3
  | refused => 4

/-- A remark on the error output. -/
inductive Remark
  | notice (notice : Notice)
  | plain (text : Text)
  deriving DecidableEq, Repr

/-- The lines of a remark, none for a notice below the threshold. -/
def Remark.lines (threshold : Level) : Remark → List Text
  | notice reported => if threshold.admits reported.level then reported.line.lines else []
  | plain text => text.lines

/-- How the tool is used. -/
def usage : List Text :=
  ["Usage:",
    "  sdoctl [--sock <path>] <command> [args]",
    "",
    "Commands:",
    "  get <index> <subindex>",
    "  set <index> <subindex> <hex>",
    "  abort <code>",
    "  status",
    "  level debug|info|warn|error",
    "  quit"].map Text.ofString

/-- Why a command is rejected. -/
inductive Rejection
  | usage
  | unknown (word : Text)
  | index (word : Text)
  | subindex (word : Text)
  | hex (word : Text)
  | abortCode (word : Text)
  | level
  | newline
  deriving DecidableEq, Repr

/-- The rejection in lines. -/
def Rejection.lines : Rejection → List Text
  | usage => Tool.usage
  | unknown word => (Text.ofString "Unknown command: " ++ word) :: Tool.usage
  | index word => [Text.ofString "error: invalid index: " ++ word]
  | subindex word => [Text.ofString "error: invalid subindex: " ++ word]
  | hex word => [Text.ofString "error: invalid hex data: " ++ word]
  | abortCode word => [Text.ofString "error: invalid abort code: " ++ word]
  | level => [Text.ofString "error: level expects debug|info|warn|error"]
  | newline =>
    Tool.usage ++ [Text.ofString "error: command line must not contain newline characters"]

/-! ### The line of a command -/

/-- Words with single spaces between them. -/
def join (words : List Text) : Text := (Text.ofString " ").intercalate words

/-- The words of a target are checked. -/
def checkTarget (index subindex : Text) : Except Rejection Unit :=
  if (Numeral.parse? index 0xFFFF).isNone then .error (.index index)
  else if (Numeral.parse? subindex 0xFF).isNone then .error (.subindex subindex)
  else .ok ()

/-- The line to read an entry. -/
def composeGet : List Text → Except Rejection Text
  | [index, subindex] => do
    checkTarget index subindex
    return join [Text.ofString "GET", index, subindex]
  | _ => .error .usage

/-- The line to write an entry. -/
def composeSet : List Text → Except Rejection Text
  | [index, subindex, hex] => do
    checkTarget index subindex
    if (Hex.decode? hex).isNone then throw (.hex hex)
    return join [Text.ofString "SET", index, subindex, hex]
  | _ => .error .usage

/-- The line to end a transfer. -/
def composeAbort : List Text → Except Rejection Text
  | [word] =>
    if (Abort.parse? word).isNone then .error (.abortCode word)
    else .ok (join [Text.ofString "ABORT", word])
  | _ => .error .usage

/-- The names that the tool lets through for a level. -/
def levelNames : List Text := ["debug", "info", "warn", "error"].map Text.ofString

/-- The line to change the level. -/
def composeLevel : List Text → Except Rejection Text
  | [word] =>
    if word.lower ∈ levelNames then .ok (join [Text.ofString "LEVEL", word.lower])
    else .error .level
  | _ => .error .usage

/-- The commands. -/
inductive Command
  | get
  | set
  | abort
  | status
  | level
  | quit
  deriving DecidableEq, Repr

/-- The command with a name. -/
def Command.ofName? (name : Text) : Option Command :=
  ([("get", get), ("set", set), ("abort", abort), ("status", status), ("level", level),
    ("quit", quit)].find? fun entry => Text.ofString entry.1 == name).map Prod.snd

/-- The line of a command with its arguments. -/
def Command.compose (arguments : List Text) : Command → Except Rejection Text
  | get => composeGet arguments
  | set => composeSet arguments
  | abort => composeAbort arguments
  | status => .ok (Text.ofString "STATUS")
  | level => composeLevel arguments
  | quit => .ok (Text.ofString "QUIT")

/-- The line, unless a line feed would make it two. -/
def checkLine (line : Text) : Except Rejection Text :=
  if Text.newline ∈ line then .error .newline else .ok line

/-- The line that the words of a command send, with the notice that it runs. -/
def compose (name : Text) (arguments : List Text) : List Remark × Except Rejection Text :=
  match Command.ofName? name with
  | none => ([], .error (.unknown name))
  | some command => ([.notice (.running name)], command.compose arguments >>= checkLine)

/-! ### A run -/

/-- What options leave: a call for help, or the path of a socket, if one is given, and the words. -/
inductive Options
  | help
  | run (path : Option Text) (words : List Text)
  deriving DecidableEq, Repr

/-- The option for the path of the socket. -/
def socketOption : Text := Text.ofString "--sock"

/-- The word asks for help. -/
def isHelp (word : Text) : Bool := word == Text.ofString "--help" || word == Text.ofString "-h"

/-- Options may stand anywhere; of several paths the last counts. -/
def options (path : Option Text) (words : List Text) : List Text → Options
  | [] => .run path words
  | [word] => if isHelp word then .help else .run path (words ++ [word])
  | word :: next :: rest =>
    if isHelp word then .help
    else if word = socketOption then options (some next) words rest
    else options path (words ++ [word]) (next :: rest)

/-- What a run comes to before it asks the service. -/
inductive Preparation
  | stop (exit : Exit) (remarks : List Remark)
  | ask (path line : Text) (remarks : List Remark)
  deriving DecidableEq, Repr

/-- Remarks of the tool's own. -/
def plain (lines : List Text) : List Remark := lines.map Remark.plain

/-- The path of the socket: the option if it holds one, and otherwise the setting. -/
def socket (environment : Environment) (path : Option Text) : Text × List Remark :=
  match (path.map environment.expandHome).filter (· ≠ []) with
  | some path => (path, [])
  | none =>
    let (path, notices) := environment.fullSocketPath
    (path, notices.map Remark.notice)

/-- All that happens before the line is sent. -/
def prepare (environment : Environment) (arguments : List Text) : Preparation :=
  match options none [] (arguments.map Text.cut) with
  | .run path (name :: rest) =>
    let (path, remarks) := socket environment path
    let (started, line) := compose name rest
    let remarks := remarks ++ started
    match line with
    | .ok line => .ask path line remarks
    | .error rejection => .stop .rejected (remarks ++ plain rejection.lines)
  | .run _ [] => .stop .rejected (plain usage)
  | .help => .stop .agreed (plain usage)

/-- What a run shows. -/
structure Result where
  exit : Exit
  output : Text
  remarks : List Remark
  deriving DecidableEq, Repr

/-- The reply agrees. -/
def agrees (reply : Text) : Bool := (Text.ofString "OK").isPrefixOf reply

/-- What a run shows once the service is asked. -/
def complete (path : Text) (remarks : List Remark) (asked : Service.Asked) : Result :=
  let remarks := remarks ++ asked.notices.map Remark.notice
  match asked.reply with
  | some reply =>
    ⟨if agrees reply then .agreed else .refused, reply.cut ++ [Text.newline], remarks⟩
  | none =>
    ⟨.unreachable, [],
      remarks ++ [.plain (Text.ofString "error: cannot reach daemon at " ++ path)]⟩

/-- A whole run, with something that asks the service at a path. -/
def run {κ : Type} (environment : Environment) (arguments : List Text)
    (ask : κ → (path line : Text) → κ × Service.Asked) (state : κ) : κ × Result :=
  match prepare environment arguments with
  | .stop exit remarks => (state, ⟨exit, [], remarks⟩)
  | .ask path line remarks =>
    let (state, asked) := ask state path line
    (state, complete path remarks asked)

end Canopen.Tool
