/-
**The program.**

Without arguments it is the daemon on its loopback link, with the lines of the standard input for
orders. With arguments it is the operator's tool beside a daemon of its own. Nothing is decided
here.
-/

import Canopen.Daemon
import Canopen.Tool

namespace Canopen.Program

/-- A text for the terminal. -/
def shown (text : Text) : String :=
  (String.fromUTF8? ⟨text.toArray⟩).getD ""

/-- A text from the terminal. -/
def typed (text : String) : Text :=
  text.toUTF8.toList

/-- The variables of this process. -/
def environment : IO Environment := do
  let setting (name : String) : IO (Option Text) := return (← IO.getEnv name).map typed
  return {
    home := ← setting "HOME"
    controlSocket := ← setting "SDOSRV_CTL_SOCK"
    nodeId := ← setting "SDOSRV_NODE_ID"
    logLevel := ← setting "SDOSRV_LOG_LEVEL"
    transport := ← setting "SDOSRV_TRANSPORT"
    iface := ← setting "SDOSRV_CAN_IFACE" }

/-- A system without a bus. -/
def noBus : Bus.Conditions := ⟨some .notPermitted, .error .noDevice, none, none⟩

/-- Prints notices on the error output. -/
def report (notices : List Notice) : IO Unit :=
  (Journal.lines notices).forM fun line => IO.eprintln (shown line)

/-- Answers the lines of the standard input until one of them ends the service. -/
partial def attend (input output : IO.FS.Stream) (daemon : Daemon) : IO Unit := do
  let line ← input.getLine
  unless line.isEmpty do
    let connection := Exchange.connect Daemon.answering { daemon with journal := [] } [typed line]
    report connection.state.journal
    output.putStr (shown (connection.sent.getD []))
    output.flush
    if connection.goesOn then attend input output connection.state

/-- Runs the daemon. -/
def runDaemon : IO UInt32 := do
  match Daemon.start (← environment) noBus .empty with
  | .failed _ journal =>
    report journal
    return 1
  | .running service =>
    report service.state.journal
    attend (← IO.getStdin) (← IO.getStdout) service.state
    return 0

/-- Asks a daemon, if there is one. -/
def ask (service : Option (Service Daemon)) (path line : Text) :
    Option (Service Daemon) × Service.Asked :=
  match service with
  | none => (none, ⟨none, [.connectFailed .notFound]⟩)
  | some service =>
    let (service, asked) := service.request Daemon.answering path line
    (some service, asked)

/-- Runs the tool. -/
def runTool (arguments : List Text) : IO UInt32 := do
  let environment ← environment
  let service := match Daemon.start environment noBus .empty with
    | .running service => some service
    | .failed _ _ => none
  let (_, result) := Tool.run environment arguments ask service
  (result.remarks.flatMap (Tool.Remark.lines .info)).forM fun line => IO.eprintln (shown line)
  IO.print (shown result.output)
  return UInt32.ofNat result.exit.code

end Canopen.Program

open Canopen.Program in
/-- Runs the daemon or the tool. -/
def main (arguments : List String) : IO UInt32 :=
  if arguments.isEmpty then runDaemon else runTool (arguments.map typed)
