/-
**Notices: everything that the node reports to its operator.**

* `Notice`: what happened.
* `Notice.level`: how much it matters.
* `Notice.text`: its words.
* `Notice.line`: the words behind the tag of the level.

A text from outside is quoted up to its first NUL.
-/

import Canopen.Frame
import Canopen.Level
import Canopen.Refusal
import Canopen.Target
import Canopen.Session.Mode
import Canopen.Store.Status
import Canopen.Text.Hex

namespace Canopen

/-- What happened. -/
inductive Notice
  -- The server.
  | frameReceived (id : UInt32) (time : Nat) (mode : Mode) (octets : List UInt8)
  | responding (payload : Payload)
  | frameNotTaken (link : Text) (id : UInt32)
  | unknownCommand (command : UInt8)
  | storeFailed (mode : Mode) (target : Target) (reason : Option Text)
  | aborting (target : Target) (mode : Mode) (code : UInt32)
  | abortingLocally (target : Target) (mode : Mode) (code : UInt32)
  | abortedByClient (target : Target) (code : UInt32)
  | readRefused (target : Target) (status : Status)
  | writeRefused (target : Target) (size : Nat) (status : Status)
  -- Expedited and segmented transfers.
  | nothingToUpload (target : Target)
  | expeditedUpload (target : Target)
  | uploadStarted (target : Target) (size : Nat)
  | uploadNotOpen
  | uploadComplete (target : Target) (size : Nat)
  | expeditedDownload (target : Target)
  | downloadStarted (target : Target)
  | sizeDeclared (size : UInt32)
  | downloadNotOpen
  | moreThanDeclared (target : Target) (declared : UInt32)
  | lessThanDeclared (target : Target) (size : Nat) (declared : UInt32)
  | downloadComplete (target : Target) (size : Nat)
  -- Block transfers.
  | blockUploadStarted (target : Target) (size blockSize : Nat) (checksummed : Bool)
  | startNotExpected (mode : Mode)
  | windowSent (target : Target) (count left : Nat)
  | ackNotExpected (mode : Mode)
  | ackTooHigh (count sent : Nat)
  | resending (target : Target) (count sent : Nat)
  | blockUploadComplete (target : Target) (size : Nat)
  | blockUploadConfirmed (target : Target)
  | blockDownloadStarted (target : Target) (declared : Option UInt32) (checksummed : Bool)
  | segmentNotExpected (target : Target) (expected number : Nat)
  | endNotExpected (mode : Mode)
  | checksumCompared (received calculated running : UInt16)
  | blockWriteFailed (target : Target) (size : Nat) (status : Status)
  | blockDownloadComplete (target : Target) (size : Nat)
  -- The dictionary.
  | sizeNotFitting (target : Target) (fixed size : Nat)
  | initialValueNotFitting (target : Target) (name : Text) (size fixed : Nat)
  | alreadyDefined (target : Target)
  | written (target : Target) (size : Nat)
  -- The node and its console.
  | linkNotStarted (link iface : Text)
  | serving (node : UInt8) (link : Text) (receiveId sendId : UInt32)
  | orderReceived (line : Text)
  | quitting
  | unknownOrder (word : Text)
  -- The bus.
  | interfaceInvalid (iface : Text)
  | busUnavailable (reason : Refusal)
  | interfaceUnknown (iface : Text) (reason : Refusal)
  | filterRefused (reason : Refusal)
  | bindRefused (iface : Text) (reason : Refusal)
  | bound (iface : Text) (number : Int)
  | busWriteFailed (id : UInt32) (reason : Refusal)
  -- The line service.
  | directoryNotMade (path : Text) (reason : Option Refusal)
  | pathEmpty
  | pathTooLong (path : Text)
  | serviceBindFailed (reason : Refusal)
  | listening (path : Text)
  | requestEmpty
  | connectFailed (reason : Refusal)
  | sendingLine (line : Text)
  -- Settings, the daemon and the tool.
  | socketDefaults (path : Text)
  | nodeIdInvalid (value : Text)
  | levelInvalid (value : Text)
  | transportUnknown (value : Text)
  | configuration (transport iface : Text) (node : UInt8)
  | dictionaryReady (size : Nat)
  | nodeNotStarted
  | serviceNotStarted
  | running (command : Text)
  deriving DecidableEq, Repr

namespace Notice

/-- How much the notice matters. -/
def level : Notice → Level
  | frameReceived .. | responding .. | windowSent .. | blockUploadConfirmed .. | checksumCompared ..
  | sizeNotFitting .. | orderReceived .. | listening .. | sendingLine .. | running .. => .debug
  | abortingLocally .. | abortedByClient .. | readRefused .. | writeRefused .. | nothingToUpload ..
  | expeditedUpload .. | uploadStarted .. | uploadComplete .. | expeditedDownload ..
  | downloadStarted .. | sizeDeclared .. | downloadComplete .. | blockUploadStarted ..
  | blockUploadComplete .. | blockDownloadStarted .. | blockDownloadComplete .. | written ..
  | serving .. | quitting | bound .. | dictionaryReady .. => .info
  | frameNotTaken .. | unknownCommand .. | aborting .. | moreThanDeclared .. | lessThanDeclared ..
  | startNotExpected .. | ackNotExpected .. | ackTooHigh .. | resending .. | segmentNotExpected ..
  | endNotExpected .. | blockWriteFailed .. | unknownOrder .. | filterRefused ..
  | busWriteFailed .. | nodeIdInvalid .. | levelInvalid .. | transportUnknown .. => .warning
  | storeFailed .. | uploadNotOpen | downloadNotOpen | initialValueNotFitting ..
  | alreadyDefined .. | linkNotStarted .. | interfaceInvalid .. | busUnavailable ..
  | interfaceUnknown .. | bindRefused .. | directoryNotMade .. | pathEmpty | pathTooLong ..
  | serviceBindFailed .. | requestEmpty | connectFailed .. | nodeNotStarted
  | serviceNotStarted => .error
  | socketDefaults .. | configuration .. => .system

/-- A part of a text: a constant of the program. -/
def say (text : String) : Text := Text.ofString text

/-- A part of a text: an identifier or a code in the form `0x601`, with at least `width` digits. -/
def hex (width : Nat) (number : Nat) : Text := say "0x" ++ Text.hexadecimal width number

/-- A part of a text: a switch. -/
def onOff (set : Bool) : Text := say (if set then "on" else "off")

/-- A part of a text: an integer. -/
def integer : Int → Text
  | .ofNat number => Text.decimal number
  | .negSucc number => say "-" ++ Text.decimal (number + 1)

/-- A part of a text: a code with its meaning. -/
def abortText (code : UInt32) : Text :=
  hex 8 code.toNat ++ say " " ++ say (Abort.describe code)

/-- A part of a text: so many octets in parentheses. -/
def sized (size : Nat) : Text := say " (" ++ Text.decimal size ++ say " bytes)"

/-- The words of a notice. -/
def text : Notice → Text
  | frameReceived id time mode octets =>
    say "rx id=" ++ hex 3 id.toNat ++ say " t=" ++ Text.decimal time ++ say " mode="
      ++ say mode.name ++ say ": " ++ Hex.dump octets
  | responding payload => say "Sending response: " ++ Hex.dump payload.toList
  | frameNotTaken link id =>
    say "transport '" ++ link.cut ++ say "' did not take frame id=" ++ hex 3 id.toNat
  | unknownCommand command => say "unknown command specifier " ++ hex 2 command.toNat
  | storeFailed mode target (some reason) =>
    say "unexpected failure in " ++ say mode.name ++ say " transfer of " ++ target.text ++ say ": "
      ++ reason.cut
  | storeFailed mode target none =>
    say "unexpected non-standard exception in " ++ say mode.name ++ say " transfer of "
      ++ target.text
  | aborting target mode code =>
    say "Aborting " ++ target.text ++ say " (" ++ say mode.name ++ say "): " ++ abortText code
  | abortingLocally target mode code =>
    say "Local abort of " ++ target.text ++ say " (" ++ say mode.name ++ say "): "
      ++ abortText code
  | abortedByClient target code =>
    say "Received request aborted for " ++ target.text ++ say " with code " ++ hex 8 code.toNat
      ++ say " (" ++ say (Abort.describe code) ++ say ")"
  | readRefused target status =>
    say "read " ++ target.text ++ say " refused: " ++ say status.text
  | writeRefused target size status =>
    say "write " ++ target.text ++ sized size ++ say " refused: " ++ say status.text
  | sizeNotFitting target fixed size =>
    target.text ++ say " expects " ++ Text.decimal fixed ++ say " bytes, got " ++ Text.decimal size
  | initialValueNotFitting target name size fixed =>
    target.text ++ say " '" ++ name.cut ++ say "': default value has " ++ Text.decimal size
      ++ say " bytes, type needs " ++ Text.decimal fixed
  | alreadyDefined target => target.text ++ say " already defined"
  | written target size => target.text ++ say " written" ++ sized size
  | nothingToUpload target => say "No content to upload for " ++ target.text
  | expeditedUpload target => say "Expedited upload for " ++ target.text
  | uploadStarted target size => say "Initiating segmented upload for " ++ target.text ++ sized size
  | uploadNotOpen => say "No buffer initialized for segmented upload"
  | uploadComplete target size =>
    say "Segmented upload of " ++ target.text ++ say " complete" ++ sized size
  | expeditedDownload target => say "Expedited download for " ++ target.text
  | downloadStarted target => say "Initiating segmented download for " ++ target.text
  | sizeDeclared size => say "Size is " ++ Text.decimal size.toNat ++ say " bytes"
  | downloadNotOpen => say "No buffer initialized for segmented download"
  | moreThanDeclared target declared =>
    target.text ++ say ": more data than the declared " ++ Text.decimal declared.toNat
      ++ say " bytes"
  | lessThanDeclared target size declared =>
    target.text ++ say ": got " ++ Text.decimal size ++ say " of " ++ Text.decimal declared.toNat
      ++ say " declared bytes"
  | downloadComplete target size =>
    say "Segmented download of " ++ target.text ++ say " complete" ++ sized size
  | blockUploadStarted target size blockSize checksummed =>
    say "Initiating block upload for " ++ target.text ++ say " (" ++ Text.decimal size
      ++ say " bytes, blksize " ++ Text.decimal blockSize ++ say ", crc " ++ onOff checksummed
      ++ say ")"
  | startNotExpected mode =>
    say "start of block upload without a pending initiate (mode " ++ say mode.name ++ say ")"
  | windowSent target count left =>
    say "block upload " ++ target.text ++ say ": window of " ++ Text.decimal count
      ++ say " segments sent, " ++ Text.decimal left ++ say " bytes left"
  | ackNotExpected mode =>
    say "block upload ack without an outstanding window (mode " ++ say mode.name ++ say ")"
  | ackTooHigh count sent =>
    say "client acked segment " ++ Text.decimal count ++ say ", only " ++ Text.decimal sent
      ++ say " were sent"
  | resending target count sent =>
    say "block upload " ++ target.text ++ say ": client has " ++ Text.decimal count ++ say " of "
      ++ Text.decimal sent ++ say " segments, resending the rest"
  | blockUploadComplete target size =>
    say "Block upload of " ++ target.text ++ say " complete" ++ sized size
  | blockUploadConfirmed target =>
    say "Client confirmed end of block upload for " ++ target.text
  | blockDownloadStarted target declared checksummed =>
    say "Initiating block download for " ++ target.text ++ say " (size "
      ++ say (if declared.isSome then "" else "unknown/")
      ++ Text.decimal (declared.getD 0).toNat ++ say ", crc " ++ onOff checksummed ++ say ")"
  | segmentNotExpected target expected number =>
    say "block download " ++ target.text ++ say ": expected segment " ++ Text.decimal expected
      ++ say ", got " ++ Text.decimal number
  | endNotExpected mode =>
    say "end of block download without a completed transfer (mode " ++ say mode.name ++ say ")"
  | checksumCompared received calculated register =>
    say "block download crc: received " ++ hex 4 received.toNat ++ say ", calculated "
      ++ hex 4 calculated.toNat ++ say " (running " ++ hex 4 register.toNat ++ say ")"
  | blockWriteFailed target size status =>
    say "write " ++ target.text ++ sized size ++ say " failed: " ++ say status.text
  | blockDownloadComplete target size =>
    say "Block download of " ++ target.text ++ say " complete" ++ sized size
  | linkNotStarted link iface =>
    say "transport '" ++ link.cut ++ say "' failed to start on '" ++ iface.cut ++ say "'"
  | serving node link receiveId sendId =>
    say "SDO server for node " ++ Text.decimal node.toNat ++ say " on " ++ link.cut ++ say ": rx "
      ++ hex 3 receiveId.toNat ++ say ", tx " ++ hex 3 sendId.toNat
  | orderReceived line => say "control: " ++ line.cut
  | quitting => say "Received QUIT command, exiting..."
  | unknownOrder word => say "unknown control command '" ++ word.cut ++ say "'"
  | interfaceInvalid iface => say "[CAN] invalid interface name '" ++ iface.cut ++ say "'"
  | busUnavailable reason => say "[CAN] socket() failed: " ++ say reason.text
  | interfaceUnknown iface reason =>
    say "[CAN] no such interface " ++ iface.cut ++ say ": " ++ say reason.text
  | filterRefused reason => say "[CAN] CAN_RAW_FILTER failed: " ++ say reason.text
  | bindRefused iface reason =>
    say "[CAN] bind(" ++ iface.cut ++ say ") failed: " ++ say reason.text
  | bound iface number =>
    say "[CAN] bound to " ++ iface.cut ++ say " (ifindex " ++ integer number ++ say ")"
  | busWriteFailed id reason =>
    say "[CAN] write(id=" ++ hex 3 id.toNat ++ say ") failed: " ++ say reason.text
  | directoryNotMade path reason =>
    say "create_directories(" ++ path.cut ++ say ") failed: "
      ++ say ((reason.map Refusal.text).getD "Success")
  | pathEmpty => say "Invalid socket path"
  | pathTooLong path => say "Path name too long for AF_UNIX: " ++ path.cut
  | serviceBindFailed reason => say "bind() failed: " ++ say reason.text
  | listening path => say "Listening on " ++ path.cut
  | requestEmpty => say "Invalid request line"
  | connectFailed reason => say "connect() failed: " ++ say reason.text
  | sendingLine line => say "Sending line: " ++ line.cut
  | socketDefaults path => say "Control socket defaults to " ++ path.cut
  | nodeIdInvalid value =>
    say "Ignoring invalid SDOSRV_NODE_ID='" ++ value.cut ++ say "' (expect 1..127)"
  | levelInvalid value => say "Ignoring invalid SDOSRV_LOG_LEVEL='" ++ value.cut ++ say "'"
  | transportUnknown value =>
    say "Ignoring unknown SDOSRV_TRANSPORT='" ++ value.cut ++ say "', using loopback"
  | configuration transport iface node =>
    say "Config: transport=" ++ transport.cut ++ say " iface=" ++ iface.cut ++ say " node="
      ++ Text.decimal node.toNat
  | dictionaryReady size => say "Object dictionary ready (" ++ Text.decimal size ++ say " entries)"
  | nodeNotStarted => say "NodeService start failed"
  | serviceNotStarted => say "start_server failed"
  | running command => say "Running command: " ++ command.cut

/-- The words behind the tag of the level. -/
def line (notice : Notice) : Text :=
  say notice.level.tag ++ say " " ++ notice.text

end Notice

end Canopen
