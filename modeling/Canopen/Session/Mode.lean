/-
**The kinds of transfer, and the phases of a block transfer.**
-/

namespace Canopen

/-- The transfer that is open. -/
inductive Mode
  | idle
  | segmentedUpload
  | segmentedDownload
  | blockUpload
  | blockDownload
  deriving DecidableEq, Repr, Inhabited

/-- The name of a mode. -/
def Mode.name : Mode → String
  | idle => "idle"
  | segmentedUpload => "segmented-upload"
  | segmentedDownload => "segmented-download"
  | blockUpload => "block-upload"
  | blockDownload => "block-download"

/-- Where a block transfer stands. -/
inductive Phase
  /-- No block transfer is open. -/
  | none
  /-- An upload is announced and waits for its start. -/
  | initiated
  /-- A window of an upload is on its way. -/
  | awaitingAck
  /-- Segments of a download are expected. -/
  | receiving
  /-- The last segment of a download is here, its end is not. -/
  | awaitingEnd
  deriving DecidableEq, Repr, Inhabited

/-- The name of a phase. -/
def Phase.name : Phase → String
  | none => "none"
  | initiated => "initiated"
  | awaitingAck => "awaiting-ack"
  | receiving => "receiving"
  | awaitingEnd => "awaiting-end"

end Canopen
