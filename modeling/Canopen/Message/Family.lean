/-
**The families of client commands**, told apart by the three high bits of the command octet.
-/

import Canopen.Octets

namespace Canopen

/-- A family of client commands. -/
inductive Family
  | downloadSegment
  | download
  | upload
  | uploadSegment
  | abort
  | blockUpload
  | blockDownload
  | unknown
  deriving DecidableEq, Repr, Inhabited

namespace Family

/-- The family of a command octet. -/
def ofCommand (command : UInt8) : Family :=
  match field command 5 3 with
  | 0 => downloadSegment
  | 1 => download
  | 2 => upload
  | 3 => uploadSegment
  | 4 => abort
  | 5 => blockUpload
  | 6 => blockDownload
  | _ => unknown

/-- The name of a family. -/
def name : Family → String
  | downloadSegment => "segment-download"
  | download => "initiate-download"
  | upload => "initiate-upload"
  | uploadSegment => "segment-upload"
  | abort => "abort"
  | blockUpload => "block-upload"
  | blockDownload => "block-download"
  | unknown => "unknown"

end Family

end Canopen
