/-
**From a request to its plan.**

* `Session.interpret`: the octets of a frame as a request, which depends on the session only while
  a block download is receiving.
* `Session.plan`: what the request comes to.
-/

import Canopen.Session.BlockDownload
import Canopen.Session.BlockUpload

namespace Canopen.Session

/-- The octets of a frame as a request. -/
def interpret (session : Session) (octets : List UInt8) : Request :=
  if session.isReceiving then Request.decodeSegment octets else Request.decode octets

/-- What a request comes to. An opening takes the place of whatever transfer is open. -/
def plan (session : Session) : Request → Plan
  | .empty => .finish (.fail session .invalidCommand [])
  | .upload target => openUpload target
  | .uploadSegment toggle => .finish (session.uploadSegment toggle)
  | .expedited target data => expedited target data
  | .download target declared => .finish (openDownload target declared)
  | .downloadSegment toggle data last => session.downloadSegment toggle data last
  | .aborted target code => .finish (.done session [.note (.abortedByClient target code)])
  | .blockUpload target checksummed blockSize => openBlockUpload target checksummed blockSize
  | .blockUploadStart => .finish session.blockUploadStart
  | .blockUploadAck count blockSize => .finish (session.blockUploadAck count blockSize)
  | .blockUploadEnd => .finish session.blockUploadEnd
  | .blockDownload target checksummed declared =>
    .finish (openBlockDownload target checksummed declared)
  | .blockSegment segment => .finish (session.blockSegment segment)
  | .blockDownloadEnd padding checksum => session.blockDownloadEnd padding checksum
  | .unknown command => .finish (.fail session .invalidCommand [.unknownCommand command])

end Canopen.Session
