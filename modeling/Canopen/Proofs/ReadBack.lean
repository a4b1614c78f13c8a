/-
**A client reads what was written.**

* `Server.taken`: the writes that a run asks for and the dictionary takes.
* `Dictionary.Offers.run`: **an entry offers the same value as long as no write to it is taken.**
* `Server.Returns`: what a client obtains from an entry, whichever way it uploads.
* `Server.returns_of_read`: a client obtains what the store supplies.
* `Server.run_reads_back`: **a client obtains what was downloaded**, however it was brought and
  whatever came between, unless another write to the entry was taken.
-/

import Canopen.Proofs.Delivery
import Canopen.Proofs.Downloads
import Canopen.Proofs.Uploads

namespace Canopen

/-- The dictionary takes the value that it is asked to write. -/
def WriteCall.isTaken (dictionary : Dictionary) (call : WriteCall) : Bool :=
  match (Store.write dictionary call.target call.data call.checked).outcome with
  | .ok .ok => true
  | _ => false

/-- The writes that a run asks for and the dictionary takes, in order. -/
def Server.taken (server : Server) (dictionary : Dictionary) : List Operation → List WriteCall
  | [] => []
  | operation :: later =>
    let reaction := server.perform dictionary operation
    (server.asks operation).filter (WriteCall.isTaken dictionary) ++
      taken reaction.server reaction.store later

namespace Dictionary.Offers

variable {dictionary : Dictionary} {target : Target} {value : Option (List UInt8)}

/-- Without observers, a write that is accepted is taken. -/
theorem isTaken_of_accepted (offers : dictionary.Offers target value) {call : WriteCall}
    {entry : Entry} (found : dictionary.find? call.target = some entry)
    (accepted : writeStatus entry call.data call.checked = .ok) :
    call.isTaken dictionary = true := by
  have written : Store.write dictionary call.target call.data call.checked =
      dictionary.store call.target call.data := write_of_accepted found accepted
  unfold WriteCall.isTaken
  rw [written, store, offers.unobserved]
  rfl

/-- **An entry offers the same value as long as no write to it is taken**, by induction on the
operations. -/
theorem run (offers : dictionary.Offers target value) {server : Server}
    {operations : List Operation}
    (apart : ∀ call ∈ server.taken dictionary operations, call.target ≠ target) :
    (server.run dictionary operations).store.Offers target value := by
  induction operations generalizing server dictionary with
  | nil => exact offers
  | cons operation later ih =>
    unfold Server.taken at apart
    obtain ⟨now, rest⟩ := List.forall_mem_append.mp apart
    refine ih ?_ rest
    -- A value that is set was asked for and is taken, so it is set elsewhere.
    rcases server.perform_cases dictionary operation with
      same | ⟨call, asked, entry, found, accepted, stored⟩
    · rw [same]
      exact offers
    · have taken := offers.isTaken_of_accepted found accepted
      rw [stored]
      exact offers.set_of_ne (now call (List.mem_filter.mpr ⟨asked, taken⟩)) call.data

end Dictionary.Offers

/-- The frame opens an upload of the entry, of either kind. -/
inductive Frame.OpensUpload (frame : Frame) (target : Target) : Prop
  | normal (opens : frame.Brings (.upload target))
  | blocks {checksummed : Bool} {blockSize : UInt8}
      (opens : frame.Brings (.blockUpload target checksummed blockSize.toNat))

/-- What a client obtains from an entry: nothing if the value is empty, and else the value, in
segments or in blocks, of which those that the client does not acknowledge are sent again. -/
structure Server.Returns {σ : Type} [Store σ] (server : Server) (store : σ) (target : Target)
    (value : List UInt8) : Prop where
  empty : value = [] → ∀ (frame : Frame) (time : Nat), frame.OpensUpload target →
    Event.responses (server.receive store frame time).events = [.abort target 0x08000024]
  normal : value ≠ [] → ∀ (frame : Frame) (time count : Nat) (operations : List Operation),
    frame.Brings (.upload target) → Sends operations (Request.asks false count) →
      Upload.obtain? target
          (Event.payloads (server.run store (.frame frame time :: operations)).events) =
        if Upload.rounds value ≤ count then some value else none
  blocks : value ≠ [] → ∀ (frame : Frame) (time : Nat) (checksummed : Bool) (opening : UInt8),
    frame.Brings (.blockUpload target checksummed opening.toNat) →
      let reaction := server.receive store frame time
      (∃ started : Response, Event.responses reaction.events = [started] ∧
          started = .blockUploadStarted target checksummed value.length ∧
          started.encode.double.toNat = value.length) ∧
        ∀ exchange, Exchange.Follows ⟨reaction.server, reaction.store, .new, 0⟩ exchange →
          ∃ first count, exchange.Delivers target value checksummed opening first count

namespace Server

variable {σ : Type} [Store σ] {server : Server} {store : σ} {frame : Frame} {target : Target}
  {value : List UInt8}

theorem plan_blockUpload (ready : server.session.isReceiving = false) {checksummed : Bool}
    {opening : UInt8} (opens : frame.Brings (.blockUpload target checksummed opening.toNat)) :
    server.session.plan (server.session.interpret frame.octets) =
      Session.openBlockUpload target checksummed opening.toNat := by
  have fits : (Request.blockUpload target checksummed opening.toNat).Fits := opening.toNat_lt
  rw [Session.interpret_of_brings ready fits opens]
  rfl

/-- **A client obtains what the store supplies.** -/
theorem returns_of_read (ready : server.session.isReceiving = false)
    (read : (Store.read store target true).outcome = .ok (.supplied value))
    (small : value.length < UInt32.size) : server.Returns store target value := by
  refine ⟨?_, ?_, ?_⟩
  · rintro rfl frame time opens
    cases opens with
    | normal opens => exact receive_supplied_empty (plan_upload ready opens) read time
    | blocks opens => exact receive_supplied_empty (plan_blockUpload ready opens) read time
  · intro nonempty frame time count operations opens sends
    exact run_upload ready opens read nonempty small sends time
  · intro nonempty frame time checksummed opening opens reaction
    obtain ⟨session, responses⟩ := receive_blockUpload ready opens read nonempty time
    have begins : Exchange.Tied target value checksummed opening
        ⟨reaction.server, reaction.store, .new, 0⟩
        ⟨value, 0, BlockUpload.clamp opening.toNat, checksummed, 0, false, []⟩ 0 0 :=
      ⟨session, BlockUpload.stands_opened nonempty _ _, rfl, rfl, rfl, rfl, rfl, Nat.le_refl _,
        fun _ => rfl⟩
    refine ⟨⟨_, responses, rfl, double_blockUploadStarted target checksummed small⟩, ?_⟩
    intro exchange follows
    obtain ⟨upload, first, count, tied⟩ := follows.tied begins
    exact ⟨first, count, tied.delivers⟩

variable {dictionary : Dictionary} {held : Option (List UInt8)} {data : List UInt8}
  {operations later : List Operation}

/-- **A client reads what was written.** A value is downloaded, by a client in any of the ways there
are or on this side, and answered with success. Then anything may happen, as long as no other write
to the entry is taken and no block download is receiving in the end. A client that uploads the entry
obtains the value. -/
theorem run_reads_back (offers : dictionary.Offers target held)
    (downloads : server.Downloads dictionary target data operations)
    (small : data.length < UInt32.size) :
    let stored := server.run dictionary operations
    let reached := stored.server.run stored.store later
    (∀ call ∈ stored.server.taken stored.store later, call.target ≠ target) →
      reached.server.session.isReceiving = false →
        reached.server.Returns reached.store target data := by
  intro stored reached apart ready
  have written : stored.store.Offers target (some data) := downloads.offers offers
  have kept : reached.store.Offers target (some data) := written.run apart
  exact returns_of_read ready kept.read small

/-- Ten octets in two segments, with a write on this side between them, and then a download to the
same entry that is refused. -/
theorem run_reads_back_segmented :
    let stored := (new 0x582).run (Dictionary.single ⟨0x2000, 1⟩ [])
      [.frame (Request.download ⟨0x2000, 1⟩ (some 10)).frame 0,
        .frame (Request.downloadSegment false [1, 2, 3, 4, 5, 6, 7] false).frame 1,
        .download ⟨0x2000, 1⟩ [9],
        .frame (Request.downloadSegment true [8, 9, 10] true).frame 2]
    let reached := stored.server.run stored.store
      [.frame (Request.download ⟨0x2000, 1⟩ (some 2)).frame 3,
        .frame (Request.downloadSegment false [1, 2, 3] true).frame 4]
    reached.server.Returns reached.store ⟨0x2000, 1⟩ [1, 2, 3, 4, 5, 6, 7, 8, 9, 10] := by
  have offers : (Dictionary.single ⟨0x2000, 1⟩ []).Offers ⟨0x2000, 1⟩ (some []) :=
    ⟨rfl, rfl, _, rfl, rfl, rfl⟩
  have downloads : (new 0x582).Downloads (Dictionary.single ⟨0x2000, 1⟩ []) ⟨0x2000, 1⟩
      [1, 2, 3, 4, 5, 6, 7, 8, 9, 10]
      [.frame (Request.download ⟨0x2000, 1⟩ (some 10)).frame 0,
        .frame (Request.downloadSegment false [1, 2, 3, 4, 5, 6, 7] false).frame 1,
        .download ⟨0x2000, 1⟩ [9],
        .frame (Request.downloadSegment true [8, 9, 10] true).frame 2] :=
    @Downloads.segmented (new 0x582) (Dictionary.single ⟨0x2000, 1⟩ []) ⟨0x2000, 1⟩ _ _ _
      (some 10) [[1, 2, 3, 4, 5, 6, 7], [8, 9, 10]] _ (Request.brings_frame (by decide))
      (List.cons_ne_nil _ _) (by decide) rfl
      (.request (Request.brings_frame (by decide)) (.aside rfl
        (.request (Request.brings_frame (by decide)) .nil))) rfl (by decide)
  exact run_reads_back offers downloads (by decide) (by decide) rfl

end Server

end Canopen
