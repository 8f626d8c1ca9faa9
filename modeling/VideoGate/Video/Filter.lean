import VideoGate.Dispatch.Metadata
import VideoGate.Video.Store
import VideoGate.Video.Traffic

/-!
# The video filter

The filter drops the P slices of cameras that do not see the tracked object.  What a frame is
depends on its bytes alone (`Traffic.classify`); the store then decides about video, and takes
in positions.  Malformed and cut-off frames always pass: a frame is dropped only as a P slice
in one piece, or as a fragment while a P frame is in progress.

The filter is a reading (`filter`): all that it asks of a frame, it asks on the way.  It looks at
the payload of video only once the camera is known to be filtered, but comes to what its class asks
for in any case (`process_eq`).
-/

namespace VideoGate.VideoFilter

open VideoStore

variable {σ : Type} [VideoStore σ]

/-- The events that video of a camera counts before the store is asked anything. -/
def countedForVideo : List VideoStat := [.ipv4Packets, .udpPackets, .portChecks, .rtpPackets]

/-- The events that a frame of some class counts before the store is asked anything. -/
def countedOnTheWay : Traffic → List VideoStat
  | .notIpv4 => []
  | .notUdp => [.ipv4Packets]
  | .malformedIpv4 => [.ipv4Packets, .udpPackets]
  | .truncatedUdp => [.ipv4Packets, .udpPackets]
  | .position _ =>
      [.ipv4Packets, .udpPackets, .portChecks, .positionPortMatched, .positionPackets]
  | .otherHost => [.ipv4Packets, .udpPackets, .portChecks, .wrongHost]
  | .otherPort => [.ipv4Packets, .udpPackets, .portChecks, .wrongPort]
  | .noCamera => [.ipv4Packets, .udpPackets, .portChecks, .cameraOutOfRange]
  | .truncatedRtp => [.ipv4Packets, .udpPackets, .portChecks]
  | .otherVersion => [.ipv4Packets, .udpPackets, .portChecks, .wrongVersion]
  | .video _ _ => countedForVideo

def forward (store : σ) : Disposition × σ :=
  (.pass, count .forwarded store)

/-- Drops a frame as part of a P slice. -/
def dropSlice (store : σ) : Disposition × σ :=
  (.drop, countAll [.pSlices, .dropped] store)

/-- The mode of a camera; without an entry the global mode, and without that `off`. -/
def activeMode (camera : UInt32) (store : σ) : FilterMode × σ :=
  match cameraMode camera store with
  | some raw => (.ofRaw raw, store)
  | none =>
    let store := count .lookupFailed store
    (match globalMode store with
      | some raw => .ofRaw raw
      | none => .off, store)

/-- Decides about a fragment.  The first fragment of a P slice opens a P frame; while one is
open every fragment is dropped, and a last fragment closes it. -/
def decideFragment (header : Wire.FragmentHeader) (store : σ) : Disposition × σ :=
  let opens := header.isStart && Wire.isPSlice header.innerType
  let inFrame := pFrameInProgress store || opens
  let store := if header.isStart then count .fragmentStarts store else store
  let store := if opens then setPFrameInProgress true store else store
  if inFrame then
    dropSlice (if header.isEnd then setPFrameInProgress false store else store)
  else
    forward store

def decidePayload (payload : VideoPayload) (store : σ) : Disposition × σ :=
  match payload with
  | .truncated => forward store
  | .single nalType => if Wire.isPSlice nalType then dropSlice store else forward store
  | .fragment header => decideFragment header store

/-- Decides about video of a camera, whatever way its payload is looked at.  Nobody looks at the
payload of a camera that is not filtered. -/
def decideVideoThrough {m : Type → Type} [Monad m] (camera : UInt32) (look : m VideoPayload)
    (store : σ) : m (Disposition × σ) :=
  let (mode, store) := activeMode camera store
  match mode with
  | .off => return forward (count .modeOff store)
  | .dropP => return decidePayload (← look) (count .modeDropP store)
  | .forwardP => return decidePayload (← look) (count .modeForwardP store)

def decideVideo (camera : UInt32) (payload : VideoPayload) (store : σ) : Disposition × σ :=
  Id.run (decideVideoThrough camera (pure payload) store)

def decideTraffic (traffic : Traffic) (store : σ) : Disposition × σ :=
  let store := countAll (.stageEntries :: .totalPackets :: countedOnTheWay traffic) store
  match traffic with
  | .notIpv4 | .notUdp | .malformedIpv4 | .otherHost | .otherPort | .noCamera => forward store
  | .truncatedUdp | .truncatedRtp | .otherVersion | .position none => (.pass, store)
  | .position (some position) => (.pass, (applyPosition position store).2)
  | .video camera payload => decideVideo camera payload store

def filter (store : σ) : Reading (Disposition × σ) := do
  match ← Heading.ofFrame with
  | .settled traffic => return decideTraffic traffic store
  | .video camera payload =>
    let store := countAll (.stageEntries :: .totalPackets :: countedForVideo) store
    decideVideoThrough camera (VideoPayload.readAt payload) store

def process {π : Type} [FrameView π] (view : π) (store : σ) : Disposition × σ :=
  (filter store).run view

theorem decideVideo_eq (camera : UInt32) (payload : VideoPayload) (store : σ) :
    decideVideo camera payload store =
      match activeMode camera store with
      | (.off, store) => forward (count .modeOff store)
      | (.dropP, store) => decidePayload payload (count .modeDropP store)
      | (.forwardP, store) => decidePayload payload (count .modeForwardP store) := by
  unfold decideVideo decideVideoThrough
  rcases activeMode camera store with ⟨_ | _ | _, store⟩ <;> rfl

/-- To look at the payload on the way comes to the same as to know it. -/
theorem run_decideVideoThrough {π : Type} [FrameView π] (view : π) (camera : UInt32)
    (look : Reading VideoPayload) (store : σ) :
    (decideVideoThrough camera look store).run view =
      decideVideo camera (look.run view) store := by
  rw [decideVideo_eq]
  unfold decideVideoThrough
  rcases activeMode camera store with ⟨_ | _ | _, store⟩
  case off => rfl
  case dropP => rw [Reading.run_bind, Reading.run_pure]
  case forwardP => rw [Reading.run_bind, Reading.run_pure]

/-- **The filter decides about the class of a frame.** -/
theorem process_eq {π : Type} [FrameView π] (view : π) (store : σ) :
    process view store = decideTraffic (Traffic.classify view) store := by
  unfold process filter Traffic.classify
  rw [Reading.run_bind, Reading.run_bind]
  cases Heading.ofFrame.run view with
  | settled traffic => rfl
  | video camera payload =>
      dsimp only
      rw [run_decideVideoThrough, Heading.run_classify_video]
      rfl

end VideoGate.VideoFilter
