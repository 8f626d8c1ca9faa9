import VideoGate.Frame.Sample
import VideoGate.Proofs.Frame.Window
import VideoGate.Table.Video
import VideoGate.Video.Filter

/-!
# The filter through a window of memory

A window adds up an address without a look at the carry, where a list of bytes checks the sum.  The
filter cannot tell them apart: it reads no header past byte 97, so no sum wraps in a window that
starts at least so far below the last address (`process_through_window`).
-/

namespace VideoGate.VideoFilter

/-- **The filter reads a window as the frame in it**, over every store.  A view that answers what
the filter asks for alike is filtered alike, and nothing that it asks for ends past byte 97.  So all
that is asked of a window which is not too near to the end of the memory is served from inside. -/
theorem process_through_window {σ : Type} [VideoStore σ] :
    (∀ {window : MemoryWindow} {frame : Frame}, window.Covers frame →
        ∀ store : σ, process window store = process frame store) ∧
      (∀ {π : Type} [FrameView π] (view : π) (store : σ),
        process view store = (filter store).run view ∧
          (∀ {π' : Type} [FrameView π'] (view' : π'),
            (∀ read ∈ (filter store).reads view, FrameView.fetch view read.offset read.count =
              FrameView.fetch view' read.offset read.count) →
              process view store = process view' store) ∧
          ∀ read ∈ (filter store).reads view, read.offset.toNat + read.count ≤ 97) ∧
      ∀ {window : MemoryWindow}, window.start.toNat + 97 < UInt64.size →
        ∀ store : σ, ∀ read ∈ (filter store).reads window, window.Serves read := by
  refine ⟨?alike, ?reads, ?served⟩
  case alike =>
    intro window frame hframe store
    exact (within_filter store).run_congr hframe.fetch_eq
  case reads =>
    intro π _ view store
    refine ⟨rfl, ?sufficient, (within_filter store).stop_le view⟩
    intro π' _ view' hreads
    exact (filter store).run_congr hreads
  case served =>
    intro window hlimit store read hread
    apply MemoryWindow.serves_of_le hlimit
    exact (within_filter store).stop_le window read hread

/-- The longest headers, at the end of the memory: the byte of the fragment is the last one of the
window, and there is no address behind it.  While the camera is not filtered, nobody asks for it. -/
theorem process_through_window_longest_headers :
    let sample : SampleFrame :=
      { destination := videoHost, port := cameraBasePort, ihl := 15,
        parts := [.rtp Wire.rtpVersion, .fragment true false 1] }
    let window := MemoryWindow.ofFrame 18446744073709551518 sample.bytes
    let tables := VideoTables.empty.setCameraRaw 0 1
    window.stop = 18446744073709551615 ∧ window.Covers sample.bytes ∧
      process window tables = process sample.bytes tables ∧
      (process sample.bytes tables).1 = .drop ∧
      (⟨96, 1⟩ : HeaderRead) ∈ (filter tables).reads window ∧ window.Serves ⟨96, 1⟩ ∧
      (⟨96, 1⟩ : HeaderRead) ∉ (filter VideoTables.empty).reads window := by
  intro sample window tables
  have hlength : sample.bytes.length = 97 := by decide +kernel
  have hcovers : window.Covers sample.bytes := by
    apply MemoryWindow.ofFrame_covers
    · rw [hlength]
      decide
    · decide
  have hread : (⟨96, 1⟩ : HeaderRead) ∈ (filter tables).reads window := by decide +kernel
  obtain ⟨halike, -, hserved⟩ := @process_through_window VideoTables _
  refine ⟨by decide +kernel, hcovers, halike hcovers tables, by decide +kernel, hread, ?_,
    by decide +kernel⟩
  exact hserved (by decide) tables _ hread

end VideoGate.VideoFilter
