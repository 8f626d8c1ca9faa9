import VideoGate.Frame.Sample
import VideoGate.Proofs.Video.Verdict
import VideoGate.Stats.Summary

/-!
# The camera summary and the filter

A summary of the camera table calls a camera unfiltered by the word in its entry, and the filter
reads the same word for every packet of the camera.  They agree on all words, also on those that are
no mode: a camera is listed as unfiltered exactly if the filter lets its P slices pass
(`ofTable_agrees`).
-/

namespace VideoGate

open VideoFilter

/-! ## The summary -/

theorem FilterMode.filters_ofRaw_iff (raw : UInt32) :
    (ofRaw raw).filters = true ↔ raw = 1 ∨ raw = 2 := by
  have hoff := FilterMode.ofRaw_eq_off_iff raw
  cases hmode : ofRaw raw with
  | off => exact iff_of_false (by decide) (hoff.mp hmode)
  | dropP => exact iff_of_true rfl (Decidable.not_not.mp (mt hoff.mpr (by simp [hmode])))
  | forwardP => exact iff_of_true rfl (Decidable.not_not.mp (mt hoff.mpr (by simp [hmode])))

namespace CameraSummary

theorem toNat_ofNat_of_mem {table : List UInt32} {entry : UInt32 × Nat}
    (h : entry ∈ (table.take Camera.watching).zipIdx) :
    (UInt32.ofNat entry.2).toNat = entry.2 ∧ entry.2 < min table.length 100 := by
  have hlength := (List.mem_zipIdx' h).1
  rw [List.length_take] at hlength
  have hplace : entry.2 < min table.length 100 := by
    rw [Nat.min_comm]
    exact hlength
  refine ⟨UInt32.toNat_ofNat_of_lt' ?_, hplace⟩
  show entry.2 < 4294967296
  omega

theorem mem_unfiltered_iff (table : List UInt32) (id : UInt32) :
    id ∈ (ofTable table).unfiltered ↔
      ∃ raw, table[id.toNat]? = some raw ∧ id.toNat < 100 ∧ isFiltered raw = false := by
  unfold ofTable
  rw [List.mem_map]
  constructor
  · rintro ⟨entry, hentry, rfl⟩
    obtain ⟨hmem, hraw⟩ := List.mem_filter.mp hentry
    obtain ⟨hid, hplace⟩ := toNat_ofNat_of_mem hmem
    have hword := List.mem_zipIdx_iff_getElem?.mp hmem
    rw [List.getElem?_take] at hword
    split at hword
    · rw [hid]
      exact ⟨entry.1, hword, by omega, by simpa using hraw⟩
    · cases hword
  · rintro ⟨raw, hword, hid, hraw⟩
    refine ⟨(raw, id.toNat), List.mem_filter.mpr ⟨?_, by simp [hraw]⟩, UInt32.ofNat_toNat⟩
    rw [List.mem_zipIdx_iff_getElem?, List.getElem?_take]
    exact (if_pos hid).trans hword

/-- The ids stand in ascending order. -/
theorem pairwise_unfiltered (table : List UInt32) :
    (ofTable table).unfiltered.Pairwise (· < ·) := by
  unfold ofTable
  rw [List.pairwise_map]
  have hplaces : ((table.take Camera.watching).zipIdx).Pairwise fun a b => a.2 < b.2 := by
    rw [← List.pairwise_map (f := Prod.snd), List.zipIdx_map_snd]
    exact List.pairwise_lt_range'
  refine (hplaces.filter _).imp_of_mem ?_
  intro a b ha hb hlt
  have hida := (toNat_ofNat_of_mem (List.mem_filter.mp ha).1).1
  have hidb := (toNat_ofNat_of_mem (List.mem_filter.mp hb).1).1
  rw [UInt32.lt_iff_toNat_lt, hida, hidb]
  exact hlt

theorem length_add_filtering (table : List UInt32) :
    (ofTable table).unfiltered.length + (ofTable table).filtering.toNat = min table.length 100 := by
  let watched := (table.take Camera.watching).zipIdx
  have hlength : watched.length = min table.length 100 := by
    rw [List.length_zipIdx, List.length_take, Nat.min_comm]
    rfl
  have hsplit := watched.length_eq_countP_add_countP fun entry => isFiltered entry.1
  have hfiltering : (ofTable table).filtering.toNat =
      watched.countP fun entry => isFiltered entry.1 := by
    refine UInt32.toNat_ofNat_of_lt' (Nat.lt_of_le_of_lt List.countP_le_length ?_)
    rw [hlength]
    show min table.length 100 < 4294967296
    omega
  have hunfiltered : (ofTable table).unfiltered.length =
      watched.countP fun entry => !isFiltered entry.1 := by
    unfold ofTable
    rw [List.length_map, List.countP_eq_length_filter]
  rw [hfiltering, hunfiltered, ← hlength, hsplit, Nat.add_comm]
  simp

end CameraSummary

/-! ## The filter -/

/-- A P slice in one piece is passed exactly if the video of its camera is not filtered. -/
theorem process_eq_pass_iff_of_holdsWholeSlice {frame : Frame} {camera : UInt32}
    (hvideo : frame.IsVideo camera) (hslice : frame.HoldsWholeSlice) (tables : VideoTables) :
    (process frame tables).1 = .pass ↔ ¬ tables.Filters camera := by
  have hdrop : (process frame tables).1 = .drop ↔ tables.Filters camera := by
    rw [process_eq_drop_iff]
    constructor
    · rintro ⟨piece, hshows, -⟩
      obtain ⟨other, hother, hfilters⟩ := hshows.isFiltered
      exact hvideo.camera_unique hother ▸ hfilters
    · intro hfilters
      obtain ⟨nalType, hpiece, hdropped⟩ :
          ∃ nalType, frame.piece? = some (.whole nalType) ∧
            (Piece.whole nalType).isDropped tables.pFrame = true :=
        Frame.holdsWholeSlice_iff.mp hslice
      exact ⟨_, ⟨⟨camera, hvideo, hfilters⟩, hpiece⟩, hdropped⟩
  rw [← hdrop]
  cases (process frame tables).1 <;> simp

namespace SampleFrame

theorem networkLength_video (camera : UInt16) (part : PayloadPart) :
    (video camera part).bytes.networkLength = 20 := by
  have hbyte : (video camera part).bytes.byte 14 = 69 := rfl
  rw [Frame.networkLength, hbyte]

/-- A sample packet is video of its camera, whatever it carries. -/
theorem isVideo_video (camera : UInt32) (h : camera.toNat < 200) (part : PayloadPart) :
    (video camera.toUInt16 part).bytes.IsVideo camera := by
  let sample := video camera.toUInt16 part
  have hnetwork : sample.bytes.networkLength = 20 := networkLength_video camera.toUInt16 part
  have hlength : sample.bytes.length = (part.bytes ++ []).length + 54 := rfl
  show sample.bytes.IsVideo camera
  constructor
  case toIsUdp =>
    constructor
    case headers => omega
    case etherType =>
      have hhigh : sample.bytes.byte 12 = (Wire.bytes16 Wire.etherTypeIpv4).1.toNat := rfl
      have hlow : sample.bytes.byte 13 = (Wire.bytes16 Wire.etherTypeIpv4).2.toNat := rfl
      rw [Frame.word, hhigh, hlow, ← Wire.word16_toNat, Wire.word16_bytes16]
      rfl
    case protocol => rfl
    case ipLength => omega
    case udp => omega
  case host => exact ⟨rfl, rfl, rfl, rfl⟩
  case port =>
    have hhigh : sample.bytes.byte 36 = (Wire.bytes16 sample.port).1.toNat := rfl
    have hlow : sample.bytes.byte 37 = (Wire.bytes16 sample.port).2.toNat := rfl
    rw [Frame.port, hnetwork, Frame.word, hhigh, hlow, ← Wire.word16_toNat, Wire.word16_bytes16]
    show (cameraBasePort + camera.toUInt16).toNat = _
    rw [UInt16.toNat_add, UInt32.toNat_toUInt16]
    show (5000 + camera.toNat % 65536) % 65536 = _
    omega
  case inRange => exact h
  case rtp => omega
  case version =>
    have hflags : sample.bytes.byte 42 = 128 := rfl
    rw [hnetwork, hflags]

theorem holdsWholeSlice_video (camera : UInt16) :
    (video camera (.nalUnit 1)).bytes.HoldsWholeSlice := by
  let sample := video camera (.nalUnit 1)
  have hnetwork : sample.bytes.networkLength = 20 := networkLength_video camera (.nalUnit 1)
  have hlength : sample.bytes.length = 56 := rfl
  have htype : sample.bytes.nalType = 1 := by
    have hbyte : sample.bytes.byte 54 = 2 := rfl
    rw [Frame.nalType, hnetwork, hbyte]
  show sample.bytes.HoldsWholeSlice
  constructor
  case complete => omega
  case slice => omega

end SampleFrame

/-! ## Agreement -/

namespace VideoTables

/-- The entries of the first cameras are present and hold the words of a table. -/
def HoldsTable (tables : VideoTables) (table : List UInt32) : Prop :=
  ∀ camera < 100, ∀ raw, table[camera]? = some raw →
    tables.cameras[camera]? = some { raw, present := true }

theorem HoldsTable.filters_iff {tables : VideoTables} {table : List UInt32}
    (h : tables.HoldsTable table) {id : UInt32} (hid : id.toNat < 100) {raw : UInt32}
    (hraw : table[id.toNat]? = some raw) :
    tables.Filters id ↔ CameraSummary.isFiltered raw = true := by
  have hentry := h id.toNat hid raw hraw
  have heffective : tables.effectiveRaw id = raw := by
    unfold effectiveRaw cameraRaw?
    rw [hentry]
    rfl
  unfold Filters
  rw [heffective]
  exact (FilterMode.filters_ofRaw_iff raw).symm

end VideoTables

/-- **The summary agrees with the filter.**  It lists ids of watching cameras in ascending order and
counts the others; and over tables that hold the summed up words, a camera is listed exactly if the
filter passes every P slice in one piece that is sent to its port, whether or not a P frame is in
progress. -/
theorem CameraSummary.ofTable_agrees (table : List UInt32) :
    let summary := ofTable table
    summary.unfiltered.Pairwise (· < ·) ∧
      (∀ id ∈ summary.unfiltered, id.toNat < min table.length 100) ∧
      summary.unfiltered.length + summary.filtering.toNat = min table.length 100 ∧
      ∀ tables : VideoTables, tables.HoldsTable table → ∀ inProgress : Bool,
        ∀ id : UInt32, id.toNat < min table.length 100 →
          (id ∈ summary.unfiltered ↔ ∀ frame : Frame, frame.IsVideo id → frame.HoldsWholeSlice →
            (process frame { tables with pFrame := inProgress }).1 = .pass) := by
  intro summary
  refine ⟨pairwise_unfiltered table, ?below, length_add_filtering table, ?agree⟩
  case below =>
    intro id hid
    obtain ⟨raw, hraw, hwatching, -⟩ := (mem_unfiltered_iff table id).mp hid
    have hlength := (List.getElem?_eq_some_iff.mp hraw).1
    omega
  case agree =>
    intro tables htables inProgress id hid
    -- The flag is no part of what is summed up, so it may be taken as one with the tables.
    have hflagged : VideoTables.HoldsTable { tables with pFrame := inProgress } table := htables
    generalize ({ tables with pFrame := inProgress } : VideoTables) = flagged at hflagged ⊢
    have hlength : id.toNat < table.length := by omega
    have hwatching : id.toNat < 100 := by omega
    have hraw := List.getElem?_eq_getElem hlength
    have hfilters := hflagged.filters_iff hwatching hraw
    have hlisted : id ∈ summary.unfiltered ↔ ¬ flagged.Filters id := by
      rw [hfilters, Bool.not_eq_true, mem_unfiltered_iff, hraw]
      constructor
      · rintro ⟨raw, hword, -, hunfiltered⟩
        rwa [Option.some.inj hword]
      · intro hunfiltered
        exact ⟨_, rfl, hwatching, hunfiltered⟩
    rw [hlisted]
    constructor
    · intro hoff frame hvideo hslice
      exact (process_eq_pass_iff_of_holdsWholeSlice hvideo hslice _).mpr hoff
    · intro hpassed
      have hvideo := SampleFrame.isVideo_video id (by omega) (.nalUnit 1)
      have hslice := SampleFrame.holdsWholeSlice_video id.toUInt16
      exact (process_eq_pass_iff_of_holdsWholeSlice hvideo hslice _).mp
        (hpassed _ hvideo hslice)

/-- A word that is no mode: its camera is listed, and its slices pass. -/
theorem CameraSummary.ofTable_agrees_unknown_word :
    let tables := (VideoTables.empty.setCameraRaw 0 1).setCameraRaw 1 77
    let slice := (SampleFrame.video 1 (.nalUnit 1)).bytes
    (ofTable [1, 77]).unfiltered = [1] ∧
      ∀ inProgress, (process slice { tables with pFrame := inProgress }).1 = .pass := by
  intro tables slice
  have htables : tables.HoldsTable [1, 77] := by
    intro camera _ raw hraw
    rcases camera with _ | _ | camera
    · obtain rfl := Option.some.inj hraw
      decide +kernel
    · obtain rfl := Option.some.inj hraw
      decide +kernel
    · cases hraw
  have hvideo : slice.IsVideo 1 := SampleFrame.isVideo_video 1 (by decide) (.nalUnit 1)
  have hslice : slice.HoldsWholeSlice := SampleFrame.holdsWholeSlice_video 1
  have hlisted : (ofTable [1, 77]).unfiltered = [1] := by decide
  obtain ⟨-, -, -, hagree⟩ := ofTable_agrees [1, 77]
  refine ⟨hlisted, ?_⟩
  intro inProgress
  have hpassed := (hagree tables htables inProgress 1 (by decide)).mp (by decide)
  exact hpassed slice hvideo hslice

end VideoGate
