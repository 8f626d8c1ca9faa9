import VideoGate.Proofs.Frame.Reading

/-!
# Reading through a window of memory

The bound of a window is a sum of words, which may wrap.  As long as it does not, a window answers
as the frame it lies on (`MemoryWindow.Covers.fetch_eq`), and hands out no byte from outside
(`MemoryWindow.serves_of_le`).
-/

namespace VideoGate

namespace MemoryWindow

/-- The window lies on the frame, and no address that is asked for wraps. -/
structure Covers (window : MemoryWindow) (frame : Frame) : Prop extends window.Holds frame where
  noWrap : window.start.toNat + readLimit < UInt64.size

variable {window : MemoryWindow} {frame : Frame}

/-- Adding up an address within the limit does not wrap. -/
theorem toNat_address (hnoWrap : window.start.toNat + readLimit < UInt64.size) {offset : UInt64}
    {count : Nat} (hend : offset.toNat + count ≤ readLimit) :
    (window.start + offset + UInt64.ofNat count).toNat =
      window.start.toNat + offset.toNat + count := by
  have hcount : (UInt64.ofNat count).toNat = count := UInt64.toNat_ofNat_of_lt' (by omega)
  rw [UInt64.toNat_add, UInt64.toNat_add, hcount]
  unfold UInt64.size at hnoWrap
  omega

/-- The sums behind a read do not wrap, and unless it is refused all its bytes lie inside. -/
structure Serves (window : MemoryWindow) (read : HeaderRead) : Prop where
  start_eq : (window.start + read.offset).toNat = window.start.toNat + read.offset.toNat
  stop_eq : (window.start + read.offset + UInt64.ofNat read.count).toNat =
    window.start.toNat + read.stop
  inside : (window.fetch read.offset read.count).isSome = true → ∀ i < read.count,
    window.start ≤ window.start + read.offset + UInt64.ofNat i ∧
      window.start + read.offset + UInt64.ofNat i < window.stop

/-- **A read within the limit is served from inside.** -/
theorem serves_of_le (hnoWrap : window.start.toNat + readLimit < UInt64.size) {read : HeaderRead}
    (hstop : read.stop ≤ readLimit) : window.Serves read := by
  have hend := toNat_address hnoWrap hstop
  constructor
  case start_eq =>
    have hstart : window.start.toNat + read.offset.toNat < 2 ^ 64 := by
      unfold HeaderRead.stop at hstop
      unfold UInt64.size at hnoWrap
      omega
    rw [UInt64.toNat_add, Nat.mod_eq_of_lt hstart]
  case stop_eq => rw [hend, HeaderRead.stop, Nat.add_assoc]
  case inside =>
    intro hsome i hi
    have hgranted : ¬ window.start + read.offset + UInt64.ofNat read.count > window.stop := by
      intro hpast
      rw [fetch, if_pos hpast] at hsome
      cases hsome
    have hwithin : read.offset.toNat + i ≤ readLimit := by
      unfold HeaderRead.stop at hstop
      omega
    have haddress := toNat_address hnoWrap hwithin
    rw [gt_iff_lt, UInt64.lt_iff_toNat_lt, hend] at hgranted
    rw [UInt64.le_iff_toNat_le, UInt64.lt_iff_toNat_lt, haddress]
    omega

theorem Covers.byteAt_address (h : window.Covers frame) {offset : UInt64} {i : Nat}
    (hi : offset.toNat + i < frame.length) :
    window.byteAt (window.start + offset + UInt64.ofNat i) = frame[offset.toNat + i] := by
  have haddress : window.start + offset + UInt64.ofNat i =
      window.start + UInt64.ofNat (offset.toNat + i) := by
    rw [UInt64.ofNat_add, UInt64.ofNat_toNat, UInt64.add_assoc]
  rw [haddress]
  exact h.byteAt_eq _ hi

/-- **A window answers as its frame**, up to the limit. -/
theorem Covers.fetch_eq (h : window.Covers frame) (offset : UInt64) (count : Nat)
    (hend : offset.toNat + count ≤ readLimit) :
    FrameView.fetch window offset count = FrameView.fetch frame offset count := by
  have hlength := h.length_eq
  have hpast : window.start + offset + UInt64.ofNat count > window.stop ↔
      ¬ offset.toNat + count ≤ frame.length := by
    rw [gt_iff_lt, UInt64.lt_iff_toNat_lt, toNat_address h.noWrap hend]
    omega
  have hword : offset.toNat + count < UInt64.size := by
    have hnoWrap := h.noWrap
    omega
  show MemoryWindow.fetch window offset count = Frame.fetch frame offset count
  unfold MemoryWindow.fetch Frame.fetch
  by_cases hinside : offset.toNat + count ≤ frame.length
  · rw [if_neg (fun hc => hpast.mp hc hinside), dif_pos ⟨hword, hinside⟩]
    refine congrArg some (Vector.ext fun i hi => ?_)
    have hplace : offset.toNat + i < frame.length := by omega
    simp only [Vector.getElem_ofFn, List.get_eq_getElem]
    exact h.byteAt_address hplace
  · rw [if_pos (hpast.mpr hinside), dif_neg (fun hc => hinside hc.2)]

/-- A memory that holds a frame, not too near to its end, covers it. -/
theorem ofFrame_covers {start : UInt64} (hstop : start.toNat + frame.length < UInt64.size)
    (hlimit : start.toNat + readLimit < UInt64.size) : (ofFrame start frame).Covers frame := by
  have hlength : (UInt64.ofNat frame.length).toNat = frame.length :=
    UInt64.toNat_ofNat_of_lt' (by omega)
  refine ⟨⟨?_, fun i hi => ?_⟩, hlimit⟩
  · show start.toNat + frame.length = (start + UInt64.ofNat frame.length).toNat
    rw [UInt64.toNat_add, hlength]
    exact (Nat.mod_eq_of_lt hstop).symm
  · have hplace : (start + UInt64.ofNat i - start).toNat = i := by
      rw [UInt64.add_comm, UInt64.add_sub_cancel, UInt64.toNat_ofNat_of_lt' (by omega)]
    show frame[(start + UInt64.ofNat i - start).toNat]?.getD 0 = frame[i]
    rw [hplace, List.getElem?_eq_getElem hi]
    rfl

end MemoryWindow

end VideoGate
