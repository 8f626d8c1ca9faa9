import VideoGate.Proofs.Video.Layout
import VideoGate.Video.Filter

/-!
# How far a frame is read

On nothing that it does not ask for does the result of a reading depend (`Reading.run_congr`).
Whatever is answered, the filter asks for nothing past byte 97 (`VideoFilter.within_filter`): each
header starts where the one before it ends, and the longest IPv4 header leaves room for all that
are behind it.
-/

namespace VideoGate

open Wire

/-- The places that the filter may look at. -/
def readLimit : Nat := 97

/-- The place behind the last byte. -/
def HeaderRead.stop (read : HeaderRead) : Nat := read.offset.toNat + read.count

namespace Reading

variable {α β π π' : Type} [FrameView π] [FrameView π']

/-- The result depends on what is asked for, and on nothing else of a view. -/
theorem run_congr {view : π} {view' : π'} (reading : Reading α)
    (h : ∀ read ∈ reading.reads view, FrameView.fetch view read.offset read.count =
      FrameView.fetch view' read.offset read.count) : reading.run view = reading.run view' := by
  induction reading with
  | done result => rfl
  | ask read next ih =>
      obtain ⟨hread, hnext⟩ := List.forall_mem_cons.mp h
      unfold run
      rw [← hread]
      exact ih _ hnext

/-- Whatever the answers are, nothing past a limit is asked for, and the result is of this kind. -/
inductive Within (limit : Nat) (kind : α → Prop) : Reading α → Prop
  | done {result : α} : kind result → Within limit kind (.done result)
  | ask {read : HeaderRead} {next : Option (Vector UInt8 read.count) → Reading α} :
      read.stop ≤ limit → (∀ answer, Within limit kind (next answer)) →
        Within limit kind (.ask read next)

namespace Within

variable {limit : Nat} {kind : α → Prop} {reading : Reading α}

theorem stop_le (h : reading.Within limit kind) (view : π) :
    ∀ read ∈ reading.reads view, read.stop ≤ limit := by
  induction h with
  | done _ => exact List.forall_mem_nil _
  | ask hstop _ ih => exact List.forall_mem_cons.mpr ⟨hstop, ih _⟩

theorem run_congr (h : reading.Within limit kind) {view : π} {view' : π'}
    (hviews : ∀ offset count, offset.toNat + count ≤ limit →
      FrameView.fetch view offset count = FrameView.fetch view' offset count) :
    reading.run view = reading.run view' := by
  apply reading.run_congr
  intro read hread
  exact hviews read.offset read.count (h.stop_le view read hread)

theorem bind {kind' : β → Prop} {rest : α → Reading β} (h : reading.Within limit kind)
    (hrest : ∀ result, kind result → (rest result).Within limit kind') :
    (reading >>= rest).Within limit kind' := by
  induction h with
  | done hresult => exact hrest _ hresult
  | ask hstop _ ih => exact .ask hstop ih

/-- A header may be asked for where it ends within the limit. -/
theorem header [WireHeader α] {offset : UInt64}
    (hstop : offset.toNat + WireHeader.size α ≤ limit) :
    (header α offset).Within limit fun _ => True :=
  .ask hstop fun _ => .done trivial

end Within

end Reading

/-! ## The headers of a frame -/

theorem toNat_add_of_le {offset size : UInt64} {limit : Nat}
    (h : offset.toNat + limit ≤ readLimit) (hsize : size.toNat ≤ limit) :
    (offset + size).toNat = offset.toNat + size.toNat := by
  unfold readLimit at h
  rw [UInt64.toNat_add]
  omega

theorem Wire.Ipv4Header.headerLength?_le {header : Ipv4Header} {length : Nat}
    (hlength : header.headerLength? = some length) : length ≤ 60 := by
  rw [headerLength?_eq_ite] at hlength
  split at hlength
  · have := Option.some.inj hlength
    omega
  · cases hlength

theorem VideoPayload.within_readAt {offset : UInt64} (hend : offset.toNat + 3 ≤ readLimit) :
    (readAt offset).Within readLimit fun _ => True := by
  refine .bind (.header (Nat.le_of_succ_le hend)) ?_
  rintro (_ | payload) -
  · exact .done trivial
  dsimp only
  split
  · refine .bind (.header ?_) ?_
    · rw [toNat_add_of_le hend (by decide)]
      exact hend
    · rintro (_ | fragment) - <;> exact .done trivial
  · exact .done trivial

namespace Heading

/-- There is room for what is read of a payload. -/
def LeavesRoom : Heading → Prop
  | settled _ => True
  | video _ payload => payload.toNat + 3 ≤ readLimit

theorem within_ofRtp (camera : UInt32) {offset : UInt64} (hend : offset.toNat + 15 ≤ readLimit) :
    (ofRtp camera offset).Within readLimit LeavesRoom := by
  refine .bind (.header ?_) ?_
  · show offset.toNat + 12 ≤ readLimit
    omega
  rintro (_ | rtp) -
  · exact .done trivial
  dsimp only
  split
  · refine .done ?_
    show (offset + 12).toNat + 3 ≤ readLimit
    rw [toNat_add_of_le hend (by decide)]
    exact hend
  · exact .done trivial

theorem within_ofUdp (host : Address) {offset : UInt64} (hend : offset.toNat + 23 ≤ readLimit) :
    (ofUdp host offset).Within readLimit LeavesRoom := by
  have hpayload : (offset + 8).toNat + 15 ≤ readLimit := by
    rw [toNat_add_of_le hend (by decide)]
    exact hend
  refine .bind (.header ?_) ?_
  · show offset.toNat + 8 ≤ readLimit
    omega
  rintro (_ | udp) -
  · exact .done trivial
  dsimp only
  split
  · refine .bind (.header ?_) fun record _ => .done trivial
    show (offset + 8).toNat + 8 ≤ readLimit
    omega
  split
  · exact .done trivial
  split
  · exact .done trivial
  split
  · exact .done trivial
  · exact within_ofRtp _ hpayload

/-- The longest IPv4 header leaves the UDP header and all behind it within the limit. -/
theorem within_ofIpv4 : ofIpv4.Within readLimit LeavesRoom := by
  refine .bind (.header (by decide)) ?_
  rintro (_ | ip) -
  · exact .done trivial
  dsimp only
  split
  · split
    · exact .done trivial
    rename_i length hlength
    have hle := ip.headerLength?_le hlength
    have hsum : (14 + UInt64.ofNat length).toNat = 14 + length := by
      rw [UInt64.toNat_add, UInt64.toNat_ofNat_of_lt' (by unfold UInt64.size; omega)]
      show (14 + length) % 2 ^ 64 = _
      omega
    apply within_ofUdp
    rw [hsum]
    unfold readLimit
    omega
  · exact .done trivial

theorem within_ofFrame : ofFrame.Within readLimit LeavesRoom := by
  refine .bind (.header (by decide)) ?_
  rintro (_ | ethernet) -
  · exact .done trivial
  dsimp only
  split
  · exact within_ofIpv4
  · exact .done trivial

theorem within_classify {heading : Heading} (hroom : heading.LeavesRoom) :
    heading.classify.Within readLimit fun _ => True := by
  cases heading with
  | settled traffic => exact .done trivial
  | video camera payload =>
      exact .bind (VideoPayload.within_readAt hroom) fun _ _ => .done trivial

end Heading

/-! ## The filter -/

/-- **Views that agree on the first 97 bytes classify a frame alike.** -/
theorem Traffic.classify_congr {π π' : Type} [FrameView π] [FrameView π'] {view : π} {view' : π'}
    (h : ∀ offset count, offset.toNat + count ≤ readLimit →
      FrameView.fetch view offset count = FrameView.fetch view' offset count) :
    classify view = classify view' := by
  have hwithin : (Heading.ofFrame >>= Heading.classify).Within readLimit fun _ => True :=
    .bind Heading.within_ofFrame fun _ hroom => Heading.within_classify hroom
  exact hwithin.run_congr h

namespace VideoFilter

variable {σ : Type} [VideoStore σ]

theorem within_decideVideoThrough (camera : UInt32) {look : Reading VideoPayload}
    (hlook : look.Within readLimit fun _ => True) (store : σ) :
    (decideVideoThrough camera look store).Within readLimit fun _ => True := by
  unfold decideVideoThrough
  rcases activeMode camera store with ⟨_ | _ | _, store⟩
  case off => exact .done trivial
  case dropP => exact .bind hlook fun _ _ => .done trivial
  case forwardP => exact .bind hlook fun _ _ => .done trivial

/-- **The filter asks for nothing past byte 97**, whatever the bytes are. -/
theorem within_filter (store : σ) : (filter store).Within readLimit fun _ => True := by
  refine .bind Heading.within_ofFrame ?_
  rintro (traffic | ⟨camera, payload⟩) hroom
  · exact .done trivial
  · exact within_decideVideoThrough camera (VideoPayload.within_readAt hroom) _

end VideoFilter

end VideoGate
