import VideoGate.Proofs.Video.Step

/-!
# What is counted for one frame

Every frame is booked: the filter counts some events for it, each at most once.  The events are
counted at many places of the filter; `CountedAs` follows them from one table to the next, and
`process_booked` says which lists of events a frame of each class can be given.
-/

namespace VideoGate

open VideoStore

namespace VideoTables

/-- From one table to the other these events were counted, and nothing else was. -/
def CountedAs (entries : List VideoStat) (before after : VideoTables) : Prop :=
  after.stats = (countAll entries before).stats

theorem stats_count (stat : VideoStat) {a b : VideoTables} (h : a.stats = b.stats) :
    (VideoStore.count stat a).stats = (VideoStore.count stat b).stats := by
  show a.stats.set stat.index (Counter.increment (a.stats.get stat.index)) stat.index_lt =
    b.stats.set stat.index (Counter.increment (b.stats.get stat.index)) stat.index_lt
  rw [h]

theorem stats_countAll (entries : List VideoStat) {a b : VideoTables} (h : a.stats = b.stats) :
    (countAll entries a).stats = (countAll entries b).stats := by
  induction entries generalizing a b with
  | nil => exact h
  | cons stat entries ih => exact ih (stats_count stat h)

theorem countAll_append (first second : List VideoStat) (tables : VideoTables) :
    countAll (first ++ second) tables = countAll second (countAll first tables) :=
  List.foldl_append ..

theorem CountedAs.trans {first second : List VideoStat} {a b c : VideoTables}
    (hab : CountedAs first a b) (hbc : CountedAs second b c) : CountedAs (first ++ second) a c := by
  have hmiddle := stats_countAll second hab
  unfold CountedAs
  rw [countAll_append]
  exact Eq.trans hbc hmiddle

theorem stat_count (tables : VideoTables) (stat other : VideoStat) :
    (tables.count stat).stat other =
      if other = stat then Counter.increment (tables.stat other) else tables.stat other := by
  by_cases hother : other = stat
  · subst hother
    rw [if_pos rfl, stat_count_self]
  · rw [if_neg hother, stat_count_of_ne tables hother]

theorem stats_removeCamera (tables : VideoTables) (camera : UInt32) :
    (tables.removeCamera camera).stats = tables.stats := by
  unfold removeCamera
  split <;> rfl

/-- A counter after some events, as a number: it stops at the largest word. -/
theorem toNat_stat_countAll (entries : List VideoStat) (tables : VideoTables) (stat : VideoStat) :
    ((countAll entries tables).stat stat).toNat =
      min ((tables.stat stat).toNat + entries.count stat) (UInt64.size - 1) := by
  induction entries generalizing tables with
  | nil => exact Counter.toNat_eq_min (tables.stat stat)
  | cons entry entries ih =>
      refine (ih (tables.count entry)).trans ?_
      by_cases hentry : entry = stat
      · subst hentry
        rw [stat_count_self, Counter.toNat_increment, List.count_cons_self]
        omega
      · rw [stat_count_of_ne tables (Ne.symm hentry), List.count_cons_of_ne hentry]

theorem stat_countAll_of_not_mem {entries : List VideoStat} {stat : VideoStat}
    (h : stat ∉ entries) (tables : VideoTables) :
    (countAll entries tables).stat stat = tables.stat stat := by
  have hcount := toNat_stat_countAll entries tables stat
  rw [List.count_eq_zero.mpr h] at hcount
  exact UInt64.toNat_inj.mp (hcount.trans (Counter.toNat_eq_min _).symm)

theorem CountedAs.stat_eq {entries : List VideoStat} {before after : VideoTables}
    (h : CountedAs entries before after) (stat : VideoStat) :
    after.stat stat = (countAll entries before).stat stat :=
  congrArg (fun stats : Vector UInt64 VideoStat.count => stats.get stat.index) h

end VideoTables

namespace VideoFilter

open VideoTables

/-- The events that end the account of a frame which its pieces decided about. -/
def closing : Disposition → List VideoStat
  | .pass => [.forwarded]
  | .drop => [.pSlices, .dropped]

/-- The events that are counted for a frame behind those of its headers.  That a camera has no
entry (`missed`) and that a fragment is the first (`starts`) are events of their own.  No frame is
for a camera that there cannot be. -/
inductive Booked : Traffic → Disposition → List VideoStat → Prop
  | forwarded {traffic : Traffic} :
      traffic ∈ [.notIpv4, .notUdp, .malformedIpv4, .otherHost, .otherPort] →
      Booked traffic .pass [.forwarded]
  | ignored {traffic : Traffic} :
      traffic ∈ [.truncatedUdp, .truncatedRtp, .otherVersion] → Booked traffic .pass []
  | position (record : Option Position) (applied : Bool) :
      Booked (.position record) .pass (if applied then [.positionsApplied] else [])
  | unfiltered (camera : UInt32) (payload : VideoPayload) (missed : Bool) :
      Booked (.video camera payload) .pass
        ((if missed then [.lookupFailed] else []) ++ [.modeOff, .forwarded])
  | filtered (camera : UInt32) (payload : VideoPayload) (missed : Bool) {mode : VideoStat}
      (starts : Bool) (verdict : Disposition) : mode = .modeDropP ∨ mode = .modeForwardP →
      Booked (.video camera payload) verdict
        ((if missed then [.lookupFailed] else []) ++
          mode :: ((if starts then [.fragmentStarts] else []) ++ closing verdict))

/-- The counters of positions. -/
def positionStats : List VideoStat := [.positionsApplied, .positionPackets, .positionPortMatched]

/-- They count positions only. -/
theorem Booked.positionStats_not_mem {traffic : Traffic} {verdict : Disposition}
    {entries : List VideoStat} (h : Booked traffic verdict entries)
    (hposition : ∀ record, traffic ≠ .position record) :
    ∀ stat ∈ positionStats,
      stat ∉ .stageEntries :: .totalPackets :: countedOnTheWay traffic ++ entries := by
  cases h with
  | forwarded htraffic =>
      simp only [List.mem_cons, List.not_mem_nil, or_false] at htraffic
      rcases htraffic with rfl | rfl | rfl | rfl | rfl <;> decide
  | ignored htraffic =>
      simp only [List.mem_cons, List.not_mem_nil, or_false] at htraffic
      rcases htraffic with rfl | rfl | rfl <;> decide
  | position record applied => exact absurd rfl (hposition record)
  | unfiltered camera payload missed =>
      simp only [countedOnTheWay]
      cases missed <;> decide
  | filtered camera payload missed starts verdict hmode =>
      simp only [countedOnTheWay]
      rcases hmode with rfl | rfl <;> cases missed <;> cases starts <;> cases verdict <;> decide

/-- The counters of video, and of what was forwarded or dropped. -/
def videoStats : List VideoStat :=
  [.forwarded, .dropped, .pSlices, .rtpPackets, .fragmentStarts, .modeOff, .modeDropP,
    .modeForwardP, .wrongHost, .wrongPort, .wrongVersion, .lookupFailed]

/-- They do not count positions. -/
theorem Booked.videoStats_not_mem {record : Option Position} {verdict : Disposition}
    {entries : List VideoStat} (h : Booked (.position record) verdict entries) :
    ∀ stat ∈ videoStats,
      stat ∉ .stageEntries :: .totalPackets :: countedOnTheWay (.position record) ++ entries := by
  cases h with
  | forwarded htraffic => simp at htraffic
  | ignored htraffic => simp at htraffic
  | position record applied =>
      simp only [countedOnTheWay]
      cases applied <;> decide

variable (tables : VideoTables)

theorem activeMode_countedAs (camera : UInt32) :
    ∃ missed : Bool, CountedAs (if missed then [.lookupFailed] else []) tables
      (activeMode camera tables).2 := by
  unfold activeMode
  cases cameraMode camera tables with
  | some raw => exact ⟨false, rfl⟩
  | none => exact ⟨true, rfl⟩

theorem decideFragment_countedAs (header : Wire.FragmentHeader) :
    CountedAs
      ((if header.isStart then [.fragmentStarts] else []) ++
        closing (decideFragment header tables).1)
      tables (decideFragment header tables).2 := by
  unfold decideFragment
  dsimp only
  -- Setting the flag counts nothing, so in every case the two sides are the same counts.
  cases header.isStart <;> cases Wire.isPSlice header.innerType <;>
    cases pFrameInProgress tables <;> cases header.isEnd <;> rfl

theorem decidePayload_countedAs (payload : VideoPayload) :
    ∃ starts : Bool, CountedAs
      ((if starts then [.fragmentStarts] else []) ++ closing (decidePayload payload tables).1)
      tables (decidePayload payload tables).2 := by
  cases payload with
  | truncated => exact ⟨false, rfl⟩
  | single nalType =>
      refine ⟨false, ?_⟩
      unfold decidePayload
      dsimp only
      cases Wire.isPSlice nalType <;> rfl
  | fragment header => exact ⟨header.isStart, decideFragment_countedAs tables header⟩

theorem decideVideo_booked (camera : UInt32) (payload : VideoPayload) :
    ∃ entries, Booked (.video camera payload) (decideVideo camera payload tables).1 entries ∧
      CountedAs entries tables (decideVideo camera payload tables).2 := by
  obtain ⟨missed, hmissed⟩ := activeMode_countedAs tables camera
  simp only [decideVideo_eq]
  generalize activeMode camera tables = active at hmissed ⊢
  obtain ⟨mode, looked⟩ := active
  cases mode with
  | off => exact ⟨_, .unfiltered camera payload missed, hmissed.trans rfl⟩
  | dropP =>
      obtain ⟨starts, hpayload⟩ :=
        decidePayload_countedAs (VideoStore.count .modeDropP looked) payload
      have hmode : CountedAs [.modeDropP] looked (VideoStore.count .modeDropP looked) := rfl
      exact ⟨_, .filtered camera payload missed starts _ (.inl rfl),
        hmissed.trans (hmode.trans hpayload)⟩
  | forwardP =>
      obtain ⟨starts, hpayload⟩ :=
        decidePayload_countedAs (VideoStore.count .modeForwardP looked) payload
      have hmode : CountedAs [.modeForwardP] looked (VideoStore.count .modeForwardP looked) := rfl
      exact ⟨_, .filtered camera payload missed starts _ (.inr rfl),
        hmissed.trans (hmode.trans hpayload)⟩

/-- A position that is applied is counted after the cameras were moved. -/
theorem applyPosition_countedAs (position : Position) :
    CountedAs (if position.inRange then [.positionsApplied] else []) tables
      (applyPosition position tables).2 := by
  cases hrange : position.inRange with
  | false =>
      rw [applyPosition_of_not_inRange hrange]
      rfl
  | true =>
      rw [applyPosition_of_inRange hrange]
      exact stats_count .positionsApplied (tables.stats_withPosition position)

/-- The events of a frame, behind those of its headers. -/
theorem decideTraffic_booked {traffic : Traffic} (hcamera : traffic ≠ .noCamera) :
    ∃ entries, Booked traffic (decideTraffic traffic tables).1 entries ∧
      CountedAs (.stageEntries :: .totalPackets :: countedOnTheWay traffic ++ entries) tables
        (decideTraffic traffic tables).2 := by
  let headers := VideoStat.stageEntries :: .totalPackets :: countedOnTheWay traffic
  have hheaders : CountedAs headers tables (countAll headers tables) := rfl
  have hforward : CountedAs [.forwarded] (countAll headers tables)
      (forward (countAll headers tables)).2 := rfl
  have hnothing : CountedAs [] (countAll headers tables) (countAll headers tables) := rfl
  cases traffic with
  | notIpv4 => exact ⟨_, .forwarded (by simp), hheaders.trans hforward⟩
  | notUdp => exact ⟨_, .forwarded (by simp), hheaders.trans hforward⟩
  | malformedIpv4 => exact ⟨_, .forwarded (by simp), hheaders.trans hforward⟩
  | otherHost => exact ⟨_, .forwarded (by simp), hheaders.trans hforward⟩
  | otherPort => exact ⟨_, .forwarded (by simp), hheaders.trans hforward⟩
  | noCamera => exact absurd rfl hcamera
  | truncatedUdp => exact ⟨_, .ignored (by simp), hheaders.trans hnothing⟩
  | truncatedRtp => exact ⟨_, .ignored (by simp), hheaders.trans hnothing⟩
  | otherVersion => exact ⟨_, .ignored (by simp), hheaders.trans hnothing⟩
  | position record =>
      cases record with
      | none => exact ⟨_, .position none false, hheaders.trans hnothing⟩
      | some position =>
          exact ⟨_, .position (some position) position.inRange,
            hheaders.trans (applyPosition_countedAs _ position)⟩
  | video camera payload =>
      obtain ⟨entries, hbooked, hcounted⟩ :=
        decideVideo_booked (countAll headers tables) camera payload
      exact ⟨entries, hbooked, hheaders.trans hcounted⟩

/-- **Every frame is booked** by its class and its verdict. -/
theorem process_booked (frame : Frame) :
    ∃ entries, Booked (Traffic.classify frame) (process frame tables).1 entries ∧
      CountedAs
        (.stageEntries :: .totalPackets :: countedOnTheWay (Traffic.classify frame) ++ entries)
        tables (process frame tables).2 := by
  rw [process_eq]
  exact decideTraffic_booked tables (Traffic.classify_ne_noCamera frame)

end VideoFilter

end VideoGate
