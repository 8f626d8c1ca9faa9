import VideoGate.Proofs.Gate.Agreement
import VideoGate.Proofs.Stats.Collector
import VideoGate.Proofs.Stats.NamedCounts

/-!
# What is reported of a run

A collector that samples a gate at some moments of a run reports what happened between the first
and the last of them (`report_tells`).  It sees the counters alone, by their places in a list and
then by their names.
-/

namespace VideoGate

variable {ρ : Type}

/-- A moment of a run: so many events have happened, and this is the metadata on the
processors. -/
structure SamplePoint where
  place : Nat
  metadata : List Metadata
deriving DecidableEq

namespace Gate

/-- Reads everything; the counters are read as lists. -/
def sample (gate : Gate) (metadata : List Metadata) : Except StatsFault Sample := do
  let dispatcher ← DispatchCounts.ofList gate.dispatcher.counters.toList
  return {
    video := .ofList gate.video.stats.toList
    dispatcher
    position := gate.video.position
    cameras := gate.video.cameras.toList.map (·.raw)
    metadata }

variable (gate : Gate) (events : List GateEvent)

def sampleAt (point : SamplePoint) : Except StatsFault Sample :=
  (gate.run (events.take point.place)).sample point.metadata

/-- A new collector takes a sample at each of the moments and makes a snapshot of them. -/
def report [Ratio ρ] (points : List SamplePoint) (timestamp : String) (elapsed : UInt64) :
    Except StatsFault (Option (Snapshot ρ)) := do
  let collector ← points.foldlM (fun (collector : Collector ρ) point => do
    Prod.snd <$> collector.record (← gate.sampleAt events point)) .new
  collector.snapshot? timestamp elapsed

/-- The packets that arrive from one place of a run to another. -/
def arrivalsBetween (start stop : Nat) : List Arrival :=
  (gate.run (events.take start)).arrivals ((events.take stop).drop start)

end Gate

/-- A snapshot tells of these packets, of the counters at the end, and of the number of
samples. -/
structure Snapshot.Tells (snapshot : Snapshot ρ) (arrivals : List Arrival) (last : Gate)
    (samples : Nat) : Prop where
  dropped : (snapshot.video.find? "dropped").map UInt64.toNat =
    some (arrivals.countP fun arrival => arrival.action = .drop)
  totalPackets : (snapshot.video.find? "total_packets").map UInt64.toNat =
    some (arrivals.countP fun arrival => arrival.Enters 1)
  admitted : (snapshot.dispatcher.get .admitted).toNat = arrivals.length
  redirected : (snapshot.dispatcher.get .bridged).toNat +
    (snapshot.dispatcher.get .outputRedirects).toNat =
      arrivals.countP fun arrival => arrival.action.isRedirect
  totals : ∀ name, snapshot.videoTotals.find? name =
    (VideoStat.all.find? (·.name == name)).map last.video.stat
  samples : snapshot.samples = .ofNat samples

/-! ## Readings -/

theorem ofFn_toList {n : Nat} (values : Vector UInt64 n) :
    (Vector.ofFn fun i : Fin n => values.toList[i.val]?.getD 0) = values := by
  ext i hi
  simp

namespace Gate

/-- What a sample of a gate is. -/
def reading (gate : Gate) (metadata : List Metadata) : Sample where
  video := ⟨gate.video.stats⟩
  dispatcher := ⟨gate.dispatcher.counters⟩
  position := gate.video.position
  cameras := gate.video.cameras.toList.map (·.raw)
  metadata

theorem sample_eq (gate : Gate) (metadata : List Metadata) :
    gate.sample metadata = .ok (gate.reading metadata) := by
  have hcounters : DispatchCounts.ofList gate.dispatcher.counters.toList =
      .ok ⟨gate.dispatcher.counters⟩ := by
    unfold DispatchCounts.ofList
    rw [ofFn_toList, Vector.length_toList, if_neg (Nat.lt_irrefl _)]
  have hstats : VideoCounts.ofList gate.video.stats.toList = ⟨gate.video.stats⟩ :=
    congrArg VideoCounts.mk (ofFn_toList gate.video.stats)
  unfold sample reading
  rw [hcounters, hstats]
  rfl

variable {gate : Gate} {events : List GateEvent}

theorem take_eq_append {start stop : Nat} (h : start ≤ stop) :
    events.take stop = events.take start ++ (events.take stop).drop start := by
  have htake : (events.take stop).take start = events.take start := by
    rw [List.take_take, Nat.min_eq_left h]
  rw [← htake, List.take_append_drop]

/-- **What the counters grew by** between two places of a run is what the packets between them are
counted. -/
theorem Unsaturated.toNat_growth (h : gate.Unsaturated events) {start stop : Nat}
    (hle : start ≤ stop) (counter : GateCounter) :
    (Counter.growth ((gate.run (events.take stop)).count counter)
      ((gate.run (events.take start)).count counter)).toNat =
      tallyOf (gate.arrivalsBetween events start stop) counter := by
  have hstop : gate.Unsaturated (events.take stop) := by
    rw [← List.take_append_drop stop events] at h
    exact h.of_append
  have hstart : gate.Unsaturated (events.take start) := by
    rw [take_eq_append hle] at hstop
    exact hstop.of_append
  have harrivals : gate.arrivals (events.take stop) =
      gate.arrivals (events.take start) ++ gate.arrivalsBetween events start stop :=
    (congrArg gate.arrivals (take_eq_append hle)).trans (gate.arrivals_append ..)
  rw [Counter.toNat_growth, hstop.toNat_count_run, hstart.toNat_count_run, harrivals,
    tallyOf_append]
  omega

variable (gate events) in
def readingAt (point : SamplePoint) : Sample :=
  (gate.run (events.take point.place)).reading point.metadata

variable {first last : SamplePoint}

section

variable (h : gate.Unsaturated events) (hle : first.place ≤ last.place)
include h hle

theorem Unsaturated.toNat_video_since (stat : VideoStat) :
    (((gate.readingAt events last).video.since (gate.readingAt events first).video).get
      stat).toNat = tallyOf (gate.arrivalsBetween events first.place last.place)
        (.filtered stat) := by
  rw [VideoCounts.get_since]
  exact h.toNat_growth hle (.filtered stat)

theorem Unsaturated.toNat_dispatcher_since (counter : DispatchCounter) :
    (((gate.readingAt events last).dispatcher.since
      (gate.readingAt events first).dispatcher).get counter).toNat =
        tallyOf (gate.arrivalsBetween events first.place last.place) (.dispatched counter) := by
  rw [DispatchCounts.get_since]
  exact h.toNat_growth hle (.dispatched counter)

/-- Two samples never drift too far apart: the filter decides about no more packets than it
counts. -/
theorem Unsaturated.fits : (gate.readingAt events first).Fits (gate.readingAt events last) := by
  have hbalance := tallyOf_balance (gate.arrivalsBetween events first.place last.place)
  have hdecided := hbalance.decided
  have htotal := hbalance.totalPackets
  rw [← h.toNat_video_since hle] at htotal
  have hlt := UInt64.toNat_lt (((gate.readingAt events last).video.since
    (gate.readingAt events first).video).get .totalPackets)
  unfold Sample.Fits
  rw [h.toNat_video_since hle, h.toNat_video_since hle]
  unfold UInt64.size
  omega

theorem Unsaturated.tells (timestamp : String) (elapsed : UInt64) (ratio peak : ρ)
    (samples : Nat) :
    ((gate.readingAt events first).snapshotTo (gate.readingAt events last) timestamp elapsed ratio
      peak (.ofNat samples)).Tells (gate.arrivalsBetween events first.place last.place)
        (gate.run (events.take last.place)) samples := by
  have hbalance := tallyOf_balance (gate.arrivalsBetween events first.place last.place)
  have hvideo := h.toNat_video_since hle
  have hdispatcher := h.toNat_dispatcher_since hle
  unfold Sample.snapshotTo
  constructor
  case dropped =>
    rw [NamedCounts.find?_ofVideo]
    exact congrArg some ((hvideo .dropped).trans hbalance.dropped)
  case totalPackets =>
    rw [NamedCounts.find?_ofVideo]
    exact congrArg some ((hvideo .totalPackets).trans hbalance.totalPackets)
  case admitted => exact (hdispatcher .admitted).trans hbalance.admitted
  case redirected => rw [hdispatcher, hdispatcher, hbalance.redirected]
  case totals => exact fun name => NamedCounts.find?_ofVideo _ name
  case samples => rfl

end

variable [Ratio ρ]

variable (gate events) in
theorem report_eq_recordAll (points : List SamplePoint) (timestamp : String) (elapsed : UInt64) :
    gate.report events points timestamp elapsed =
      ((Collector.new : Collector ρ).recordAll (points.map (gate.readingAt events)) >>=
        (·.snapshot? timestamp elapsed)) := by
  have hsample : ∀ point, gate.sampleAt events point = .ok (gate.readingAt events point) :=
    fun point => sample_eq _ _
  unfold report Collector.recordAll
  rw [List.foldlM_map]
  simp only [hsample]
  rfl

/-- The report on a run is that of its first and its last sample, but for the peak and the number
of samples. -/
theorem Unsaturated.report_eq (h : gate.Unsaturated events) {points : List SamplePoint}
    (hfirst : points.head? = some first) (hlast : points.getLast? = some last)
    (horder : points.Pairwise fun a b => a.place ≤ b.place) {ratio : ρ}
    (hratio : ((gate.readingAt events last).video.since
      (gate.readingAt events first).video).dropRatio = .ok ratio)
    (timestamp : String) (elapsed : UInt64) :
    ∃ peak, gate.report events points timestamp elapsed =
      .ok (some ((gate.readingAt events first).snapshotTo (gate.readingAt events last) timestamp
        elapsed ratio peak (.ofNat points.length))) := by
  have hchain : (points.map (gate.readingAt events)).IsChain Sample.Fits := by
    rw [List.isChain_map]
    exact horder.isChain.imp fun earlier later hle => h.fits hle
  have hhead : (points.map (gate.readingAt events)).head? =
      some (gate.readingAt events first) := by
    rw [List.head?_map, hfirst, Option.map_some]
  have hend : (points.map (gate.readingAt events)).getLast? =
      some (gate.readingAt events last) := by
    rw [List.getLast?_map, hlast, Option.map_some]
  obtain ⟨peak, hseries⟩ :=
    Collector.snapshot?_of_series hhead hend hchain hratio timestamp elapsed
  rw [List.length_map] at hseries
  exact ⟨peak, (report_eq_recordAll gate events points timestamp elapsed).trans hseries⟩

end Gate

theorem SamplePoint.place_le_of_ordered {points : List SamplePoint} {first last : SamplePoint}
    (hfirst : points.head? = some first) (hlast : points.getLast? = some last)
    (horder : points.Pairwise fun a b => a.place ≤ b.place) : first.place ≤ last.place := by
  cases points with
  | nil => cases hfirst
  | cons point points =>
      cases hfirst
      have hmem : last ∈ first :: points := List.mem_of_getLast? hlast
      rcases List.mem_cons.mp hmem with rfl | hmem
      · exact Nat.le_refl _
      · exact List.rel_of_pairwise_cons horder hmem

variable (ρ) [Ratio ρ]

/-- **A report tells what happened** between its first and its last sample, if no counter
saturates.  Further samples between them change their number and the peak, and nothing else. -/
theorem report_tells {start : Gate} {events : List GateEvent} (hroom : start.Unsaturated events)
    {points : List SamplePoint} {first last : SamplePoint} (hfirst : points.head? = some first)
    (hlast : points.getLast? = some last) (horder : points.Pairwise fun a b => a.place ≤ b.place)
    (timestamp : String) (elapsed : UInt64) :
    ∃ snapshot : Snapshot ρ,
      start.report events points timestamp elapsed = .ok (some snapshot) ∧
      snapshot.Tells (start.arrivalsBetween events first.place last.place)
        (start.run (events.take last.place)) points.length ∧
      ∀ others : List SamplePoint, others.head? = some first → others.getLast? = some last →
        (others.Pairwise fun a b => a.place ≤ b.place) →
        ∃ peak, start.report events others timestamp elapsed = .ok (some
          { snapshot with samples := .ofNat others.length, peakDropRatio := peak }) := by
  have hle := SamplePoint.place_le_of_ordered hfirst hlast horder
  obtain ⟨ratio, hratio⟩ : ∃ ratio : ρ, ((start.readingAt events last).video.since
      (start.readingAt events first).video).dropRatio = .ok ratio :=
    (hroom.fits hle).exists_dropRatio
  obtain ⟨peak, hreport⟩ := hroom.report_eq hfirst hlast horder hratio timestamp elapsed
  refine ⟨_, hreport, hroom.tells hle timestamp elapsed ratio peak points.length, ?_⟩
  intro others hfirst hlast horder
  exact hroom.report_eq hfirst hlast horder hratio timestamp elapsed

/-- A picture goes out before the first sample; behind it a P slice is dropped, another picture
goes out, and a packet goes to the bridge peer. -/
theorem report_tells_three_samples :
    let slice := (SampleFrame.video 0 (.nalUnit 1)).bytes
    let picture := (SampleFrame.video 0 (.nalUnit 19)).bytes
    let earlier : List GateEvent :=
      [.setControl 0 1, .setControl 1 1, .setInterface 2 7, .arrival (some {}) picture]
    let events : List GateEvent :=
      [.setCamera 0 1, .arrival (some {}) slice, .arrival (some {}) picture, .setInterface 0 9,
        .setInterface 1 1, .arrival none slice]
    let start := Gate.fresh.run earlier
    let points : List SamplePoint := [⟨1, []⟩, ⟨2, [{}]⟩, ⟨6, []⟩]
    start.Unsaturated events ∧ points.head? = some ⟨1, []⟩ ∧ points.getLast? = some ⟨6, []⟩ ∧
      (points.Pairwise fun a b => a.place ≤ b.place) ∧
      ∃ snapshot : Snapshot Float, start.report events points "now" 5 = .ok (some snapshot) ∧
        (snapshot.video.find? "dropped").map UInt64.toNat = some 1 ∧
        (snapshot.video.find? "total_packets").map UInt64.toNat = some 2 ∧
        (snapshot.dispatcher.get .admitted).toNat = 3 ∧
        snapshot.videoTotals.find? "forwarded" = some 2 ∧ snapshot.samples = 3 := by
  intro slice picture earlier events start points
  have hroom : start.Unsaturated events := by
    have hlength : (Gate.fresh.arrivals (earlier ++ events)).length = 4 := rfl
    have hfew : (Gate.fresh.arrivals (earlier ++ events)).length < UInt64.size := by
      rw [hlength]
      decide
    exact (Gate.unsaturated_of_zero Gate.count_fresh hfew).of_append_right
  have hfirst : points.head? = some ⟨1, []⟩ := rfl
  have hlast : points.getLast? = some ⟨6, []⟩ := rfl
  have horder : points.Pairwise fun a b => a.place ≤ b.place := by decide
  refine ⟨hroom, hfirst, hlast, horder, ?_⟩
  obtain ⟨snapshot, hreport, htells, -⟩ :=
    report_tells Float hroom hfirst hlast horder "now" 5
  have hdrops : ((start.arrivalsBetween events 1 6).countP fun arrival =>
      arrival.action = .drop) = 1 := by decide +kernel
  have hentered : ((start.arrivalsBetween events 1 6).countP fun arrival =>
      arrival.Enters 1) = 2 := by decide +kernel
  have hforwarded : (start.run (events.take 6)).video.stat .forwarded = 2 := by decide +kernel
  refine ⟨snapshot, hreport, hdrops ▸ htells.dropped, hentered ▸ htells.totalPackets,
    htells.admitted, ?_, htells.samples⟩
  rw [htells.totals, ← hforwarded]
  rfl

end VideoGate
