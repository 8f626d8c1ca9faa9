import VideoGate.Proofs.Video.Booking
import VideoGate.Proofs.Video.History

/-!
# The accounts of the filter

Over any run the counters balance: every packet is accounted for once, whatever it was and
whatever became of it.  `Accounts` lists the equations.  They hold of the events of one frame
(`VideoFilter.Booked.accounts`), they add up, and as long as no counter has reached its largest
word the counters are those sums (`accounts_of_run`).
-/

namespace VideoGate

open VideoFilter

/-- The balance of the counts over some arrivals, of which some were dropped and some had their
UDP or their RTP header cut off. -/
structure Accounts (counts : VideoStat → Nat) (arrivals drops cutAtUdp cutAtRtp : Nat) : Prop where
  totalPackets : counts .totalPackets = arrivals
  stageEntries : counts .stageEntries = arrivals
  pSlices : counts .pSlices = drops
  dropped : counts .dropped = drops
  positions : counts .positionPortMatched = counts .positionPackets
  applied : counts .positionsApplied ≤ counts .positionPackets
  modes : counts .rtpPackets = counts .modeOff + counts .modeDropP + counts .modeForwardP
  filtered : counts .dropped ≤ counts .modeDropP + counts .modeForwardP
  fragments : counts .fragmentStarts ≤ counts .modeDropP + counts .modeForwardP
  lookups : counts .lookupFailed ≤ counts .rtpPackets
  cameras : counts .cameraOutOfRange = 0
  ports_le_udp : counts .portChecks ≤ counts .udpPackets
  udp_le_ipv4 : counts .udpPackets ≤ counts .ipv4Packets
  ipv4_le_total : counts .ipv4Packets ≤ counts .totalPackets
  ports : counts .portChecks = counts .positionPackets + counts .wrongHost + counts .wrongPort +
    counts .wrongVersion + counts .rtpPackets + cutAtRtp
  total : counts .totalPackets = counts .forwarded + counts .dropped + counts .positionPackets +
    counts .wrongVersion + cutAtUdp + cutAtRtp

namespace Accounts

variable {a b : VideoStat → Nat} {arrivals drops cutAtUdp cutAtRtp arrivals' drops' cutAtUdp'
  cutAtRtp' : Nat}

theorem zero : Accounts (fun _ => 0) 0 0 0 0 := by
  constructor <;> decide

/-- Every equation is linear, so balances add up. -/
theorem add (ha : Accounts a arrivals drops cutAtUdp cutAtRtp)
    (hb : Accounts b arrivals' drops' cutAtUdp' cutAtRtp') :
    Accounts (fun stat => a stat + b stat) (arrivals + arrivals') (drops + drops')
      (cutAtUdp + cutAtUdp') (cutAtRtp + cutAtRtp') := by
  obtain ⟨_, _, _, _, _, _, _, _, _, _, _, _, _, _, _, _⟩ := ha
  obtain ⟨_, _, _, _, _, _, _, _, _, _, _, _, _, _, _, _⟩ := hb
  constructor <;> omega

/-- No count is larger than the number of arrivals. -/
theorem le_arrivals (h : Accounts a arrivals drops cutAtUdp cutAtRtp) (stat : VideoStat) :
    a stat ≤ arrivals := by
  obtain ⟨_, _, _, _, _, _, _, _, _, _, _, _, _, _, _, _⟩ := h
  cases stat <;> omega

/-- The counters themselves balance if they start at zero and there are not more arrivals than
they can count: no count is larger, so none stops at its largest word. -/
theorem of_countedAs {entries : List VideoStat} {before after : VideoTables}
    (h : Accounts (fun stat => entries.count stat) arrivals drops cutAtUdp cutAtRtp)
    (hcounted : before.CountedAs entries after) (hzero : ∀ stat, before.stat stat = 0)
    (hfew : arrivals < UInt64.size) :
    Accounts (fun stat => (after.stat stat).toNat) arrivals drops cutAtUdp cutAtRtp := by
  have hstat : ∀ stat, (after.stat stat).toNat = entries.count stat := by
    intro stat
    have hle := h.le_arrivals stat
    have hcount := VideoTables.toNat_stat_countAll entries before stat
    rw [hzero stat, UInt64.toNat_zero] at hcount
    rw [hcounted.stat_eq stat, hcount]
    omega
  rw [funext hstat]
  exact h

end Accounts

/-! ## One frame -/

/-- **The events of one frame balance.** -/
theorem VideoFilter.Booked.accounts {traffic : Traffic} {verdict : Disposition}
    {entries : List VideoStat} (h : Booked traffic verdict entries) :
    Accounts
      (fun stat => List.count stat
        (.stageEntries :: .totalPackets :: countedOnTheWay traffic ++ entries))
      1 (if verdict = .drop then 1 else 0) (if traffic = .truncatedUdp then 1 else 0)
      (if traffic = .truncatedRtp then 1 else 0) := by
  cases h with
  | forwarded htraffic =>
      simp only [List.mem_cons, List.not_mem_nil, or_false] at htraffic
      rcases htraffic with rfl | rfl | rfl | rfl | rfl <;> constructor <;> decide
  | ignored htraffic =>
      simp only [List.mem_cons, List.not_mem_nil, or_false] at htraffic
      rcases htraffic with rfl | rfl | rfl <;> constructor <;> decide
  | position record applied =>
      have hudp : Traffic.position record ≠ .truncatedUdp := nofun
      have hrtp : Traffic.position record ≠ .truncatedRtp := nofun
      have hheaders : countedOnTheWay (.position record) = countedOnTheWay (.position none) := rfl
      rw [if_neg hudp, if_neg hrtp, hheaders]
      cases applied <;> constructor <;> decide
  | unfiltered camera payload missed =>
      have hudp : Traffic.video camera payload ≠ .truncatedUdp := nofun
      have hrtp : Traffic.video camera payload ≠ .truncatedRtp := nofun
      have hheaders : countedOnTheWay (.video camera payload) =
          countedOnTheWay (.video 0 .truncated) := rfl
      rw [if_neg hudp, if_neg hrtp, hheaders]
      cases missed <;> constructor <;> decide
  | filtered camera payload missed starts verdict hmode =>
      have hudp : Traffic.video camera payload ≠ .truncatedUdp := nofun
      have hrtp : Traffic.video camera payload ≠ .truncatedRtp := nofun
      have hheaders : countedOnTheWay (.video camera payload) =
          countedOnTheWay (.video 0 .truncated) := rfl
      rw [if_neg hudp, if_neg hrtp, hheaders]
      rcases hmode with rfl | rfl <;> cases missed <;> cases starts <;> cases verdict <;>
        constructor <;> decide

/-- The account of a frame, by its bytes and its verdict. -/
theorem process_accounts (frame : Frame) (tables : VideoTables) :
    ∃ entries, tables.CountedAs entries (process frame tables).2 ∧
      Accounts (fun stat => entries.count stat) [frame].length
        (List.count .drop [(process frame tables).1])
        (List.countP (fun frame => frame.IsCutAtUdp) [frame])
        (List.countP (fun frame => frame.IsCutAtRtp) [frame]) := by
  obtain ⟨entries, hbooked, hcounted⟩ := process_booked tables frame
  refine ⟨_, hcounted, ?_⟩
  have haccounts := hbooked.accounts
  simp only [Traffic.classify_eq_truncatedUdp_iff, Traffic.classify_eq_truncatedRtp_iff]
    at haccounts
  simpa only [List.length_singleton, List.count_singleton, List.countP_singleton, beq_iff_eq,
    decide_eq_true_eq] using haccounts

/-! ## Runs -/

def FilterEvent.frame? : FilterEvent → Option Frame
  | arrival frame => some frame
  | setCamera _ _ | removeCamera _ | setGlobal _ => none

def framesOf (events : List FilterEvent) : List Frame := events.filterMap FilterEvent.frame?

/-- The verdicts on the frames that arrive, in order. -/
def verdictsOf (tables : VideoTables) : List FilterEvent → List Disposition
  | [] => []
  | event :: events =>
    (event.frame?.map fun frame => (process frame tables).1).toList ++
      verdictsOf (event.step tables) events

/-- Changes of the modes from outside count nothing. -/
theorem FilterEvent.stats_step {event : FilterEvent} (h : event.frame? = none)
    (tables : VideoTables) : (event.step tables).stats = tables.stats := by
  cases event with
  | arrival frame => cases h
  | setCamera camera raw => rfl
  | removeCamera camera => exact tables.stats_removeCamera camera
  | setGlobal raw => rfl

/-- What holds of the events of every frame, and adds up, holds of the events of every run. -/
theorem run_of_frames (holds : List Frame → List Disposition → List VideoStat → Prop)
    (hnothing : holds [] [] [])
    (hadd : ∀ {frames frames' verdicts verdicts' entries entries'}, holds frames verdicts entries →
      holds frames' verdicts' entries' →
        holds (frames ++ frames') (verdicts ++ verdicts') (entries ++ entries'))
    (hframe : ∀ (frame : Frame) (tables : VideoTables),
      ∃ entries, tables.CountedAs entries (process frame tables).2 ∧
        holds [frame] [(process frame tables).1] entries)
    (events : List FilterEvent) (tables : VideoTables) :
    ∃ entries, tables.CountedAs entries (events.foldl FilterEvent.step tables) ∧
      holds (framesOf events) (verdictsOf tables events) entries := by
  -- Only an arrival counts anything, and its events come before those of the rest.
  induction events generalizing tables with
  | nil => exact ⟨[], rfl, hnothing⟩
  | cons event events ih =>
      obtain ⟨later, hlater, hrest⟩ := ih (event.step tables)
      have hkept : event.frame? = none → tables.CountedAs [] (event.step tables) :=
        fun hevent => event.stats_step hevent tables
      cases event with
      | setCamera camera raw | removeCamera camera | setGlobal raw =>
          exact ⟨later, (hkept rfl).trans hlater, hrest⟩
      | arrival frame =>
          obtain ⟨entries, hcounted, hholds⟩ := hframe frame tables
          exact ⟨entries ++ later, hcounted.trans hlater, hadd hholds hrest⟩

/-- The events that a run counts balance. -/
theorem run_accounts (events : List FilterEvent) (tables : VideoTables) :
    ∃ entries, tables.CountedAs entries (events.foldl FilterEvent.step tables) ∧
      Accounts (fun stat => entries.count stat) (framesOf events).length
        ((verdictsOf tables events).count .drop)
        ((framesOf events).countP fun frame => frame.IsCutAtUdp)
        ((framesOf events).countP fun frame => frame.IsCutAtRtp) := by
  refine run_of_frames (fun frames verdicts entries =>
    Accounts (fun stat => entries.count stat) frames.length (verdicts.count .drop)
      (frames.countP fun frame => frame.IsCutAtUdp)
      (frames.countP fun frame => frame.IsCutAtRtp)) .zero ?_ process_accounts events tables
  intro frames frames' verdicts verdicts' entries entries' hframes hframes'
  simpa only [List.count_append, List.countP_append, List.length_append] using
    hframes.add hframes'

/-- **The accounts of a run** that starts with all counters at zero, and in which fewer frames
arrive than a counter can count. -/
theorem accounts_of_run {tables : VideoTables} (hzero : ∀ stat, tables.stat stat = 0)
    {events : List FilterEvent} (hfew : (framesOf events).length < UInt64.size) :
    Accounts (fun stat => ((events.foldl FilterEvent.step tables).stat stat).toNat)
      (framesOf events).length
      ((verdictsOf tables events).count .drop)
      ((framesOf events).countP fun frame => frame.IsCutAtUdp)
      ((framesOf events).countP fun frame => frame.IsCutAtRtp) := by
  obtain ⟨entries, hcounted, haccounts⟩ := run_accounts events tables
  exact haccounts.of_countedAs hcounted hzero hfew

/-- A P slice that is dropped, and two packets whose UDP and RTP headers are cut off. -/
theorem accounts_of_run_three_frames :
    let packet := (SampleFrame.video 0 (.nalUnit 1)).bytes
    let events : List FilterEvent :=
      [.setCamera 0 1, .arrival packet, .removeCamera 0, .arrival (packet.take 40),
        .setGlobal 2, .arrival (packet.take 50)]
    (∀ stat, VideoTables.empty.stat stat = 0) ∧ (framesOf events).length < UInt64.size ∧
      Accounts (fun stat => ((events.foldl FilterEvent.step .empty).stat stat).toNat) 3 1 1 1 := by
  intro packet events
  have hzero : ∀ stat, VideoTables.empty.stat stat = 0 := by
    intro stat
    cases stat <;> rfl
  have hlength : (framesOf events).length = 3 := rfl
  have hfew : (framesOf events).length < UInt64.size := by
    rw [hlength]
    decide
  have haccounts := accounts_of_run hzero hfew
  have hdrops : (verdictsOf .empty events).count .drop = 1 := by decide +kernel
  have hudp : ((framesOf events).countP fun frame => frame.IsCutAtUdp) = 1 := by decide +kernel
  have hrtp : ((framesOf events).countP fun frame => frame.IsCutAtRtp) = 1 := by decide +kernel
  rw [hlength, hdrops, hudp, hrtp] at haccounts
  exact ⟨hzero, hfew, haccounts⟩

end VideoGate
