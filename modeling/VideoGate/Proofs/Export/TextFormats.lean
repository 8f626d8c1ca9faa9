import VideoGate.Proofs.Export.Exposition
import VideoGate.Proofs.Export.LineProtocol
import VideoGate.Proofs.Stats.NamedCounts
import VideoGate.Proofs.Stats.Recording

/-!
# The text formats carry the snapshot

Both text formats are made from the same snapshot, each in its own words.  Of a snapshot that a
collector has made, either text can be read back line by line, and every number of the snapshot is
found in it exactly once: as the sample of its series in the exposition format, and as the field of
its key in the line protocol (`text_formats_read_back`).
-/

namespace VideoGate

open TextFormat

/-! ## The numbers of a snapshot -/

/-- A number of a snapshot, with the places where either format keeps it. -/
structure ExportedNumber where
  series : Series
  /-- The key of its field. -/
  field : String
  value : Nat

namespace Snapshot

variable (snapshot : Snapshot Float)

/-- The number of a counter of the filter. -/
def videoNumber (stat : VideoStat) : ExportedNumber where
  series := { name := "xdp_pipeline_video_packets", label := some ("stat", stat.name) }
  field := stat.name
  value := (snapshot.video.get stat.name).toNat

/-- The number of a counter of the dispatcher. -/
def dispatcherNumber (counter : DispatchCounter) : ExportedNumber where
  series := { name := "xdp_pipeline_dispatcher_packets", label := some ("counter", counter.name) }
  field := counter.name
  value := (snapshot.dispatcher.get counter).toNat

/-- The numbers that are not counts. -/
def gaugeNumbers : List ExportedNumber :=
  [{ series := { name := "xdp_pipeline_duration_seconds", label := none }
     field := "duration_seconds"
     value := snapshot.durationSeconds.toNat },
    { series := { name := "xdp_pipeline_position", label := some ("axis", "x") }
      field := "x"
      value := snapshot.position.x.toNat },
    { series := { name := "xdp_pipeline_position", label := some ("axis", "y") }
      field := "y"
      value := snapshot.position.y.toNat },
    { series := { name := "xdp_pipeline_cameras_filtering", label := none }
      field := "cameras_filtering"
      value := snapshot.cameras.filtering.toNat }]

/-- The numbers that both text formats carry. -/
def exportedNumbers : List ExportedNumber :=
  VideoStat.all.map snapshot.videoNumber ++
    (DispatchCounter.all.map snapshot.dispatcherNumber ++ snapshot.gaugeNumbers)

end Snapshot

/-! ## Names -/

theorem VideoStat.mem_all (stat : VideoStat) : stat ∈ all :=
  List.mem_of_getElem? (all_getElem_index stat)

theorem VideoStat.isName_name (stat : VideoStat) : isName stat.name.toList = true := by
  cases stat <;> decide

theorem DispatchCounter.isName_name (counter : DispatchCounter) :
    isName counter.name.toList = true := by
  cases counter <;> decide

variable {snapshot : Snapshot Float} {counts : VideoCounts}

theorem NamedCounts.isName_of_mem_ofVideo {entry : String × UInt64}
    (h : entry ∈ (NamedCounts.ofVideo counts).entries) : isName entry.1.toList = true := by
  obtain ⟨stat, -, rfl⟩ := List.mem_map.mp ((NamedCounts.entries_ofVideo_perm counts).mem_iff.mp h)
  exact stat.isName_name

theorem Snapshot.mem_videoEntries (hvideo : snapshot.video = .ofVideo counts) (stat : VideoStat) :
    (stat.name, snapshot.video.get stat.name) ∈ snapshot.video.entries := by
  rw [hvideo, NamedCounts.get_ofVideo]
  exact (NamedCounts.entries_ofVideo_perm counts).mem_iff.mpr
    (List.mem_map_of_mem stat.mem_all)

/-! ## The exposition format -/

namespace MetricSample

theorem plain_text {label : Option (String × String)}
    (hlabel : ∀ entry ∈ label, isName entry.1.toList = true ∧ isName entry.2.toList = true)
    (n : Nat) : Plain { label, value := Numeral.text n } where
  label := hlabel
  value := by
    simp only [Numeral.text, String.toList_ofList]
    exact isNumber_render n

theorem plain_ratio {label : Option (String × String)}
    (hlabel : ∀ entry ∈ label, isName entry.1.toList = true ∧ isName entry.2.toList = true)
    (x : Float) : Plain { label, value := ratioLayout.write x } where
  label := hlabel
  value := isNumber_write rfl rfl x

theorem number_text (label : Option (String × String)) (n : Nat) :
    number { label, value := Numeral.text n } = .whole n := by
  simp only [number, Numeral.text, String.toList_ofList, readNumber?_render, Option.getD_some]

end MetricSample

/-- The words of a metric are checked apart from its samples. -/
theorem Metric.plain_mk {name kind help : String} {samples : List MetricSample}
    (hwords : isName (Metric.family ++ name).toList = true ∧ kind ∈ ExpositionLine.metricKinds ∧
      '\n' ∉ help.toList) (hsamples : ∀ sample ∈ samples, sample.Plain) :
    Metric.Plain { name, kind, help, samples } where
  name := hwords.1
  kind := hwords.2.1
  help := hwords.2.2
  samples := hsamples

namespace Snapshot

theorem plain_metrics (hvideo : snapshot.video = .ofVideo counts) :
    ∀ metric ∈ snapshot.metrics, metric.Plain := by
  simp only [metrics, List.forall_mem_cons]
  refine ⟨?duration, ?dispatcher, ?video, ?ratio, ?position, ?cameras, by simp⟩
  case duration =>
    refine Metric.plain_mk (by decide) (List.forall_mem_singleton.mpr ?_)
    exact MetricSample.plain_text (by simp) _
  case dispatcher =>
    refine Metric.plain_mk (by decide) (List.forall_mem_map.mpr fun counter _ => ?_)
    refine MetricSample.plain_text (fun entry hentry => ?_) _
    have hkey : isName "counter".toList = true := by decide
    obtain rfl := Option.some.inj hentry
    exact ⟨hkey, counter.isName_name⟩
  case video =>
    refine Metric.plain_mk (by decide) (List.forall_mem_map.mpr fun count hcount => ?_)
    refine MetricSample.plain_text (fun entry hentry => ?_) _
    have hkey : isName "stat".toList = true := by decide
    obtain rfl := Option.some.inj hentry
    exact ⟨hkey, NamedCounts.isName_of_mem_ofVideo (hvideo ▸ hcount)⟩
  case ratio =>
    refine Metric.plain_mk (by decide)
      (List.forall_mem_cons.mpr ⟨?_, List.forall_mem_singleton.mpr ?_⟩)
    · exact MetricSample.plain_ratio (by simp) _
    · exact MetricSample.plain_ratio (by decide) _
  case position =>
    refine Metric.plain_mk (by decide)
      (List.forall_mem_cons.mpr ⟨?_, List.forall_mem_singleton.mpr ?_⟩)
    · exact MetricSample.plain_text (by decide) _
    · exact MetricSample.plain_text (by decide) _
  case cameras =>
    refine Metric.plain_mk (by decide) (List.forall_mem_singleton.mpr ?_)
    exact MetricSample.plain_text (by simp) _

theorem nodup_metricNames (snapshot : Snapshot Float) :
    (snapshot.metrics.map Metric.fullName).Nodup := by
  have hnames : snapshot.metrics.map Metric.fullName =
      ["duration_seconds", "dispatcher_packets", "video_packets", "drop_ratio", "position",
        "cameras_filtering"].map (Metric.family ++ ·) := rfl
  rw [hnames]
  decide

/-- Labels of one key are different if their values are. -/
theorem nodup_labels_map {α : Type} {values : List α} {name : α → String} {text : α → String}
    (key : String) (h : values.Pairwise fun a b => name a ≠ name b) :
    ((values.map fun value => MetricSample.mk (some (key, name value)) (text value)).map
      MetricSample.label).Nodup := by
  rw [List.map_map]
  refine List.pairwise_map.mpr (h.imp fun hne hlabel => hne ?_)
  exact (Prod.mk.inj (Option.some.inj hlabel)).2

theorem nodup_labels (snapshot : Snapshot Float) : ∀ metric ∈ snapshot.metrics,
    (metric.samples.map MetricSample.label).Nodup := by
  simp only [metrics, List.forall_mem_cons]
  refine ⟨?duration, ?dispatcher, ?video, ?ratio, ?position, ?cameras, by simp⟩
  case duration => exact List.nodup_singleton _
  case dispatcher => exact nodup_labels_map "counter" (by decide)
  case video =>
    refine nodup_labels_map "stat" (snapshot.video.sorted.imp fun hlt hsame => ?_)
    exact String.lt_irrefl _ (hsame ▸ hlt)
  case ratio =>
    have hlabels : [none, some ("window", "peak_interval")].Nodup := by decide
    exact hlabels
  case position =>
    have hlabels : [some ("axis", "x"), some ("axis", "y")].Nodup := by decide
    exact hlabels
  case cameras => exact List.nodup_singleton _

/-- A whole number in a sample of a metric is read under the series of this metric. -/
theorem whole_mem_readSamples {metrics : List Metric} {metric : Metric} {series : Series} {n : Nat}
    (place : Nat) (hmetric : metrics[place]? = some metric)
    (hname : metric.fullName = series.name)
    (hsample : { label := series.label, value := Numeral.text n } ∈ metric.samples) :
    (series, .whole n) ∈ metrics.flatMap Metric.readSamples := by
  refine List.mem_flatMap.mpr ⟨metric, List.mem_of_getElem? hmetric, ?_⟩
  refine List.mem_map.mpr ⟨_, hsample, ?_⟩
  rw [MetricSample.number_text, Metric.series, hname]

/-- Every number is the sample of its series. -/
theorem mem_readSamples (hvideo : snapshot.video = .ofVideo counts) :
    ∀ number ∈ snapshot.exportedNumbers,
      (number.series, .whole number.value) ∈ snapshot.metrics.flatMap Metric.readSamples := by
  simp only [exportedNumbers, gaugeNumbers, List.forall_mem_append, List.forall_mem_map,
    List.forall_mem_cons]
  refine ⟨?video, ?dispatcher, ?duration, ?x, ?y, ?cameras, by simp⟩
  case video =>
    intro stat _
    refine whole_mem_readSamples 2 rfl rfl ?_
    exact List.mem_map.mpr ⟨_, mem_videoEntries hvideo stat, rfl⟩
  case dispatcher =>
    intro counter hcounter
    refine whole_mem_readSamples 1 rfl rfl ?_
    exact List.mem_map.mpr ⟨counter, hcounter, rfl⟩
  case duration => exact whole_mem_readSamples 0 rfl rfl (.head _)
  case x => exact whole_mem_readSamples 4 rfl rfl (.head _)
  case y => exact whole_mem_readSamples 4 rfl rfl (.tail _ (.head _))
  case cameras => exact whole_mem_readSamples 5 rfl rfl (.head _)

end Snapshot

/-! ## The line protocol -/

/-- The type of a point is checked apart from its fields. -/
theorem Point.plain_mk {type : String} {fields : List (String × String)}
    (htype : isName type.toList = true) (hne : fields ≠ [])
    (hfields : ∀ field ∈ fields, PlainField field) : Point.Plain { type, fields } where
  type := htype
  ne_nil := hne
  fields := hfields

namespace Snapshot

theorem plain_points (hvideo : snapshot.video = .ofVideo counts) :
    ∀ point ∈ snapshot.points, point.Plain := by
  simp only [points, List.forall_mem_cons]
  refine ⟨?summary, ?dispatcher, ?video, ?tracking, by simp⟩
  case summary =>
    refine Point.plain_mk (by decide) (List.cons_ne_nil _ _) ?_
    simp only [List.forall_mem_cons]
    exact ⟨plainField_wholeField (by decide) _, plainField_wholeField (by decide) _,
      plainField_of_isNumber (by decide) (isNumber_write rfl rfl _),
      plainField_of_isNumber (by decide) (isNumber_write rfl rfl _), by simp⟩
  case dispatcher =>
    refine Point.plain_mk (by decide) (List.cons_ne_nil _ _) ?_
    exact List.forall_mem_map.mpr fun counter _ => plainField_wholeField counter.isName_name _
  case video =>
    refine Point.plain_mk (by decide) (fun hnil => ?_) ?_
    · have hmem := mem_videoEntries hvideo .dropped
      rw [List.map_eq_nil_iff.mp hnil] at hmem
      cases hmem
    · refine List.forall_mem_map.mpr fun entry hentry => ?_
      exact plainField_wholeField (NamedCounts.isName_of_mem_ofVideo (hvideo ▸ hentry)) _
  case tracking =>
    refine Point.plain_mk (by decide) (List.cons_ne_nil _ _) ?_
    simp only [List.forall_mem_cons]
    exact ⟨plainField_wholeField (by decide) _, plainField_wholeField (by decide) _,
      plainField_wholeField (by decide) _, by simp⟩

/-- The fields of all points as they are read. -/
def readFields (snapshot : Snapshot Float) : List (String × ReadNumber) :=
  snapshot.points.flatMap fun point => point.fields.map fieldNumber

/-- The keys that belong to no counter of the filter, in front of and behind those that do. -/
theorem fieldKeys_eq (snapshot : Snapshot Float) :
    snapshot.readFields.map Prod.fst =
      ["duration_seconds", "samples", "drop_ratio", "peak_interval_drop_ratio"] ++
        (DispatchCounter.all.map DispatchCounter.name ++
          (snapshot.video.entries.map Prod.fst ++ ["x", "y", "cameras_filtering"])) := by
  have hkeys : ∀ fields : List (String × String),
      (fields.map fieldNumber).map Prod.fst = fields.map Prod.fst := by
    intro fields
    rw [List.map_map]
    rfl
  simp only [readFields, List.map_flatMap, hkeys]
  simp [points, wholeField, Function.comp_def]

theorem nodup_fieldKeys (hvideo : snapshot.video = .ofVideo counts) :
    (snapshot.readFields.map Prod.fst).Nodup := by
  have hnames : (snapshot.video.entries.map Prod.fst).Perm (VideoStat.all.map VideoStat.name) := by
    have hperm := (NamedCounts.entries_ofVideo_perm counts).map Prod.fst
    rwa [← hvideo, List.map_map] at hperm
  rw [fieldKeys_eq, (((hnames.append_right _).append_left _).append_left _).nodup_iff]
  decide +kernel

theorem whole_mem_readFields {point : Point} {key : String} {n : Nat} (place : Nat)
    (hpoint : snapshot.points[place]? = some point)
    (hfield : wholeField key (Numeral.text n) ∈ point.fields) :
    (key, .whole n) ∈ snapshot.readFields := by
  refine List.mem_flatMap.mpr ⟨point, List.mem_of_getElem? hpoint, ?_⟩
  exact List.mem_map.mpr ⟨_, hfield, fieldNumber_wholeField key n⟩

/-- Every number is the field of its key. -/
theorem mem_readFields (hvideo : snapshot.video = .ofVideo counts) :
    ∀ number ∈ snapshot.exportedNumbers,
      (number.field, .whole number.value) ∈ snapshot.readFields := by
  simp only [exportedNumbers, gaugeNumbers, List.forall_mem_append, List.forall_mem_map,
    List.forall_mem_cons]
  refine ⟨?video, ?dispatcher, ?duration, ?x, ?y, ?cameras, by simp⟩
  case video =>
    intro stat _
    refine whole_mem_readFields 2 rfl ?_
    exact List.mem_map.mpr ⟨_, mem_videoEntries hvideo stat, rfl⟩
  case dispatcher =>
    intro counter hcounter
    refine whole_mem_readFields 1 rfl ?_
    exact List.mem_map.mpr ⟨counter, hcounter, rfl⟩
  case duration => exact whole_mem_readFields 0 rfl (.head _)
  case x => exact whole_mem_readFields 3 rfl (.head _)
  case y => exact whole_mem_readFields 3 rfl (.tail _ (.head _))
  case cameras => exact whole_mem_readFields 3 rfl (.tail _ (.tail _ (.head _)))

end Snapshot

/-! ## Both formats -/

/-- A collector names the counts of the filter in its snapshots. -/
theorem Collector.exists_video_eq {collector : Collector Float} {timestamp : String}
    {elapsed : UInt64} (h : collector.snapshot? timestamp elapsed = .ok (some snapshot)) :
    ∃ counts, snapshot.video = .ofVideo counts := by
  cases hbaseline : collector.baseline with
  | none =>
      rw [snapshot?_of_none hbaseline] at h
      cases h
  | some first =>
      cases hlatest : collector.latest with
      | none =>
          unfold snapshot? at h
          rw [hbaseline, hlatest] at h
          cases h
      | some last =>
          rw [snapshot?_eq hbaseline hlatest] at h
          split at h
          · cases h
            exact ⟨_, rfl⟩
          · cases h

/-- No two samples are of the same series, and every metric that is spoken of is introduced. -/
structure ExpositionLine.WellFormed (lines : List ExpositionLine) : Prop where
  nodup_series : ((lines.filterMap ExpositionLine.sample?).map Prod.fst).Nodup
  introduced : ∀ line ∈ lines, ∀ name ∈ line.metric?, ExpositionLine.Introduces lines name

theorem Snapshot.wellFormed_metrics (snapshot : Snapshot Float) :
    ExpositionLine.WellFormed (snapshot.metrics.flatMap Metric.readLines) where
  nodup_series := by
    rw [filterMap_sample?_metrics]
    exact nodup_series_metrics snapshot.nodup_metricNames snapshot.nodup_labels
  introduced line hline name hname := by
    obtain ⟨metric, hmetric, hline⟩ := List.mem_flatMap.mp hline
    rw [metric.eq_fullName_of_mem_readLines hline hname]
    exact introduces_metrics snapshot.nodup_metricNames hmetric

/-- **Both text formats are read back to the numbers of the snapshot.** -/
theorem text_formats_read_back {collector : Collector Float} {timestamp : String}
    {elapsed : UInt64} (h : collector.snapshot? timestamp elapsed = .ok (some snapshot)) :
    (∃ lines, readExposition? snapshot.exposition = some lines ∧
      ExpositionLine.WellFormed lines ∧
      ∀ number ∈ snapshot.exportedNumbers,
        (lines.filterMap ExpositionLine.sample?).filter (·.1 = number.series) =
          [(number.series, .whole number.value)]) ∧
    ∀ (measurement : String) (nanoseconds : Int),
      (∀ c ∈ Point.dividers, c ∉ measurement.toList) →
        ∃ points, readLineProtocol? (snapshot.lineProtocol measurement nanoseconds) = some points ∧
          points.length = 4 ∧
          (∀ point ∈ points, point.measurement = measurement ∧ point.tags ≠ [] ∧
            point.fields ≠ [] ∧ point.nanoseconds = nanoseconds) ∧
          ∀ number ∈ snapshot.exportedNumbers,
            (points.flatMap ReadPoint.fields).filter (·.1 = number.field) =
              [(number.field, .whole number.value)] := by
  obtain ⟨counts, hvideo⟩ := Collector.exists_video_eq h
  constructor
  · refine ⟨_, readExposition?_metrics (Snapshot.plain_metrics hvideo),
      snapshot.wellFormed_metrics, fun number hnumber => ?_⟩
    have hkeys := snapshot.wellFormed_metrics.nodup_series
    rw [filterMap_sample?_metrics] at hkeys ⊢
    exact filter_key_eq hkeys (Snapshot.mem_readSamples hvideo number hnumber)
  · intro measurement nanoseconds hmeasurement
    have hplain := Snapshot.plain_points hvideo
    refine ⟨_, readLineProtocol?_points hmeasurement hplain, rfl, ?_, fun number hnumber => ?_⟩
    · refine List.forall_mem_map.mpr fun point hpoint => ?_
      refine ⟨rfl, List.cons_ne_nil _ _, fun hnil => ?_, rfl⟩
      exact (hplain point hpoint).ne_nil (List.map_eq_nil_iff.mp hnil)
    · rw [List.flatMap_map]
      exact filter_key_eq (Snapshot.nodup_fieldKeys hvideo)
        (Snapshot.mem_readFields hvideo number hnumber)

/-- In between the two samples the filter has dropped three packets and forwarded six. -/
theorem text_formats_read_back_dropped :
    let first := { (default : Sample) with video := .ofList [1, 1, 0, 0, 1, 0] }
    let last := { (default : Sample) with
      video := .ofList [11, 10, 0, 0, 4, 6]
      position := { x := 7, y := 0xFFFFFFFF } }
    let collector : Collector Float :=
      { baseline := some first, latest := some last, peak := 0.5, samples := 2 }
    let dropped : Series :=
      { name := "xdp_pipeline_video_packets", label := some ("stat", "dropped") }
    ∃ snapshot, collector.snapshot? "12:00" 10 = .ok (some snapshot) ∧
      (∀ c ∈ Point.dividers, c ∉ "xdp_pipeline".toList) ∧
      (∃ lines, readExposition? snapshot.exposition = some lines ∧
        (lines.filterMap ExpositionLine.sample?).filter (·.1 = dropped) = [(dropped, .whole 3)]) ∧
      ∃ points, readLineProtocol? (snapshot.lineProtocol "xdp_pipeline" (-1)) = some points ∧
        (points.flatMap ReadPoint.fields).filter (·.1 = "dropped") = [("dropped", .whole 3)] := by
  intro first last collector dropped
  have hfits : first.Fits last := by decide +kernel
  have heq := Collector.snapshot?_eq (show collector.baseline = some first from rfl) rfl "12:00" 10
  rw [if_pos hfits] at heq
  obtain ⟨snapshot, hsnapshot, hvideo⟩ : ∃ snapshot : Snapshot Float,
      collector.snapshot? "12:00" 10 = .ok (some snapshot) ∧
        snapshot.video = .ofVideo (last.video.since first.video) := ⟨_, heq, rfl⟩
  have hmeasurement : ∀ c ∈ Point.dividers, c ∉ "xdp_pipeline".toList := by
    simp only [Point.dividers, List.forall_mem_cons]
    exact ⟨by decide, by decide, by decide, by simp⟩
  have hnumber : snapshot.videoNumber .dropped ∈ snapshot.exportedNumbers :=
    List.mem_append_left _ (List.mem_map_of_mem (VideoStat.mem_all .dropped))
  have hvalue : (snapshot.videoNumber .dropped).value = 3 := by
    rw [Snapshot.videoNumber, hvideo, NamedCounts.get_ofVideo]
    decide +kernel
  obtain ⟨⟨lines, hlines, -, hsamples⟩, hprotocol⟩ := text_formats_read_back hsnapshot
  obtain ⟨points, hpoints, -, -, hfields⟩ := hprotocol "xdp_pipeline" (-1) hmeasurement
  refine ⟨snapshot, hsnapshot, hmeasurement, ⟨lines, hlines, ?_⟩, points, hpoints, ?_⟩
  · exact hvalue ▸ hsamples _ hnumber
  · exact hvalue ▸ hfields _ hnumber

end VideoGate
