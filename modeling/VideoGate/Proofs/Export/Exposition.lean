import Mathlib.Data.List.Nodup
import VideoGate.Export.Text
import VideoGate.Proofs.Export.Words

/-!
# Reading the exposition format

A line of the format is empty, a comment on a metric, or a sample.  The reader here knows nothing of
the metrics that there are.  It reads the lines of any metrics back, as long as their names and
labels are names and their values numbers (`readExposition?_metrics`); and if in addition no two
metrics share a name, and no two samples of a metric a label, then no two samples have the same
series, and every metric is introduced once, before its samples (`introduces_metrics`).
-/

namespace VideoGate

open TextFormat

/-- What a sample is a sample of: a metric, and at most one label. -/
structure Series where
  name : String
  label : Option (String × String)
deriving DecidableEq, Repr

/-- A line of the exposition format. -/
inductive ExpositionLine where
  | empty
  /-- What a metric means. -/
  | help (name words : String)
  /-- Of which kind a metric is. -/
  | kind (name kind : String)
  | sample (series : Series) (value : ReadNumber)
deriving DecidableEq, Repr

namespace ExpositionLine

/-! ## Reading a line -/

/-- The kinds of metrics that the format knows. -/
def metricKinds : List String := ["counter", "gauge", "histogram", "summary", "untyped"]

/-- Reads a comment. -/
def readComment? (line : List Char) : Option ExpositionLine :=
  match line.splitOn ' ' with
  | ['#'] :: keyword :: name :: words =>
    if isName name = false then none
    else if keyword = ['H', 'E', 'L', 'P'] then
      some (.help (String.ofList name) (String.ofList ([' '].intercalate words)))
    else if keyword = ['T', 'Y', 'P', 'E'] then
      match words with
      | [word] =>
        if String.ofList word ∈ metricKinds then
          some (.kind (String.ofList name) (String.ofList word))
        else none
      | _ => none
    else none
  | _ => none

/-- Reads a sample without a label. -/
def readPlain? (line : List Char) : Option ExpositionLine :=
  match line.splitOn ' ' with
  | [name, value] =>
    if isName name then
      (readNumber? value).map (.sample { name := String.ofList name, label := none })
    else none
  | _ => none

/-- Reads a sample with a label whose value is `label`, from what stands before and behind it. -/
def readLabelled? (front label behind : List Char) : Option ExpositionLine :=
  match front.splitOn '{', behind with
  | [name, key], '}' :: ' ' :: value =>
    match key.splitOn '=' with
    | [key, []] =>
      if isName name ∧ isName key ∧ '\\' ∉ label then
        (readNumber? value).map (.sample
          { name := String.ofList name
            label := some (String.ofList key, String.ofList label) })
      else none
    | _ => none
  | _, _ => none

/-- Reads a sample. -/
def readSample? (line : List Char) : Option ExpositionLine :=
  match line.splitOn '"' with
  | [line] => readPlain? line
  | [front, label, behind] => readLabelled? front label behind
  | _ => none

/-- Reads a line. -/
def read? (line : List Char) : Option ExpositionLine :=
  match line with
  | [] => some .empty
  | '#' :: _ => readComment? line
  | _ :: _ => readSample? line

/-! ## What the lines say -/

/-- The metric that a line is about. -/
def metric? : ExpositionLine → Option String
  | empty => none
  | help name _ => some name
  | kind name _ => some name
  | sample series _ => some series.name

/-- The metric whose meaning is told. -/
def helped? : ExpositionLine → Option String
  | help name _ => some name
  | _ => none

/-- The metric whose kind is told. -/
def typed? : ExpositionLine → Option String
  | kind name _ => some name
  | _ => none

/-- The sample on a line. -/
def sample? : ExpositionLine → Option (Series × ReadNumber)
  | sample series value => some (series, value)
  | _ => none

/-- The lines tell the meaning and the kind of a metric once, both before each of its samples. -/
structure Introduces (lines : List ExpositionLine) (name : String) : Prop where
  helped_once : (lines.filterMap helped?).count name = 1
  typed_once : (lines.filterMap typed?).count name = 1
  before_samples : ∀ {before after series value}, lines = before ++ sample series value :: after →
    series.name = name → name ∈ before.filterMap helped? ∧ name ∈ before.filterMap typed?

end ExpositionLine

/-- Reads a text in the exposition format. -/
def readExposition? (text : String) : Option (List ExpositionLine) :=
  readLines? ExpositionLine.read? text

/-! ## The samples of a metric -/

namespace MetricSample

/-- The value of a sample as it is read. -/
def number (sample : MetricSample) : ReadNumber :=
  (readNumber? sample.value.toList).getD (.other sample.value)

/-- The label of a sample consists of names, and its value is a number. -/
structure Plain (sample : MetricSample) : Prop where
  label : ∀ label ∈ sample.label, isName label.1.toList = true ∧ isName label.2.toList = true
  value : isNumber sample.value.toList = true

theorem Plain.readNumber?_eq {sample : MetricSample} (h : sample.Plain) :
    readNumber? sample.value.toList = some sample.number := by
  obtain ⟨number, hnumber⟩ := exists_readNumber? h.value
  rw [MetricSample.number, hnumber, Option.getD_some]

theorem Plain.not_mem_value {sample : MetricSample} (h : sample.Plain) {c : Char}
    (hc : isNumberChar c = false) : c ∉ sample.value.toList :=
  fun hmem => absurd (isNumberChar_of_isNumber h.value hmem) (hc ▸ Bool.false_ne_true)

end MetricSample

namespace Metric

/-- The name of a metric in full. -/
def fullName (metric : Metric) : String := family ++ metric.name

/-- The series of a sample. -/
def series (metric : Metric) (sample : MetricSample) : Series where
  name := metric.fullName
  label := sample.label

/-- The lines of a metric as they are read. -/
def readLines (metric : Metric) : List ExpositionLine :=
  .help metric.fullName metric.help :: .kind metric.fullName metric.kind ::
    (metric.samples.map fun sample => .sample (metric.series sample) sample.number) ++ [.empty]

/-- What a metric has to be like for its lines to be read. -/
structure Plain (metric : Metric) : Prop where
  name : isName metric.fullName.toList = true
  kind : metric.kind ∈ ExpositionLine.metricKinds
  help : '\n' ∉ metric.help.toList
  samples : ∀ sample ∈ metric.samples, sample.Plain

variable {metric : Metric} {sample : MetricSample}

theorem Plain.not_mem_fullName (h : metric.Plain) {c : Char} (hc : isNameChar c = false) :
    c ∉ metric.fullName.toList := not_mem_of_isName h.name hc

theorem splitOn_comment (h : metric.Plain) {keyword : List Char} (hkeyword : ' ' ∉ keyword)
    (words : List Char) :
    (['#'] ++ ' ' :: (keyword ++ ' ' :: (metric.fullName.toList ++ ' ' :: words))).splitOn ' ' =
      ['#'] :: keyword :: metric.fullName.toList :: words.splitOn ' ' := by
  rw [splitOn_append_cons, splitOn_append_cons, splitOn_append_cons,
    List.splitOn_eq_singleton hkeyword, List.splitOn_eq_singleton (h.not_mem_fullName rfl)]
  rfl

theorem read?_helpLine (h : metric.Plain) :
    ExpositionLine.read? ("# HELP " ++ family ++ metric.name ++ " " ++ metric.help).toList =
      some (.help metric.fullName metric.help) := by
  have hline : ("# HELP " ++ family ++ metric.name ++ " " ++ metric.help).toList =
      ['#'] ++ ' ' :: (['H', 'E', 'L', 'P'] ++ ' ' ::
        (metric.fullName.toList ++ ' ' :: metric.help.toList)) := by
    simp [fullName, String.toList_append]
  rw [hline]
  show ExpositionLine.readComment? _ = _
  rw [ExpositionLine.readComment?, splitOn_comment h (by decide)]
  simp only [h.name, Bool.true_eq_false, if_false, if_pos, List.intercalate_splitOn,
    String.ofList_toList]

theorem read?_kindLine (h : metric.Plain) :
    ExpositionLine.read? ("# TYPE " ++ family ++ metric.name ++ " " ++ metric.kind).toList =
      some (.kind metric.fullName metric.kind) := by
  have hline : ("# TYPE " ++ family ++ metric.name ++ " " ++ metric.kind).toList =
      ['#'] ++ ' ' :: (['T', 'Y', 'P', 'E'] ++ ' ' ::
        (metric.fullName.toList ++ ' ' :: metric.kind.toList)) := by
    simp [fullName, String.toList_append]
  have hword : metric.kind.toList.splitOn ' ' = [metric.kind.toList] := by
    have hkind := h.kind
    simp only [ExpositionLine.metricKinds, List.mem_cons, List.not_mem_nil, or_false] at hkind
    rcases hkind with hkind | hkind | hkind | hkind | hkind <;> rw [hkind] <;> rfl
  rw [hline]
  show ExpositionLine.readComment? _ = _
  rw [ExpositionLine.readComment?, splitOn_comment h (by decide), hword]
  have hkeyword : ['T', 'Y', 'P', 'E'] ≠ ['H', 'E', 'L', 'P'] := by decide
  simp only [h.name, Bool.true_eq_false, if_false, hkeyword, if_pos, String.ofList_toList, h.kind]

theorem read?_sampleLine_eq (metric : Metric) (sample : MetricSample) :
    ExpositionLine.read? (sampleLine metric.name sample).toList =
      ExpositionLine.readSample? (sampleLine metric.name sample).toList := by
  obtain ⟨rest, hrest⟩ : ∃ rest, (sampleLine metric.name sample).toList = 'x' :: rest := by
    simp [sampleLine, family, String.toList_append]
  rw [hrest]
  rfl

theorem readPlain?_of_plain (h : metric.Plain) (hsample : sample.Plain)
    (hlabel : sample.label = none) :
    ExpositionLine.readPlain? (metric.fullName.toList ++ ' ' :: sample.value.toList) =
      some (.sample (metric.series sample) sample.number) := by
  rw [ExpositionLine.readPlain?, splitOn_append_cons,
    List.splitOn_eq_singleton (h.not_mem_fullName rfl),
    List.splitOn_eq_singleton (hsample.not_mem_value rfl)]
  simp only [List.cons_append, List.nil_append, h.name, if_true, hsample.readNumber?_eq,
    Option.map_some, String.ofList_toList, series, hlabel]

theorem readLabelled?_of_plain (h : metric.Plain) (hsample : sample.Plain) {key label : String}
    (hlabel : sample.label = some (key, label)) :
    ExpositionLine.readLabelled? (metric.fullName.toList ++ '{' :: (key.toList ++ ['=']))
        label.toList ('}' :: ' ' :: sample.value.toList) =
      some (.sample (metric.series sample) sample.number) := by
  obtain ⟨hkey, hvalue⟩ := hsample.label (key, label) hlabel
  have hfront : (metric.fullName.toList ++ '{' :: (key.toList ++ ['='])).splitOn '{' =
      [metric.fullName.toList, key.toList ++ ['=']] := by
    have hbrace : '{' ∉ key.toList ++ ['='] := by
      rw [List.mem_append, not_or]
      exact ⟨not_mem_of_isName hkey rfl, by decide⟩
    rw [splitOn_append_cons, List.splitOn_eq_singleton (h.not_mem_fullName rfl),
      List.splitOn_eq_singleton hbrace]
    rfl
  have hkeySplit : (key.toList ++ ['=']).splitOn '=' = [key.toList, []] := by
    rw [splitOn_append_cons, List.splitOn_eq_singleton (not_mem_of_isName hkey rfl)]
    rfl
  have hescape : '\\' ∉ label.toList := not_mem_of_isName hvalue rfl
  unfold ExpositionLine.readLabelled?
  simp only [hfront, hkeySplit, h.name, hkey, hescape, not_false_eq_true, and_self, if_true,
    hsample.readNumber?_eq, Option.map_some, String.ofList_toList, series, hlabel]

theorem read?_sampleLine (h : metric.Plain) (hsample : sample.Plain) :
    ExpositionLine.read? (sampleLine metric.name sample).toList =
      some (.sample (metric.series sample) sample.number) := by
  have hquote : '"' ∉ sample.value.toList := hsample.not_mem_value rfl
  rw [read?_sampleLine_eq]
  cases hlabel : sample.label with
  | none =>
      have hline : (sampleLine metric.name sample).toList =
          metric.fullName.toList ++ ' ' :: sample.value.toList := by
        simp [sampleLine, hlabel, fullName, String.toList_append]
      have hplain : '"' ∉ metric.fullName.toList ++ ' ' :: sample.value.toList := by
        rw [List.mem_append, List.mem_cons, not_or, not_or]
        exact ⟨h.not_mem_fullName rfl, by decide, hquote⟩
      rw [hline, ExpositionLine.readSample?, List.splitOn_eq_singleton hplain]
      exact readPlain?_of_plain h hsample hlabel
  | some label =>
      obtain ⟨key, label⟩ := label
      obtain ⟨hkey, hvalue⟩ := hsample.label (key, label) hlabel
      have hline : (sampleLine metric.name sample).toList =
          (metric.fullName.toList ++ '{' :: (key.toList ++ ['='])) ++ '"' ::
            (label.toList ++ '"' :: '}' :: ' ' :: sample.value.toList) := by
        simp [sampleLine, hlabel, fullName, String.toList_append]
      have hfront : '"' ∉ metric.fullName.toList ++ '{' :: (key.toList ++ ['=']) := by
        rw [List.mem_append, List.mem_cons, List.mem_append, not_or, not_or, not_or]
        exact ⟨h.not_mem_fullName rfl, by decide, not_mem_of_isName hkey rfl, by decide⟩
      have hbehind : '"' ∉ '}' :: ' ' :: sample.value.toList := by
        rw [List.mem_cons, List.mem_cons, not_or, not_or]
        exact ⟨by decide, by decide, hquote⟩
      rw [hline, ExpositionLine.readSample?, splitOn_append_cons, splitOn_append_cons,
        List.splitOn_eq_singleton hfront,
        List.splitOn_eq_singleton (not_mem_of_isName hvalue (by rfl)),
        List.splitOn_eq_singleton hbehind]
      exact readLabelled?_of_plain h hsample hlabel

/-! ## The lines of a metric -/

theorem newline_not_mem_sampleLine (h : metric.Plain) (hsample : sample.Plain) :
    '\n' ∉ (sampleLine metric.name sample).toList := by
  have hname : '\n' ∉ metric.fullName.toList := h.not_mem_fullName rfl
  have hvalue : '\n' ∉ sample.value.toList := hsample.not_mem_value rfl
  rw [fullName, String.toList_append, List.mem_append, not_or] at hname
  cases hlabel : sample.label with
  | none => simp [sampleLine, hlabel, String.toList_append, hname, hvalue]
  | some label =>
      obtain ⟨hkey, htext⟩ := hsample.label label hlabel
      have hkey : '\n' ∉ label.1.toList := not_mem_of_isName hkey rfl
      have htext : '\n' ∉ label.2.toList := not_mem_of_isName htext rfl
      simp [sampleLine, hlabel, String.toList_append, hname, hvalue, hkey, htext]

theorem Plain.newline_not_mem_lines (h : metric.Plain) :
    ∀ line ∈ metric.lines, '\n' ∉ line.toList := by
  have hname : '\n' ∉ metric.fullName.toList := h.not_mem_fullName rfl
  rw [fullName, String.toList_append, List.mem_append, not_or] at hname
  have hkind : '\n' ∉ metric.kind.toList := by
    have hkinds : ∀ kind ∈ ExpositionLine.metricKinds, '\n' ∉ kind.toList := by decide
    exact hkinds _ h.kind
  intro line hline
  simp only [lines, List.mem_append, List.mem_cons, List.mem_map, List.not_mem_nil,
    or_false] at hline
  rcases hline with ((rfl | rfl) | ⟨sample, hsample, rfl⟩) | rfl
  · simp [String.toList_append, hname, h.help]
  · simp [String.toList_append, hname, hkind]
  · exact newline_not_mem_sampleLine h (h.samples sample hsample)
  · simp

theorem Plain.read?_lines (h : metric.Plain) :
    metric.lines.map (fun line => ExpositionLine.read? line.toList) =
      metric.readLines.map some := by
  have hsamples : metric.samples.map
        (fun sample => ExpositionLine.read? (sampleLine metric.name sample).toList) =
      metric.samples.map
        (fun sample => some (.sample (metric.series sample) sample.number)) :=
    List.map_congr_left fun sample hsample => read?_sampleLine h (h.samples sample hsample)
  simp only [lines, readLines, List.map_append, List.map_cons, List.map_nil, List.map_map,
    Function.comp_def, read?_helpLine h, read?_kindLine h, hsamples]
  rfl

end Metric

/-- **The lines of metrics are read back.** -/
theorem readExposition?_metrics {metrics : List Metric} (h : ∀ metric ∈ metrics, metric.Plain) :
    readExposition? (linesText (metrics.flatMap Metric.lines)) =
      some (metrics.flatMap Metric.readLines) := by
  refine readLines?_linesText ?_ ?_
  · intro line hline
    obtain ⟨metric, hmetric, hline⟩ := List.mem_flatMap.mp hline
    exact (h metric hmetric).newline_not_mem_lines line hline
  · rw [List.map_flatMap, List.map_flatMap]
    exact List.flatMap_congr fun metric hmetric => (h metric hmetric).read?_lines

/-! ## Samples and introductions -/

namespace Metric

variable (metric : Metric)

/-- The samples of a metric as they are read. -/
def readSamples : List (Series × ReadNumber) :=
  metric.samples.map fun sample => (metric.series sample, sample.number)

theorem filterMap_sample?_readLines :
    metric.readLines.filterMap ExpositionLine.sample? = metric.readSamples := by
  simp [readLines, readSamples, ExpositionLine.sample?, List.filterMap_cons, List.filterMap_map,
    Function.comp_def]

theorem filterMap_helped?_readLines :
    metric.readLines.filterMap ExpositionLine.helped? = [metric.fullName] := by
  simp [readLines, ExpositionLine.helped?, List.filterMap_cons, List.filterMap_map,
    Function.comp_def]

theorem filterMap_typed?_readLines :
    metric.readLines.filterMap ExpositionLine.typed? = [metric.fullName] := by
  simp [readLines, ExpositionLine.typed?, List.filterMap_cons, List.filterMap_map,
    Function.comp_def]

/-- The comments of a metric come before its samples. -/
theorem comments_before_sample {before after : List ExpositionLine} {series : Series}
    {value : ReadNumber} (h : metric.readLines = before ++ .sample series value :: after) :
    series.name ∈ before.filterMap ExpositionLine.helped? ∧
      series.name ∈ before.filterMap ExpositionLine.typed? := by
  have hname : series.name = metric.fullName := by
    have hmem : (series, value) ∈ metric.readSamples := by
      rw [← filterMap_sample?_readLines, h, List.filterMap_append]
      exact List.mem_append_right _ List.mem_cons_self
    obtain ⟨_, -, hseries⟩ := List.mem_map.mp hmem
    exact congrArg (·.1.name) hseries.symm
  rw [hname]
  match before with
  | [] => cases (List.cons.inj h).1
  | [_] => cases (List.cons.inj (List.cons.inj h).2).1
  | first :: second :: before =>
      obtain ⟨rfl, hrest⟩ := List.cons.inj h
      obtain ⟨rfl, -⟩ := List.cons.inj hrest
      exact ⟨List.mem_cons_self, List.mem_cons_self⟩

/-- A metric speaks of itself only. -/
theorem eq_fullName_of_mem_readLines {line : ExpositionLine} {name : String}
    (h : line ∈ metric.readLines) (hname : name ∈ line.metric?) : name = metric.fullName := by
  simp only [readLines, List.mem_append, List.mem_cons, List.mem_map, List.not_mem_nil,
    or_false] at h
  rcases h with (rfl | rfl | ⟨sample, -, rfl⟩) | rfl
  · exact (Option.some.inj hname).symm
  · exact (Option.some.inj hname).symm
  · exact (Option.some.inj hname).symm
  · cases hname

end Metric

section

variable {metrics : List Metric}

theorem filterMap_sample?_metrics :
    (metrics.flatMap Metric.readLines).filterMap ExpositionLine.sample? =
      metrics.flatMap Metric.readSamples := by
  simp only [List.filterMap_flatMap, Metric.filterMap_sample?_readLines]

theorem filterMap_helped?_metrics :
    (metrics.flatMap Metric.readLines).filterMap ExpositionLine.helped? =
      metrics.map Metric.fullName := by
  simp only [List.filterMap_flatMap, Metric.filterMap_helped?_readLines, List.map_eq_flatMap]

theorem filterMap_typed?_metrics :
    (metrics.flatMap Metric.readLines).filterMap ExpositionLine.typed? =
      metrics.map Metric.fullName := by
  simp only [List.filterMap_flatMap, Metric.filterMap_typed?_readLines, List.map_eq_flatMap]

/-- No two samples have the same series. -/
theorem nodup_series_metrics (hnames : (metrics.map Metric.fullName).Nodup)
    (hlabels : ∀ metric ∈ metrics, (metric.samples.map MetricSample.label).Nodup) :
    ((metrics.flatMap Metric.readSamples).map Prod.fst).Nodup := by
  have hseries : ∀ metric : Metric, metric.readSamples.map Prod.fst =
      (metric.samples.map MetricSample.label).map (Series.mk metric.fullName) := by
    intro metric
    rw [Metric.readSamples, List.map_map, List.map_map]
    rfl
  simp only [List.map_flatMap, hseries]
  refine List.nodup_flatMap.mpr ⟨fun metric hmetric => ?_, ?_⟩
  · exact (hlabels metric hmetric).map fun _ _ h => congrArg Series.label h
  · refine (List.pairwise_map.mp hnames).imp fun hne series hfirst hsecond => hne ?_
    obtain ⟨_, -, rfl⟩ := List.mem_map.mp hfirst
    obtain ⟨_, -, hsame⟩ := List.mem_map.mp hsecond
    exact (congrArg Series.name hsame).symm

theorem comments_before_samples {before after : List ExpositionLine} {series : Series}
    {value : ReadNumber}
    (h : metrics.flatMap Metric.readLines = before ++ .sample series value :: after) :
    series.name ∈ before.filterMap ExpositionLine.helped? ∧
      series.name ∈ before.filterMap ExpositionLine.typed? := by
  -- The sample is one of the first metric, or stands behind all lines of this metric.
  induction metrics generalizing before with
  | nil => exact absurd h (by simp)
  | cons metric metrics ih =>
      rw [List.flatMap_cons, List.append_eq_append_iff] at h
      rcases h with ⟨more, rfl, hmore⟩ | ⟨more, hblock, hmore⟩
      · have hrest := ih hmore
        rw [List.filterMap_append, List.filterMap_append]
        exact ⟨List.mem_append_right _ hrest.1, List.mem_append_right _ hrest.2⟩
      · cases more with
        | nil => exact absurd (@ih [] hmore.symm).1 List.not_mem_nil
        | cons line more =>
            obtain ⟨rfl, -⟩ := List.cons.inj hmore
            exact metric.comments_before_sample hblock

theorem introduces_metrics (hnames : (metrics.map Metric.fullName).Nodup) {metric : Metric}
    (hmetric : metric ∈ metrics) :
    ExpositionLine.Introduces (metrics.flatMap Metric.readLines) metric.fullName where
  helped_once := by
    rw [filterMap_helped?_metrics]
    exact List.count_eq_one_of_mem hnames (List.mem_map_of_mem hmetric)
  typed_once := by
    rw [filterMap_typed?_metrics]
    exact List.count_eq_one_of_mem hnames (List.mem_map_of_mem hmetric)
  before_samples h hname := hname ▸ comments_before_samples h

end

end VideoGate
