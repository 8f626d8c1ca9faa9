import Mathlib.Tactic.IntervalCases
import VideoGate.Export.Format
import VideoGate.Proofs.Json.Layout
import VideoGate.Proofs.Stats.NamedCounts

/-!
# A snapshot is read back

What is exported as JSON is read back as the same snapshot, in either layout and whatever the
timestamp and the names are.  Each record is taken field by field in the order in which its fields
are written, and counts by name come in ascending order, so each of them is put behind the ones
before it.  Only a ratio may be lost: it is written by its shortest digits and read by a division
that is off by very little, and whether this finds the same float depends on the float.
-/

namespace VideoGate

open Json

variable (layout : Layout) (level : Nat)

/-! ## Numbers -/

/-- The float is read unchanged from what is written for it. -/
def ReadsBack (x : Float) : Prop := readFloat (writeFloat x) = .ok (x, [])

instance (x : Float) : Decidable (ReadsBack x) :=
  match h : readFloat (writeFloat x) with
  | .error _ => .isFalse (by rw [ReadsBack, h]; nofun)
  | .ok result => decidable_of_iff (result = (x, [])) (by rw [ReadsBack, h, Except.ok.injEq])

theorem ReadsBack.takes {x : Float} (h : ReadsBack x) :
    Takes readFloat (layout.write level (.float x)) x := by
  rw [Layout.write_float]
  exact takes_readFloat h

theorem takes_word32Value (n : UInt32) :
    Takes readWord32 (layout.write level (word32Value n)) n := by
  rw [word32Value, Layout.write_natural]
  exact takes_readWord32 n

theorem takes_word64Value (n : UInt64) :
    Takes readWord64 (layout.write level (word64Value n)) n := by
  rw [word64Value, Layout.write_natural]
  exact takes_readWord64 n

theorem takes_stringValue (text : String) :
    Takes readString (layout.write level (.string text)) text := by
  rw [Layout.write_string]
  exact takes_readString text

theorem itemsReadBack_word32Value : ItemsReadBack layout level readWord32 word32Value := by
  intro n
  obtain ⟨c, digits, hcons, hdigit⟩ := Numeral.render_eq_cons n.toNat
  have hend : c ≠ ']' := fun hc => absurd (hc ▸ hdigit) (by decide)
  refine ⟨c, digits, ?_, isBlank_eq_false_of_isDigit hdigit, hend, hcons ▸ takes_readWord32 n⟩
  rw [word32Value, Layout.write_natural, hcons]

/-! ## Counts by name -/

namespace NamedCounts

/-- A name that comes behind all the others is put at the end. -/
theorem insertEntry_of_forall_lt {name : String} {entries : List (String × UInt64)}
    (h : ∀ entry ∈ entries, entry.1 < name) (count : UInt64) :
    insertEntry name count entries = entries ++ [(name, count)] := by
  induction entries with
  | nil => rfl
  | cons entry entries ih =>
      obtain ⟨hentry, hentries⟩ := List.forall_mem_cons.mp h
      have hne : name ≠ entry.1 := fun heq => String.lt_irrefl name (heq ▸ hentry)
      rw [insertEntry, if_neg (String.lt_asymm hentry), if_neg hne, ih hentries, List.cons_append]

theorem takes_member (counts : NamedCounts) (name : String) (count : UInt64) :
    Takes (read.member counts name) (layout.behindKey level (word64Value count))
      (counts.insert name count) := by
  have hcount := (takes_word64Value layout level count).behind_blanks layout.allBlank_colonGap
  refine (hcount.map (counts.insert name)).behind_colon fun hcolon => ?_
  rw [read.member, hcolon]

/-- Counts that come behind the ones read so far are read onto them. -/
theorem entriesTake {before after : List (String × UInt64)}
    (hbefore : before.Pairwise fun a b => a.1 < b.1)
    (hall : (before ++ after).Pairwise fun a b => a.1 < b.1) :
    EntriesTake layout level read.member ⟨before, hbefore⟩
      (after.map fun entry => (entry.1, word64Value entry.2)) ⟨before ++ after, hall⟩ := by
  -- What has been read stays in order, so the next name is behind all of it.
  induction after generalizing before with
  | nil => simpa only [List.append_nil, List.map_nil] using EntriesTake.nil
  | cons entry after ih =>
      have hassoc : before ++ entry :: after = (before ++ [entry]) ++ after := by simp
      have hnext : (before ++ [entry]).Pairwise fun a b => a.1 < b.1 :=
        (List.pairwise_append.mp (hassoc ▸ hall)).1
      have hlast : ∀ other ∈ before, other.1 < entry.1 := fun other hother =>
        (List.pairwise_append.mp hnext).2.2 other hother entry (List.mem_singleton.mpr rfl)
      have hinsert : (⟨before, hbefore⟩ : NamedCounts).insert entry.1 entry.2 =
          ⟨before ++ [entry], hnext⟩ := by
        rw [insert, mk.injEq]
        exact insertEntry_of_forall_lt hlast entry.2
      have hvalue := takes_member layout level ⟨before, hbefore⟩ entry.1 entry.2
      rw [hinsert] at hvalue
      simpa only [hassoc, List.map_cons] using EntriesTake.cons hvalue (ih hnext (hassoc ▸ hall))

theorem takes_toValue (counts : NamedCounts) :
    Takes read (layout.write level counts.toValue) counts := by
  obtain ⟨text, hwrite, htake⟩ :=
    (entriesTake layout (level + 1) .nil counts.sorted).membersTake
  have hskips : SkipsBlanks read := fun text => by simp only [read, skipBlanks_skipBlanks]
  rw [toValue, hwrite]
  refine hskips.takes fun rest _ => ?_
  rw [List.cons_append, read, skipBlanks_of_head (by decide)]
  exact htake.readMembers_eq (by rw [List.length_append]; omega) rest

end NamedCounts

/-! ## Records -/

theorem DispatchCounts.mk_get (counts : DispatchCounts) :
    ⟨#v[counts.get .admitted, counts.get .stage1, counts.get .stage2, counts.get .bridged,
      counts.get .outputRedirects]⟩ = counts := by
  refine congrArg DispatchCounts.mk (Vector.ext fun i hi => ?_)
  change i < 5 at hi
  interval_cases i <;> rfl

theorem DispatchCounts.takes_toValue (counts : DispatchCounts) :
    Takes reader.read (layout.write level counts.toValue) counts := by
  have hword := takes_word64Value layout (level + 1)
  apply RecordReader.takes_object
  · apply EntriesTake.cons (RecordReader.takes_field rfl rfl (hword _))
    apply EntriesTake.cons (RecordReader.takes_field rfl rfl (hword _))
    apply EntriesTake.cons (RecordReader.takes_field rfl rfl (hword _))
    apply EntriesTake.cons (RecordReader.takes_field rfl rfl (hword _))
    apply EntriesTake.cons (RecordReader.takes_field rfl rfl (hword _))
    exact .nil
  · exact congrArg Except.ok counts.mk_get

theorem Position.takes_toValue (position : Position) :
    Takes reader.read (layout.write level position.toValue) position := by
  have hword := takes_word32Value layout (level + 1)
  apply RecordReader.takes_object
  · apply EntriesTake.cons (RecordReader.takes_field rfl rfl (hword _))
    apply EntriesTake.cons (RecordReader.takes_field rfl rfl (hword _))
    exact .nil
  · rfl

theorem CameraSummary.takes_toValue (summary : CameraSummary) :
    Takes reader.read (layout.write level summary.toValue) summary := by
  have hword := takes_word32Value layout (level + 1)
  have hlist := (itemsReadBack_word32Value layout (level + 2)).takes_list summary.unfiltered
  apply RecordReader.takes_object
  · apply EntriesTake.cons (RecordReader.takes_field rfl rfl hlist)
    apply EntriesTake.cons (RecordReader.takes_field rfl rfl (hword _))
    exact .nil
  · rfl

theorem VisitSummary.takes_toValue (summary : VisitSummary) :
    Takes reader.read (layout.write level summary.toValue) summary := by
  have hword := takes_word32Value layout (level + 1)
  apply RecordReader.takes_object
  · apply EntriesTake.cons (RecordReader.takes_field rfl rfl (hword _))
    apply EntriesTake.cons (RecordReader.takes_field rfl rfl (hword _))
    exact .nil
  · rfl

namespace Snapshot

theorem takes_toValue {snapshot : Snapshot Float} (hratio : ReadsBack snapshot.dropRatio)
    (hpeak : ReadsBack snapshot.peakDropRatio) :
    Takes reader.read (layout.write level snapshot.toValue) snapshot := by
  have htext := takes_stringValue layout (level + 1) snapshot.timestamp
  have hword := takes_word64Value layout (level + 1)
  have hcounts := NamedCounts.takes_toValue layout (level + 1)
  have hdispatcher := snapshot.dispatcher.takes_toValue layout (level + 1)
  have hposition := snapshot.position.takes_toValue layout (level + 1)
  have hcameras := snapshot.cameras.takes_toValue layout (level + 1)
  have hvisits := snapshot.visits.takes_toValue layout (level + 1)
  apply RecordReader.takes_object
  -- One step for each field, in the order in which the fields are written.
  · apply EntriesTake.cons (RecordReader.takes_field rfl rfl htext)
    apply EntriesTake.cons (RecordReader.takes_field rfl rfl (hword _))
    apply EntriesTake.cons (RecordReader.takes_field rfl rfl (hword _))
    apply EntriesTake.cons (RecordReader.takes_field rfl rfl hdispatcher)
    apply EntriesTake.cons (RecordReader.takes_field rfl rfl (hcounts _))
    apply EntriesTake.cons (RecordReader.takes_field rfl rfl (hcounts _))
    apply EntriesTake.cons (RecordReader.takes_field rfl rfl (hratio.takes layout _))
    apply EntriesTake.cons (RecordReader.takes_field rfl rfl (hpeak.takes layout _))
    apply EntriesTake.cons (RecordReader.takes_field rfl rfl hposition)
    apply EntriesTake.cons (RecordReader.takes_field rfl rfl hcameras)
    apply EntriesTake.cons (RecordReader.takes_field rfl rfl hvisits)
    exact .nil
  · rfl

/-- **What is exported as JSON is read back.** -/
theorem json_round_trip :
    (∀ ratio ∈ [0.0, 0.5, 0.75, 1.0], ReadsBack ratio) ∧
      ∀ snapshot : Snapshot Float,
        ReadsBack snapshot.dropRatio → ReadsBack snapshot.peakDropRatio →
          ofJson snapshot.toValue.compactText = .ok snapshot ∧
          ∀ nanoseconds, ofJson (ExportFormat.json.render nanoseconds snapshot) = .ok snapshot := by
  refine ⟨by decide +kernel, fun snapshot hratio hpeak => ⟨?_, fun nanoseconds => ?_⟩⟩
  · exact (takes_toValue .compact 0 hratio hpeak).readText_eq
  · exact (takes_toValue .lines 0 hratio hpeak).readText_eq

/-- A snapshot with texts that have to be escaped, and with the largest counts there are. -/
def escaped : Snapshot Float where
  timestamp := "\"12:00\\\n\t\x00\x1f\x7f é"
  durationSeconds := Counter.limit
  samples := 2
  dispatcher := ⟨.replicate _ Counter.limit⟩
  video := .ofList [("\"dropped\"", Counter.limit), ("", 0), ("\\", 1)]
  videoTotals := .empty
  dropRatio := 0.5
  peakDropRatio := 0.75
  position := { x := 0, y := 0xFFFFFFFF }
  cameras := { unfiltered := [7, 0, 0xFFFFFFFF], filtering := 0 }
  visits := { stage1 := 1, stage2 := 2 }

theorem json_round_trip_escaped :
    ReadsBack escaped.dropRatio ∧ ReadsBack escaped.peakDropRatio ∧
      ofJson escaped.toValue.compactText = .ok escaped ∧
      ofJson (ExportFormat.json.render 0 escaped) = .ok escaped := by
  have hratio : ReadsBack escaped.dropRatio := by decide +kernel
  have hpeak : ReadsBack escaped.peakDropRatio := by decide +kernel
  obtain ⟨hcompact, hlines⟩ := json_round_trip.2 escaped hratio hpeak
  exact ⟨hratio, hpeak, hcompact, hlines 0⟩

end Snapshot

end VideoGate
