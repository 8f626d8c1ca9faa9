import VideoGate.Command.Run
import VideoGate.Proofs.Command.Reading
import VideoGate.Proofs.System.PinnedWords

/-!
# Requests that are refused

What a request is given is looked at before anything is done.  If any of it cannot be used the
request fails for one of these reasons, and until then it has only told and printed something
(`Command.refused_leaves_no_trace`).
-/

namespace VideoGate

/-- Only what has been told and printed differs. -/
def World.Untouched (before after : World) : Prop :=
  ∃ told printed, after = { before with told, printed }

theorem World.Untouched.refl (world : World) : world.Untouched world := ⟨_, _, rfl⟩

theorem World.Untouched.trans {before between after : World} (h : before.Untouched between)
    (h' : between.Untouched after) : before.Untouched after := by
  obtain ⟨_, _, rfl⟩ := h
  obtain ⟨told, printed, rfl⟩ := h'
  exact ⟨told, printed, rfl⟩

namespace Operation

/-- An operation fails for a reason, and until then only tells and prints something. -/
def Refuses {α : Type} (operation : Operation α) (world : World) (reason : Failure → Prop) :
    Prop :=
  ∃ failure after, operation.perform world = (.error failure, after) ∧ reason failure ∧
    world.Untouched after

namespace Refuses

variable {α β : Type} {operation : Operation α} {next : α → Operation β} {world middle : World}
  {reason : Failure → Prop} {failure : Failure} {value : α}

theorem fail (h : reason failure) : (fail failure : Operation α).Refuses world reason :=
  ⟨failure, world, rfl, h, .refl world⟩

theorem bind (h : operation.Refuses world reason) : (operation >>= next).Refuses world reason := by
  obtain ⟨failure, after, hperform, hreason, huntouched⟩ := h
  refine ⟨failure, after, ?_, hreason, huntouched⟩
  rw [perform_bind, hperform]

theorem bind_of_ok (hperform : operation.perform world = (.ok value, middle))
    (huntouched : world.Untouched middle) (h : (next value).Refuses middle reason) :
    (operation >>= next).Refuses world reason := by
  obtain ⟨failure, after, hnext, hreason, hafter⟩ := h
  refine ⟨failure, after, ?_, hreason, huntouched.trans hafter⟩
  rw [perform_bind_of_ok hperform, hnext]

end Refuses

end Operation

/-! ## Words -/

/-- The words for the ways to attach a program. -/
def AttachMode.words : List String := ["skb", "generic", "drv", "native", "hw", "offload"]

/-- The words for the filter modes. -/
def FilterMode.words : List String :=
  ["off", "0", "drop-p", "drop_p", "1", "forward-p", "forward_p", "2"]

/-- The words for the formats of an export. -/
def ExportFormat.words : List String := ["json", "prometheus", "prom", "influx", "influxdb"]

/-- The words for the positions of a switch. -/
def switchWords : List String := ["on", "1", "true", "yes", "off", "0", "false", "no"]

theorem AttachMode.parse_eq_error_iff {text : String} {failure : Failure} :
    AttachMode.parse text = .error failure ↔
      Text.keyword text ∉ words ∧ failure = .unsupportedAttachMode text := by
  unfold AttachMode.parse words
  grind

theorem FilterMode.parse_eq_error_iff {text : String} {failure : Failure} :
    FilterMode.parse text = .error failure ↔
      Text.keyword text ∉ words ∧ failure = .unsupportedFilterMode text := by
  unfold FilterMode.parse words
  grind

theorem ExportFormat.parse_eq_error_iff {text : String} {failure : Failure} :
    ExportFormat.parse text = .error failure ↔
      Text.keyword text ∉ words ∧ failure = .unsupportedExport text := by
  unfold ExportFormat.parse words
  grind

theorem parseSwitch?_eq_none_iff {text : String} :
    parseSwitch? text = none ↔ Text.keyword text ∉ switchWords := by
  unfold parseSwitch? switchWords
  grind

/-- An interface that cannot be resolved is no defect. -/
theorem isDefect_of_resolveInterface {directory text : String} {files : Files} {failure : Failure}
    (h : resolveInterface directory text files = .error failure) : failure.isDefect = false := by
  unfold resolveInterface resolveInterfaceThrough at h
  split at h
  case h_1 => cases h
  case h_2 =>
    change readInterfaceNumber _ _ (files.readText _) = .error failure at h
    unfold readInterfaceNumber at h
    split at h
    case h_1 =>
      cases h
      rfl
    case h_2 =>
      split at h <;> cases h
      rfl

/-! ## Requests -/

/-- The kernel is not asked about an object that is not there. -/
theorem openObject_refuses {kernel : Kernel} {registry : Registry} {object : String}
    {function : Option String} {world : World} {reason : Failure → Prop}
    (h : world.files.doesExist object = false) (hreason : reason (.objectNotFound object)) :
    (openObject kernel registry object function).Refuses world reason := by
  refine ⟨.objectNotFound object, world, ?_, hreason, .refl world⟩
  unfold openObject
  rw [Operation.perform_bind_of_ok (Operation.perform_files world), h]
  rfl

namespace Command

/-- Something that a request is given cannot be used, and the failure says what. -/
inductive Refusal (files : Files) : Request → Failure → Prop
  | attachMode {interface object mode : String} {follows : Bool} {seconds : UInt64}
      (h : Text.keyword mode ∉ AttachMode.words) :
      Refusal files (.load interface object mode follows seconds) (.unsupportedAttachMode mode)
  | dispatcher {interface object mode : String} {follows : Bool} {seconds : UInt64}
      (h : files.doesExist object = false) :
      Refusal files (.load interface object mode follows seconds) (.objectNotFound object)
  | slot {object slot : String} {program : UInt32} {pin : Option String}
      (h : slot ∉ ["stage1", "stage2"]) :
      Refusal files (.attach object program slot pin) (.unsupportedSlot slot)
  | extension {object slot : String} {program : UInt32} {pin : Option String}
      (h : files.doesExist object = false) :
      Refusal files (.attach object program slot pin) (.objectNotFound object)
  | peer {stage1 stage2 bridge : Option Bool} {output mode : Option String} {text : String}
      {failure : Failure} (h : resolveInterface interfaceDirectory text files = .error failure) :
      Refusal files (.configure stage1 stage2 bridge (some text) output mode) failure
  | output {stage1 stage2 bridge : Option Bool} {peer mode : Option String} {text : String}
      {failure : Failure} (h : resolveInterface interfaceDirectory text files = .error failure) :
      Refusal files (.configure stage1 stage2 bridge peer (some text) mode) failure
  | filterMode {stage1 stage2 bridge : Option Bool} {peer output : Option String} {text : String}
      (h : Text.keyword text ∉ FilterMode.words) :
      Refusal files (.configure stage1 stage2 bridge peer output (some text))
        (.unsupportedFilterMode text)
  | format {seconds interval : UInt64} {output format : String}
      (h : Text.keyword format ∉ ExportFormat.words) :
      Refusal files (.stats seconds output format interval) (.unsupportedExport format)
  | interval {seconds : UInt64} {output format : String} :
      Refusal files (.stats seconds output format 0) .noInterval

variable {kernel : Kernel} {registry : Registry} {world : World}
  {interface object mode slot output format : String} {program : UInt32} {pin : Option String}
  {failure : Failure}

theorem Refusal.isDefect {files : Files} {request : Request} (h : Refusal files request failure) :
    failure.isDefect = false := by
  cases h with
  | peer h | output h => exact isDefect_of_resolveInterface h
  | _ => rfl

theorem runLoad_refuses {follows : Bool} {seconds : UInt64}
    (h : Refusal world.files (.load interface object mode follows seconds) failure) :
    (runLoad kernel registry interface object mode follows seconds).Refuses world
      (Refusal world.files (.load interface object mode follows seconds)) := by
  obtain ⟨printed, hbanner⟩ : ∃ printed,
      printBanner.perform world = (.ok (), { world with printed }) := ⟨_, rfl⟩
  refine .bind_of_ok hbanner ⟨_, _, rfl⟩ ?_
  cases hmode : AttachMode.parse mode with
  | error reason =>
      obtain ⟨hword, rfl⟩ := AttachMode.parse_eq_error_iff.mp hmode
      exact .bind (.fail (.attachMode hword))
  | ok attachMode =>
      have hobject : world.files.doesExist object = false := by
        cases h with
        | attachMode hword =>
            rw [AttachMode.parse_eq_error_iff.mpr ⟨hword, rfl⟩] at hmode
            cases hmode
        | dispatcher h => exact h
      refine .bind_of_ok rfl (.refl _) (.bind ?_)
      refine .bind_of_ok (Operation.perform_log ..) ⟨_, _, rfl⟩ ?_
      exact .bind (openObject_refuses hobject (.dispatcher hobject))

theorem runAttach_refuses (h : Refusal world.files (.attach object program slot pin) failure) :
    (runAttach kernel registry object program slot pin).Refuses world
      (Refusal world.files (.attach object program slot pin)) := by
  unfold runAttach
  by_cases hslot : slot ∈ slots
  case neg =>
    rw [if_neg hslot]
    exact .bind (.fail (.slot hslot))
  case pos =>
    have hobject : world.files.doesExist object = false := by
      cases h with
      | slot h => exact absurd hslot h
      | extension h => exact h
    rw [if_pos hslot]
    refine .bind (.bind ?_)
    refine .bind_of_ok (Operation.perform_log ..) ⟨_, _, rfl⟩ ?_
    exact .bind (openObject_refuses hobject (.extension hobject))

theorem runStats_refuses {verbose : Bool} {seconds interval : UInt64}
    (h : Refusal world.files (.stats seconds output format interval) failure) :
    (runStats registry verbose seconds output format interval).Refuses world
      (Refusal world.files (.stats seconds output format interval)) := by
  obtain ⟨printed, hbanner⟩ : ∃ printed,
      printBanner.perform world = (.ok (), { world with printed }) := ⟨_, rfl⟩
  refine .bind_of_ok hbanner ⟨_, _, rfl⟩ ?_
  cases hformat : ExportFormat.parse format with
  | error reason =>
      obtain ⟨hword, rfl⟩ := ExportFormat.parse_eq_error_iff.mp hformat
      exact .bind (.fail (.format hword))
  | ok exportFormat =>
      have hinterval : interval = 0 := by
        cases h with
        | format hword =>
            rw [ExportFormat.parse_eq_error_iff.mpr ⟨hword, rfl⟩] at hformat
            cases hformat
        | interval => rfl
      subst hinterval
      exact .bind_of_ok rfl (.refl _) (.bind (.fail .interval))

/-- A value that is given and cannot be read is refused, and then nothing else is looked at. -/
theorem resolve_cases {α : Type} (read : String → Except Failure α) (text : Option String)
    (world : World) :
    (∃ value, (resolve read text).perform world = (.ok value, world) ∧
        ∀ given ∈ text, ∃ result, read given = .ok result) ∨
      ∃ given failure, text = some given ∧ read given = .error failure ∧
        (resolve read text).perform world = (.error failure, world) := by
  cases text with
  | none => exact .inl ⟨none, rfl, nofun⟩
  | some given =>
      cases hread : read given with
      | error failure =>
          refine .inr ⟨given, failure, rfl, hread, ?_⟩
          dsimp only [resolve]
          rw [hread]
          rfl
      | ok result =>
          refine .inl ⟨some result, ?_, fun other hother => ?_⟩
          · dsimp only [resolve]
            rw [hread]
            rfl
          · rw [← Option.some.inj hother]
            exact ⟨result, hread⟩

theorem runConfigure_refuses {stage1 stage2 bridge : Option Bool} {peer output mode : Option String}
    (h : Refusal world.files (.configure stage1 stage2 bridge peer output mode) failure) :
    (runConfigure registry stage1 stage2 bridge peer output mode).Refuses world
      (Refusal world.files (.configure stage1 stage2 bridge peer output mode)) := by
  have hrefuses : ∀ {α : Type} {operation : Operation α} {reason : Failure},
      operation.perform world = (.error reason, world) →
      Refusal world.files (.configure stage1 stage2 bridge peer output mode) reason →
      operation.Refuses world
        (Refusal world.files (.configure stage1 stage2 bridge peer output mode)) :=
    fun hperform hreason => ⟨_, _, hperform, hreason, .refl world⟩
  refine .bind_of_ok (Operation.perform_files world) (.refl _) ?_
  rcases resolve_cases (resolveInterface interfaceDirectory · world.files) peer world with
    ⟨value, hpeer, hpeers⟩ | ⟨text, reason, rfl, htext, hpeer⟩
  case inr => exact .bind (hrefuses hpeer (.peer htext))
  refine .bind_of_ok hpeer (.refl _) ?_
  rcases resolve_cases (resolveInterface interfaceDirectory · world.files) output world with
    ⟨value, houtput, houtputs⟩ | ⟨text, reason, rfl, htext, houtput⟩
  case inr => exact .bind (hrefuses houtput (.output htext))
  refine .bind_of_ok houtput (.refl _) ?_
  rcases resolve_cases FilterMode.parse mode world with
    ⟨value, hmode, hmodes⟩ | ⟨text, reason, rfl, htext, hmode⟩
  case inr =>
    obtain ⟨hword, rfl⟩ := FilterMode.parse_eq_error_iff.mp htext
    exact .bind (hrefuses hmode (.filterMode hword))
  -- All three could be resolved, so there was nothing to refuse.
  cases h with
  | peer h =>
      obtain ⟨result, hresult⟩ := hpeers _ rfl
      cases h.symm.trans hresult
  | output h =>
      obtain ⟨result, hresult⟩ := houtputs _ rfl
      cases h.symm.trans hresult
  | filterMode h =>
      obtain ⟨result, hresult⟩ := hmodes _ rfl
      cases (FilterMode.parse_eq_error_iff.mpr ⟨h, rfl⟩).symm.trans hresult

variable (kernel) in
theorem Invocation.run_refuses {invocation : Invocation}
    (h : Refusal world.files invocation.request failure) :
    (invocation.run kernel).Refuses world (Refusal world.files invocation.request) := by
  obtain ⟨registry, verbose, request⟩ := invocation
  cases request with
  | load => exact runLoad_refuses h
  | attach => exact runAttach_refuses h
  | configure => exact runConfigure_refuses h
  | stats => exact runStats_refuses h
  | robot | unload => cases h

/-! ## Bad switches -/

/-- The options of the command that configures. -/
def configOptions : List OptionSpec := (commandTable.lookup "config").getD []

/-- A switch is given a text that is no position of a switch. -/
def GivesBadSwitch (own : List String) : Prop :=
  ∃ name ∈ ["stage1", "stage2", "bridge"], ∃ text, Text.keyword text ∉ switchWords ∧
    ("--" ++ name ++ "=" ++ text ∈ own ∨ ["--" ++ name, text] <:+: own)

theorem GivesBadSwitch.faulty {own : List String} (h : GivesBadSwitch own) :
    Faulty (readOptions configOptions own) := by
  obtain ⟨name, hname, text, hword, hgiven⟩ := h
  have hoption : ∀ name ∈ ["stage1", "stage2", "bridge"],
      (configOptions ++ commonOptions).find? (·.long == name) =
          some { long := name, kind := .value .switch } ∧
        name ≠ "" ∧ '=' ∉ name.toList := by decide +kernel
  obtain ⟨hoption, hempty, hequals⟩ := hoption name hname
  have hvalue : ∀ option : OptionSpec, Faulty (option.read .switch text) := by
    intro option
    unfold OptionSpec.read ValueKind.read
    rw [if_neg nofun, parseSwitch?_eq_none_iff.mpr hword]
    exact faulty_error _
  exact readOptions_faulty hoption rfl (hvalue _) rfl hempty hequals hgiven

/-- A command line that cannot be read is refused, and nothing is done. -/
theorem run_of_fault {arguments : List String} {fault : UsageFault}
    (h : readInvocation arguments = .error fault) (world : World) :
    (run kernel arguments world).ending = .refused fault ∧
      world.Untouched (run kernel arguments world).world := by
  unfold run
  rw [h]
  cases fault <;> exact ⟨rfl, _, _, rfl⟩

theorem code_failed (h : failure.isDefect = false) : (Ending.failed failure).code = 1 :=
  if_neg (by simp [h])

theorem code_refused {fault : UsageFault} (h : fault ≠ .help) :
    (Ending.refused fault).code = 2 := by
  cases fault with
  | help => exact absurd rfl h
  | _ => rfl

theorem readInvocation_of_config {arguments own : List String} {reading : Reading}
    {fault : UsageFault}
    (hread : readArguments (commonOptions ++ [versionOption]) commandNames arguments {} =
      .ok (reading, some ("config", own)))
    (h : readOptions configOptions own = .error fault) :
    readInvocation arguments = .error fault := by
  unfold readInvocation
  dsimp only
  rw [hread]
  show (readOptions configOptions own >>= _) = _
  rw [h]
  rfl

/-- **Refused requests leave no trace.**  If a request is given anything that cannot be used, the
program fails for such a reason, whatever the kernel; and if a switch is given a text that is no
position of one, the command line is refused as a whole.  Nothing is done to files and maps then,
nothing is sent and nothing waited for: all that differs is what has been told and printed. -/
theorem refused_leaves_no_trace (kernel : Kernel) (arguments : List String) (world : World) :
    let outcome := run kernel arguments world
    (∀ invocation, readInvocation arguments = .ok invocation →
      ∀ reason, Refusal world.files invocation.request reason →
        ∃ failure, Refusal world.files invocation.request failure ∧
          outcome.ending = .failed failure ∧ outcome.ending.code = 1 ∧
          world.Untouched outcome.world) ∧
    (∀ fault, readInvocation arguments = .error fault →
      outcome.ending = .refused fault ∧ world.Untouched outcome.world) ∧
    ∀ reading own,
      readArguments (commonOptions ++ [versionOption]) commandNames arguments {} =
        .ok (reading, some ("config", own)) →
      GivesBadSwitch own →
        ∃ fault, readInvocation arguments = .error fault ∧
          ((∀ argument ∈ own, ¬ asksForHelp (configOptions ++ commonOptions) argument) →
            outcome.ending.code = 2) := by
  intro outcome
  refine ⟨?request, fun fault h => run_of_fault h world, ?switch⟩
  case request =>
    intro invocation hread reason hreason
    obtain ⟨failure, after, hperform, hfailure, huntouched⟩ :=
      Invocation.run_refuses kernel hreason
    have houtcome : outcome =
        { ending := .failed failure, verbose := invocation.verbose, world := after } := by
      show run kernel arguments world = _
      unfold run
      rw [hread]
      dsimp only
      rw [hperform]
    rw [houtcome]
    exact ⟨failure, hfailure, rfl, code_failed hfailure.isDefect, huntouched⟩
  case switch =>
    intro reading own hread hbad
    obtain ⟨fault, hfault⟩ := hbad.faulty
    have hinvocation := readInvocation_of_config hread hfault
    refine ⟨fault, hinvocation, fun hhelp => ?_⟩
    rw [show outcome.ending = _ from (run_of_fault hinvocation world).1]
    refine code_refused ?_
    rintro rfl
    exact (noHelp_readOptions hhelp).ne_help hfault

/-- An unknown format where the interval could not be used either, and a switch that is neither on
nor off behind a peer that could be used. -/
theorem refused_leaves_no_trace_both :
    let world : World := { files := { cwd := [], entries := [] } }
    let stats := ["stats", "--interval=0", "-f", "xml"]
    let config := ["-v", "config", "--peer", "7", "--stage1", "maybe"]
    let run := fun arguments => run .absent arguments world
    (∃ failure, (run stats).ending = .failed failure) ∧ (run stats).ending.code = 1 ∧
      world.Untouched (run stats).world ∧
      (∃ fault, (run config).ending = .refused fault) ∧ (run config).ending.code = 2 ∧
      world.Untouched (run config).world := by
  intro world stats config run
  have hstats : readInvocation stats = .ok
      { registry := .standard
        verbose := false
        request := .stats 60 "pipeline-stats.json" "xml" 0 } := by decide +kernel
  have hconfig : readArguments (commonOptions ++ [versionOption]) commandNames config {} =
      .ok ({ given := [({ long := "verbose", short := some 'v', kind := .flag }, .switch true)] },
        some ("config", ["--peer", "7", "--stage1", "maybe"])) := by decide +kernel
  have hbad : GivesBadSwitch ["--peer", "7", "--stage1", "maybe"] :=
    ⟨"stage1", by decide, "maybe", by decide +kernel, .inr ⟨["--peer", "7"], [], rfl⟩⟩
  obtain ⟨hrequest, -, -⟩ := refused_leaves_no_trace .absent stats world
  obtain ⟨-, hfault, hswitch⟩ := refused_leaves_no_trace .absent config world
  obtain ⟨failure, -, hending, hcode, huntouched⟩ := hrequest _ hstats .noInterval .interval
  obtain ⟨fault, hread, hcode'⟩ := hswitch _ _ hconfig hbad
  obtain ⟨hending', huntouched'⟩ := hfault fault hread
  exact ⟨⟨failure, hending⟩, hcode, huntouched, ⟨fault, hending'⟩, hcode' (by decide +kernel),
    huntouched'⟩

end Command

end VideoGate
