import Mathlib.Data.List.TakeWhile
import VideoGate.Command.Request

/-!
# Options with a bad value

The value of an option is read at the latest when the next option begins or the arguments end.  So
arguments that give an option a value that cannot be read are faulty, wherever it stands among them
(`readOptions_faulty`).  The fault may be another one in front of it; help is all there is if it is
asked for (`noHelp_readOptions`).
-/

namespace VideoGate.Command

/-- Reading comes to a fault. -/
def Faulty {α : Type} (outcome : Except UsageFault α) : Prop := ∃ fault, outcome = .error fault

theorem faulty_error {α : Type} (fault : UsageFault) :
    Faulty (.error fault : Except UsageFault α) := ⟨fault, rfl⟩

theorem faulty_bind {α β : Type} {outcome : Except UsageFault α} {next : α → Except UsageFault β}
    (h : ∀ value, outcome = .ok value → Faulty (next value)) : Faulty (outcome >>= next) := by
  cases outcome with
  | error fault => exact faulty_error fault
  | ok value => exact h value rfl

theorem Faulty.bind {α β : Type} {outcome : Except UsageFault α} (h : Faulty outcome)
    (next : α → Except UsageFault β) : Faulty (outcome >>= next) := by
  obtain ⟨fault, rfl⟩ := h
  exact faulty_error fault

variable {options : List OptionSpec} {commands : List String} {reading : Reading}
  {option : OptionSpec} {kind : ValueKind} {argument name text : String}
  {before after : List String}

/-! ## Shapes -/

theorem splitEquals_of_not_mem (h : '=' ∉ name.toList) :
    splitEquals name.toList = .long name none := by
  have hdrop : name.toList.dropWhile (· != '=') = [] := by
    rw [List.dropWhile_eq_nil_iff]
    intro c hc
    rw [bne_iff_ne]
    rintro rfl
    exact h hc
  unfold splitEquals
  rw [hdrop, String.ofList_toList]

theorem splitEquals_append (h : '=' ∉ name.toList) :
    splitEquals (name.toList ++ '=' :: text.toList) = .long name (some text) := by
  have hname : ∀ c ∈ name.toList, (c != '=') = true := by
    intro c hc
    rw [bne_iff_ne]
    rintro rfl
    exact h hc
  unfold splitEquals
  rw [List.dropWhile_append_of_pos hname, List.takeWhile_append_of_pos hname]
  simp

theorem shape_long (hname : name ≠ "") (hequals : '=' ∉ name.toList) :
    Shape.of ("--" ++ name) = .long name none := by
  have hlist : name.toList ≠ [] := fun h => hname (String.toList_eq_nil_iff.mp h)
  obtain ⟨c, rest, hrest⟩ := List.exists_cons_of_ne_nil hlist
  have htext : ("--" ++ name).toList = '-' :: '-' :: name.toList := by simp
  rw [← splitEquals_of_not_mem hequals]
  unfold Shape.of
  rw [htext, hrest]
  rfl

theorem shape_long_attached (hequals : '=' ∉ name.toList) :
    Shape.of ("--" ++ name ++ "=" ++ text) = .long name (some text) := by
  have htext : ("--" ++ name ++ "=" ++ text).toList =
      '-' :: '-' :: (name.toList ++ '=' :: text.toList) := by simp
  obtain ⟨c, rest, hrest⟩ : ∃ c rest, name.toList ++ '=' :: text.toList = c :: rest :=
    List.exists_cons_of_ne_nil (by simp)
  rw [← splitEquals_append hequals]
  unfold Shape.of
  rw [htext, hrest]
  rfl

/-- A dash alone is no option. -/
theorem ne_nil_of_shape_short {names : List Char} (h : Shape.of argument = .short names) :
    names ≠ [] := by
  unfold Shape.of at h
  split at h
  case h_1 => cases h
  case h_2 =>
    unfold splitEquals at h
    split at h <;> cases h
  case h_3 =>
    cases h
    exact List.cons_ne_nil _ _
  case h_4 => cases h

/-! ## Reading to the end -/

/-- Reads all arguments, in which no command may be named. -/
def readAll (options : List OptionSpec) (arguments : List String) (reading : Reading) :
    Except UsageFault Given := do
  let (reading, _) ← readArguments options [] arguments reading
  reading.finish

theorem readAll_cons (argument : String) (arguments : List String) (reading : Reading) :
    readAll options (argument :: arguments) reading =
      match Shape.of argument with
      | .separator =>
        match arguments with
        | [] => reading.finish
        | stray :: _ => .error (strayArgument [] true stray)
      | .long name attached => reading.takeLong options name attached >>= readAll options arguments
      | .short names => Reading.takeShort options names reading >>= readAll options arguments
      | .plain =>
        match reading.awaitsValue, reading.pending with
        | true, some (option, kind, _) =>
          readAll options arguments
            { reading with pending := some (option, kind, some argument), awaitsValue := false }
        | _, _ => .error (strayArgument [] false argument) := by
  unfold readAll
  rw [readArguments.eq_def]
  dsimp only
  rw [if_neg fun h => absurd h.2 List.not_mem_nil]
  cases Shape.of argument with
  | separator => cases arguments <;> rfl
  | long | short => exact bind_assoc ..
  | plain =>
      obtain ⟨given, pending, awaits⟩ := reading
      cases awaits <;> rcases pending with _ | ⟨option, kind, text⟩ <;> rfl

theorem readOptions_eq_readAll (options : List OptionSpec) (arguments : List String) :
    readOptions options arguments = readAll (options ++ commonOptions) arguments {} >>= fun given =>
      match given.lacking options with
      | [] => return given
      | lacking => throw (.missing lacking) := by
  unfold readAll
  rw [bind_assoc]
  rfl

/-- What is faulty from any reading on stays so behind other arguments. -/
theorem readAll_append_faulty (hafter : after ≠ [])
    (h : ∀ reading, Faulty (readAll options after reading)) (before : List String)
    (reading : Reading) : Faulty (readAll options (before ++ after) reading) := by
  induction before generalizing reading with
  | nil => exact h reading
  | cons argument before ih =>
      rw [List.cons_append, readAll_cons]
      split
      case h_1 =>
        obtain ⟨stray, rest, hrest⟩ := List.exists_cons_of_ne_nil
          (List.append_ne_nil_of_right_ne_nil before hafter)
        rw [hrest]
        exact faulty_error _
      case h_2 => exact faulty_bind fun reading _ => ih reading
      case h_3 => exact faulty_bind fun reading _ => ih reading
      case h_4 =>
        split
        · exact ih _
        · exact faulty_error _

/-! ## Options -/

namespace Reading

theorem takeOption_faulty (h : Faulty reading.settle) (option : OptionSpec) (kind : ValueKind)
    (attached : Option String) : Faulty (reading.takeOption option kind attached) :=
  h.bind _

theorem takeFlag_faulty (h : Faulty reading.settle) (option : OptionSpec) :
    Faulty (reading.takeFlag option) :=
  h.bind _

theorem takeLong_faulty (h : Faulty reading.settle) (options : List OptionSpec) (name : String)
    (attached : Option String) : Faulty (reading.takeLong options name attached) := by
  unfold takeLong
  split
  · exact faulty_error _
  · split
    · exact takeOption_faulty h ..
    · exact faulty_error _
    · exact takeFlag_faulty h _
    · exact h.bind _

theorem takeShort_faulty (h : Faulty reading.settle) (options : List OptionSpec) (c : Char)
    (rest : List Char) : Faulty (takeShort options (c :: rest) reading) := by
  unfold takeShort
  split
  · exact faulty_error _
  · split
    · exact (takeFlag_faulty h _).bind _
    · exact h.bind _
    · split <;> exact takeOption_faulty h ..

theorem give_faulty {value : Except UsageFault OptionValue} (h : Faulty value)
    (reading : Reading) (option : OptionSpec) : Faulty (reading.give option value) := by
  unfold give
  split
  · exact faulty_error _
  · exact h.bind _

end Reading

/-- A pending value that cannot be read is found out, unless the next argument takes its place. -/
theorem readAll_faulty_of_settle (h : Faulty reading.settle) {arguments : List String}
    (hnext : reading.awaitsValue = true → ∀ next ∈ arguments.head?, Shape.of next ≠ .plain) :
    Faulty (readAll options arguments reading) := by
  have hfinish : Faulty reading.finish := by
    obtain ⟨fault, hfault⟩ := h
    refine ⟨fault, ?_⟩
    unfold Reading.finish
    rw [hfault]
    rfl
  cases arguments with
  | nil => exact hfinish
  | cons argument arguments =>
      rw [readAll_cons]
      split
      case h_1 =>
        cases arguments with
        | nil => exact hfinish
        | cons => exact faulty_error _
      case h_2 => exact (Reading.takeLong_faulty h ..).bind _
      case h_3 names hshape =>
        obtain ⟨c, rest, rfl⟩ := List.exists_cons_of_ne_nil (ne_nil_of_shape_short hshape)
        exact (Reading.takeShort_faulty h ..).bind _
      case h_4 hplain =>
        have hwaits : reading.awaitsValue = false := by
          rw [Bool.eq_false_iff]
          exact fun hwaits => hnext hwaits argument rfl hplain
        rw [hwaits]
        exact faulty_error _

section

variable (hoption : options.find? (·.long == name) = some option)
  (hkind : option.kind = .value kind) (hvalue : Faulty (option.read kind text))
include hoption hkind hvalue

/-- A bad value that is attached to its option. -/
theorem readAll_attached_faulty (hequals : '=' ∉ name.toList) (rest : List String)
    (reading : Reading) :
    Faulty (readAll options (("--" ++ name ++ "=" ++ text) :: rest) reading) := by
  rw [readAll_cons, shape_long_attached hequals]
  refine Faulty.bind ?_ _
  unfold Reading.takeLong
  rw [hoption]
  dsimp only
  rw [hkind]
  exact faulty_bind fun reading _ => Reading.give_faulty hvalue reading option

/-- A bad value that follows its option. -/
theorem readAll_following_faulty (hname : name ≠ "") (hequals : '=' ∉ name.toList)
    (rest : List String) (reading : Reading) :
    Faulty (readAll options (("--" ++ name) :: text :: rest) reading) := by
  rw [readAll_cons, shape_long hname hequals]
  refine faulty_bind fun next hnext => ?_
  obtain ⟨settled, hsettled⟩ : ∃ settled : Reading,
      next = { settled with pending := some (option, kind, none), awaitsValue := true } := by
    unfold Reading.takeLong Reading.takeOption at hnext
    rw [hoption] at hnext
    dsimp only at hnext
    rw [hkind] at hnext
    dsimp only at hnext
    cases hsettle : reading.settle with
    | error fault =>
        rw [hsettle] at hnext
        cases hnext
    | ok settled =>
        rw [hsettle] at hnext
        exact ⟨settled, (Except.ok.inj hnext).symm⟩
  subst hsettled
  -- A text that looks like an option is no value, and then the value is missing.
  by_cases hplain : Shape.of text = .plain
  case neg =>
    refine readAll_faulty_of_settle ?_ fun _ next hnext => ?_
    · exact faulty_error (.missingValue option)
    · rw [← Option.some.inj hnext]
      exact hplain
  case pos =>
    rw [readAll_cons, hplain]
    refine readAll_faulty_of_settle ?_ nofun
    exact Reading.give_faulty hvalue { settled with pending := none, awaitsValue := false } option

/-- **A bad value** that an option is given is found out wherever it stands. -/
theorem readOptions_faulty {own : List OptionSpec} {arguments : List String}
    (hown : options = own ++ commonOptions) (hname : name ≠ "") (hequals : '=' ∉ name.toList)
    (hgiven : "--" ++ name ++ "=" ++ text ∈ arguments ∨ ["--" ++ name, text] <:+: arguments) :
    Faulty (readOptions own arguments) := by
  have hall : Faulty (readAll options arguments {}) := by
    rcases hgiven with hmem | ⟨before, rest, rfl⟩
    · obtain ⟨before, rest, rfl⟩ := List.append_of_mem hmem
      refine readAll_append_faulty (List.cons_ne_nil _ _) (fun reading => ?_) before {}
      exact readAll_attached_faulty hoption hkind hvalue hequals rest reading
    · rw [List.append_assoc]
      refine readAll_append_faulty (List.cons_ne_nil _ _) (fun reading => ?_) before {}
      exact readAll_following_faulty hoption hkind hvalue hname hequals rest reading
  rw [readOptions_eq_readAll, ← hown]
  exact hall.bind _

end

/-! ## Help -/

/-- Does an argument ask for help? -/
def asksForHelp (options : List OptionSpec) (argument : String) : Bool :=
  match Shape.of argument with
  | .long name none => (options.find? (·.long == name)).any (·.kind == .help)
  | .short names => names.any fun c => (options.find? (·.short == some c)).any (·.kind == .help)
  | _ => false

/-- Reading does not come to help. -/
structure NoHelp {α : Type} (outcome : Except UsageFault α) : Prop where
  ne_help : outcome ≠ .error .help

theorem noHelp_ok {α : Type} (value : α) : NoHelp (.ok value) := ⟨nofun⟩

theorem noHelp_error {α : Type} {fault : UsageFault} (h : fault ≠ .help) :
    NoHelp (.error fault : Except UsageFault α) := ⟨fun hhelp => h (Except.error.inj hhelp)⟩

theorem NoHelp.bind {α β : Type} {outcome : Except UsageFault α}
    {next : α → Except UsageFault β} (h : NoHelp outcome) (hnext : ∀ value, NoHelp (next value)) :
    NoHelp (outcome >>= next) := by
  cases outcome with
  | ok value => exact hnext value
  | error fault =>
      refine noHelp_error ?_
      rintro rfl
      exact h.ne_help rfl

theorem OptionSpec.noHelp_read (option : OptionSpec) (kind : ValueKind) (text : String) :
    NoHelp (option.read kind text) := by
  unfold read
  split
  · exact noHelp_error nofun
  · split
    · exact noHelp_ok _
    · exact noHelp_error nofun

namespace Reading

theorem noHelp_give {value : Except UsageFault OptionValue} (h : NoHelp value)
    (reading : Reading) (option : OptionSpec) : NoHelp (reading.give option value) := by
  unfold give
  split
  · exact noHelp_error nofun
  · exact h.bind fun _ => noHelp_ok _

theorem noHelp_settle (reading : Reading) : NoHelp reading.settle := by
  unfold settle
  split
  · exact noHelp_ok _
  · exact noHelp_error nofun
  · exact noHelp_give (OptionSpec.noHelp_read ..) ..

theorem noHelp_finish (reading : Reading) : NoHelp reading.finish :=
  reading.noHelp_settle.bind fun _ => noHelp_ok _

theorem noHelp_takeFlag (reading : Reading) (option : OptionSpec) :
    NoHelp (reading.takeFlag option) :=
  reading.noHelp_settle.bind fun _ => noHelp_give (noHelp_ok _) ..

theorem noHelp_takeOption (reading : Reading) (option : OptionSpec) (kind : ValueKind)
    (attached : Option String) : NoHelp (reading.takeOption option kind attached) := by
  refine reading.noHelp_settle.bind fun settled => ?_
  cases attached with
  | none => exact noHelp_ok _
  | some text => exact noHelp_give (OptionSpec.noHelp_read ..) ..

theorem noHelp_takeLong {attached : Option String}
    (h : attached = none →
      ∀ option, options.find? (·.long == name) = some option → option.kind ≠ .help) :
    NoHelp (reading.takeLong options name attached) := by
  unfold takeLong
  split
  case h_1 => exact noHelp_error nofun
  case h_2 option hoption =>
    split
    case h_1 => exact noHelp_takeOption ..
    case h_2 => exact noHelp_error nofun
    case h_3 => exact noHelp_takeFlag ..
    case h_4 hkind => exact absurd hkind (h rfl option hoption)

theorem noHelp_takeShort {names : List Char}
    (h : ∀ c ∈ names, ∀ option, options.find? (·.short == some c) = some option →
      option.kind ≠ .help) : NoHelp (takeShort options names reading) := by
  induction names generalizing reading with
  | nil => exact noHelp_ok _
  | cons c rest ih =>
      rw [List.forall_mem_cons] at h
      unfold takeShort
      split
      case h_1 => exact noHelp_error nofun
      case h_2 option hoption =>
        split
        case h_1 => exact (noHelp_takeFlag ..).bind fun _ => ih h.2
        case h_2 hkind => exact absurd hkind (h.1 option hoption)
        case h_3 => split <;> exact noHelp_takeOption ..

end Reading

theorem strayArgument_ne_help (commands : List String) (isBehindSeparator : Bool)
    (argument : String) : strayArgument commands isBehindSeparator argument ≠ .help := by
  unfold strayArgument
  split <;> nofun

/-- Where no argument asks for help, reading does not come to it. -/
theorem noHelp_readAll {arguments : List String}
    (h : ∀ argument ∈ arguments, ¬ asksForHelp options argument) (reading : Reading) :
    NoHelp (readAll options arguments reading) := by
  induction arguments generalizing reading with
  | nil => exact reading.noHelp_finish
  | cons argument arguments ih =>
      rw [List.forall_mem_cons] at h
      obtain ⟨hargument, harguments⟩ := h
      unfold asksForHelp at hargument
      rw [readAll_cons]
      split
      case h_1 =>
        cases arguments with
        | nil => exact reading.noHelp_finish
        | cons stray rest => exact noHelp_error (strayArgument_ne_help [] true stray)
      case h_2 name attached hshape =>
        rw [hshape] at hargument
        refine NoHelp.bind (Reading.noHelp_takeLong ?_) (ih harguments)
        rintro rfl option hoption hkind
        simp [hoption, hkind] at hargument
      case h_3 names hshape =>
        rw [hshape] at hargument
        refine NoHelp.bind (Reading.noHelp_takeShort ?_) (ih harguments)
        intro c hc option hoption hkind
        refine hargument (List.any_eq_true.mpr ⟨c, hc, ?_⟩)
        simp [hoption, hkind]
      case h_4 =>
        split
        · exact ih harguments _
        · exact noHelp_error (strayArgument_ne_help [] false argument)

theorem noHelp_readOptions {arguments : List String}
    (h : ∀ argument ∈ arguments, ¬ asksForHelp (options ++ commonOptions) argument) :
    NoHelp (readOptions options arguments) := by
  rw [readOptions_eq_readAll]
  refine (noHelp_readAll h {}).bind fun given => ?_
  split
  · exact noHelp_ok _
  · exact noHelp_error nofun

end VideoGate.Command
