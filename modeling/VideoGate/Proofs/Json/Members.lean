import VideoGate.Proofs.Json.Scalar

/-!
# Objects, however they are written

An `ObjectText` is an object with all the freedom that the notation leaves: blanks between the
tokens, names spelled in any way, members in any order.  What is read from its members, one after
the other, is what a step for each member leads to (`toOption_read`), as long as the reader of
members makes of each member what the step does (`StepsAs`).
-/

namespace VideoGate.Json

/-! ## The notation -/

instance (text : List Char) : Decidable (AllBlank text) :=
  List.decidableBAll (isBlank · = true) text

/-- Blanks between two tokens. -/
structure Blanks where
  text : List Char
  allBlank : AllBlank text

/-- A member of an object. -/
structure MemberText where
  beforeName : Blanks
  name : List Piece
  afterName : Blanks
  beforeValue : Blanks
  value : ValueText
  afterValue : Blanks

namespace MemberText

/-- The member from behind the opening quote of its name up to the end of its value, and what
follows it. -/
def fromName (member : MemberText) (rest : List Char) : List Char :=
  Piece.spelling member.name ++ '"' :: (member.afterName.text ++ ':' ::
    (member.beforeValue.text ++ (member.value.text ++ rest)))

/-- A member with the blanks around it, and what follows it. -/
def textBefore (member : MemberText) (rest : List Char) : List Char :=
  member.beforeName.text ++ '"' :: member.fromName (member.afterValue.text ++ rest)

/-- What the name of a member means. -/
def key? (member : MemberText) : Option String := (Piece.decode? member.name).map String.ofList

/-- Members behind the first one, and the brace behind them. -/
def moreBefore (rest : List Char) : List MemberText → List Char
  | [] => '}' :: rest
  | member :: members => ',' :: member.textBefore (moreBefore rest members)

/-- The members of an object, and the brace behind them. -/
def allBefore (rest : List Char) : List MemberText → List Char
  | [] => '}' :: rest
  | member :: members => member.textBefore (moreBefore rest members)

end MemberText

/-- An object, with the blanks around it. -/
structure ObjectText where
  before : Blanks
  inside : Blanks
  members : List MemberText
  after : Blanks

/-- An object as it is written. -/
def ObjectText.text (object : ObjectText) : List Char :=
  object.before.text ++ '{' ::
    (object.inside.text ++ MemberText.allBefore object.after.text object.members)

/-! ## Reading the members -/

section

variable {α : Type} {member : α → String → Reader α} {step : α → MemberText → Option α}
  {admits : MemberText → Prop} {soFar : α} {entry : MemberText} {rest : List Char}

/-- The reader of members makes of each member that is admitted what the step does, and a member
whose name means nothing leads nowhere. -/
structure StepsAs (member : α → String → Reader α) (step : α → MemberText → Option α)
    (admits : MemberText → Prop) : Prop where
  named : ∀ (soFar : α) {entry : MemberText} {key : String} {rest : List Char},
    admits entry → entry.key? = some key → EndsNumber rest →
      (member soFar key (entry.afterName.text ++ ':' ::
        (entry.beforeValue.text ++ (entry.value.text ++ rest)))).toOption =
          (step soFar entry).map fun next => (next, rest)
  unnamed : ∀ (soFar : α) {entry : MemberText}, entry.key? = none → step soFar entry = none

theorem eq_ok_of_toOption {β : Type} {reading : Except ReadError β} {value : β}
    (h : reading.toOption = some value) : reading = .ok value := by
  cases reading with
  | error fault => cases h
  | ok result => rw [Option.some.inj h]

theorem eq_error_of_toOption {β : Type} {reading : Except ReadError β}
    (h : reading.toOption = none) : ∃ fault, reading = .error fault := by
  cases reading with
  | error fault => exact ⟨fault, rfl⟩
  | ok result => cases h

/-- One member is read, and then the members behind it. -/
theorem StepsAs.toOption_readMembers_succ (h : StepsAs member step admits)
    (hentry : admits entry) {first : Bool} {gap : List Char} (hgap : Separates first gap)
    (hrest : EndsNumber rest) (fuel : Nat) :
    (readMembers member (fuel + 1) first soFar (gap ++ '"' :: entry.fromName rest)).toOption =
      (step soFar entry).bind fun next => (readMembers member fuel false next rest).toOption := by
  have hname := Piece.toOption_readQuoted entry.name (entry.afterName.text ++ ':' ::
    (entry.beforeValue.text ++ (entry.value.text ++ rest)))
  rw [readMembers, nextMember_key hgap]
  simp only
  cases hdecode : Piece.decode? entry.name with
  | none =>
      rw [hdecode] at hname
      obtain ⟨fault, hfault⟩ := eq_error_of_toOption hname
      rw [MemberText.fromName, hfault, h.unnamed _ (by rw [MemberText.key?, hdecode]; rfl)]
      rfl
  | some name =>
      rw [hdecode] at hname
      have hkey : entry.key? = some (String.ofList name) := by
        rw [MemberText.key?, hdecode, Option.map_some]
      have hvalue := h.named soFar hentry hkey hrest
      rw [MemberText.fromName, eq_ok_of_toOption hname]
      simp only
      cases hstep : step soFar entry with
      | none =>
          rw [hstep] at hvalue
          obtain ⟨fault, hfault⟩ := eq_error_of_toOption hvalue
          rw [hfault]
          rfl
      | some next =>
          rw [hstep] at hvalue
          rw [eq_ok_of_toOption hvalue]
          rfl

theorem endsNumber_moreBefore (rest : List Char) (entries : List MemberText) :
    EndsNumber (MemberText.moreBefore rest entries) := by
  cases entries with
  | nil => exact ⟨rfl, by decide, rfl⟩
  | cons entry entries => exact ⟨rfl, by decide, rfl⟩

theorem StepsAs.toOption_readMembers_more (h : StepsAs member step admits)
    {entries : List MemberText} (hentries : ∀ entry ∈ entries, admits entry)
    {blanks : List Char} (hblanks : AllBlank blanks) {fuel : Nat} (hfuel : entries.length < fuel) :
    (readMembers member fuel false soFar
        (blanks ++ MemberText.moreBefore rest entries)).toOption =
      (entries.foldlM step soFar).map fun final => (final, rest) := by
  -- The blanks are those behind the value before, and each member takes a unit of fuel.
  induction entries generalizing soFar blanks fuel with
  | nil =>
      obtain ⟨fuel, rfl⟩ := Nat.exists_eq_add_of_lt hfuel
      rw [MemberText.moreBefore, List.length_nil, Nat.zero_add, readMembers,
        nextMember_ended hblanks]
      rfl
  | cons entry entries ih =>
      obtain ⟨fuel, rfl⟩ := Nat.exists_eq_add_of_lt hfuel
      obtain ⟨hentry, hentries⟩ := List.forall_mem_cons.mp hentries
      have hgap : Separates false (blanks ++ ',' :: entry.beforeName.text) :=
        ⟨_, _, hblanks, entry.beforeName.allBlank, rfl⟩
      have hrest := endsNumber_append entry.afterValue.allBlank
        (endsNumber_moreBefore rest entries)
      have htext : blanks ++ MemberText.moreBefore rest (entry :: entries) =
          (blanks ++ ',' :: entry.beforeName.text) ++ '"' ::
            entry.fromName (entry.afterValue.text ++ MemberText.moreBefore rest entries) := by
        simp [MemberText.moreBefore, MemberText.textBefore]
      rw [htext, h.toOption_readMembers_succ hentry hgap hrest, List.foldlM_cons]
      cases step soFar entry with
      | none => rfl
      | some next =>
          exact ih hentries entry.afterValue.allBlank (by simp only [List.length_cons]; omega)

/-- The members of an object are read as the steps for them, one after the other. -/
theorem StepsAs.toOption_readMembers (h : StepsAs member step admits)
    {entries : List MemberText} (hentries : ∀ entry ∈ entries, admits entry)
    {blanks : List Char} (hblanks : AllBlank blanks) {fuel : Nat} (hfuel : entries.length < fuel) :
    (readMembers member fuel true soFar
        (blanks ++ MemberText.allBefore rest entries)).toOption =
      (entries.foldlM step soFar).map fun final => (final, rest) := by
  obtain ⟨fuel, rfl⟩ := Nat.exists_eq_add_of_lt hfuel
  cases entries with
  | nil =>
      rw [MemberText.allBefore, readMembers, nextMember_ended hblanks]
      rfl
  | cons entry entries =>
      obtain ⟨hentry, hentries⟩ := List.forall_mem_cons.mp hentries
      have hgap : Separates true (blanks ++ entry.beforeName.text) := fun c hc =>
        (List.mem_append.mp hc).elim (hblanks c) (entry.beforeName.allBlank c)
      have hrest := endsNumber_append entry.afterValue.allBlank
        (endsNumber_moreBefore rest entries)
      have htext : blanks ++ MemberText.allBefore rest (entry :: entries) =
          (blanks ++ entry.beforeName.text) ++ '"' ::
            entry.fromName (entry.afterValue.text ++ MemberText.moreBefore rest entries) := by
        simp [MemberText.allBefore, MemberText.textBefore]
      rw [htext, h.toOption_readMembers_succ hentry hgap hrest, List.foldlM_cons]
      cases step soFar entry with
      | none => rfl
      | some next =>
          exact h.toOption_readMembers_more hentries entry.afterValue.allBlank
            (by simp only [List.length_cons]; omega)

end

/-! ## Reading the object -/

theorem length_lt_moreBefore (rest : List Char) (entries : List MemberText) :
    entries.length < (MemberText.moreBefore rest entries).length := by
  induction entries with
  | nil => exact Nat.succ_pos _
  | cons entry entries ih =>
      simp only [MemberText.moreBefore, MemberText.textBefore, MemberText.fromName,
        List.length_cons, List.length_append]
      omega

theorem length_lt_allBefore (rest : List Char) (entries : List MemberText) :
    entries.length < (MemberText.allBefore rest entries).length := by
  cases entries with
  | nil => exact Nat.succ_pos _
  | cons entry entries =>
      have hmore := length_lt_moreBefore rest entries
      simp only [MemberText.allBefore, MemberText.textBefore, MemberText.fromName,
        List.length_cons, List.length_append]
      omega

/-- A field answers what its reader answers, put into its place. -/
theorem FieldReader.answers_of {δ β : Type} {name : String} {get : δ → Option β}
    {set : δ → Option β → δ} {reader : Reader β} {text : List Char} {answer : Option β}
    (h : Answers reader text answer) (draft : δ) :
    Answers ((FieldReader.of name get set reader).read draft) text
      ((answer.map fun value draft => set draft (some value)).map (· draft)) := by
  rw [Option.map_map]
  exact h.map fun value => set draft (some value)

namespace RecordReader

variable {δ α : Type} {shape : RecordReader δ α} {step : δ → MemberText → Option δ}
  {admits : MemberText → Prop} {object : ObjectText}

theorem toOption_read (h : StepsAs shape.readMember step admits)
    (hmembers : ∀ entry ∈ object.members, admits entry) :
    (shape.read object.text).toOption =
      ((object.members.foldlM step shape.empty).bind fun draft =>
        (shape.complete draft).toOption).map fun value => (value, object.after.text) := by
  have hfuel : object.members.length <
      (object.inside.text ++ MemberText.allBefore object.after.text object.members).length + 1 := by
    have hlength := length_lt_allBefore object.after.text object.members
    rw [List.length_append]
    omega
  have hread : (readMembers shape.readMember _ true shape.empty _).toOption =
      (object.members.foldlM step shape.empty).map fun final => (final, object.after.text) :=
    h.toOption_readMembers hmembers object.inside.allBlank hfuel
  rw [ObjectText.text, read, skipBlanks_append object.before.allBlank,
    skipBlanks_of_head (by decide)]
  simp only [if_pos]
  cases hfold : object.members.foldlM step shape.empty with
  | none =>
      rw [hfold] at hread
      obtain ⟨fault, hfault⟩ := eq_error_of_toOption hread
      rw [hfault]
      rfl
  | some draft =>
      rw [hfold] at hread
      rw [eq_ok_of_toOption hread]
      simp only [Option.bind_some]
      cases shape.complete draft <;> rfl

/-- **An object is read as the steps for its members.** -/
theorem toOption_readText (h : StepsAs shape.readMember step admits)
    (hmembers : ∀ entry ∈ object.members, admits entry) :
    (readText shape.read (String.ofList object.text)).toOption =
      (object.members.foldlM step shape.empty).bind fun draft =>
        (shape.complete draft).toOption := by
  have hread := toOption_read h hmembers
  rw [readText, String.toList_ofList]
  cases hanswer : (object.members.foldlM step shape.empty).bind fun draft =>
      (shape.complete draft).toOption with
  | none =>
      rw [hanswer] at hread
      obtain ⟨fault, hfault⟩ := eq_error_of_toOption hread
      rw [hfault]
      rfl
  | some value =>
      have hblanks : skipBlanks object.after.text = [] := by
        have hskip := skipBlanks_append object.after.allBlank []
        rwa [List.append_nil] at hskip
      rw [hanswer] at hread
      rw [eq_ok_of_toOption hread]
      simp only [hblanks]
      rfl

end RecordReader

end VideoGate.Json
