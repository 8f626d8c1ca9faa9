import VideoGate.Control.Status
import VideoGate.Proofs.Export.RoundTrip
import VideoGate.Proofs.Json.AnyOrder
import VideoGate.Proofs.Json.Members

/-!
# Reading a status

A status is read back from what is written for it.  But it can be written by others as well: its
fields may come in any order, with members in between that are no fields.  A member is put into its
own place of the draft and there is room for one, so two members can be taken in either order
(`step_comm`); and a member that is no field changes nothing.  Hence an object that lists every
field once is read as the object of its fields in the order of the declaration, unless one of its
names is no text: a lone half of a surrogate pair is refused in a name, although a value may have
one that nobody looks at.
-/

namespace VideoGate

open Json

/-! ## The fields -/

/-- The fields of a status. -/
inductive StatusField where
  | stage1Enabled
  | stage2Enabled
  | peer
  | bridgeEnabled
  | output
  | globalMode
deriving DecidableEq, Repr

namespace StatusField

/-- Every field, in the order of the declaration. -/
def all : List StatusField :=
  [stage1Enabled, stage2Enabled, peer, bridgeEnabled, output, globalMode]

/-- The name of a field. -/
def name : StatusField → String
  | stage1Enabled => "stage1_enabled"
  | stage2Enabled => "stage2_enabled"
  | peer => "peer_ifindex"
  | bridgeEnabled => "bridge_mode"
  | output => "output_ifindex"
  | globalMode => "global_mode"

/-- The field with a name. -/
def ofName? (name : String) : Option StatusField := all.find? (·.name == name)

/-- Has the field been read? -/
def isSet : StatusField → Status.Draft → Bool
  | stage1Enabled, draft => draft.stage1Enabled.isSome
  | stage2Enabled, draft => draft.stage2Enabled.isSome
  | peer, draft => draft.peer.isSome
  | bridgeEnabled, draft => draft.bridgeEnabled.isSome
  | output, draft => draft.output.isSome
  | globalMode, draft => draft.globalMode.isSome

/-- How a value is put into its place, if it is of the type of the field. -/
def put? (field : StatusField) (value : ValueText) : Option (Status.Draft → Status.Draft) :=
  match field with
  | stage1Enabled => value.bool?.map fun v draft => { draft with stage1Enabled := some v }
  | stage2Enabled => value.bool?.map fun v draft => { draft with stage2Enabled := some v }
  | peer => value.word32?.map fun v draft => { draft with peer := some v }
  | bridgeEnabled => value.bool?.map fun v draft => { draft with bridgeEnabled := some v }
  | output => value.word32?.map fun v draft => { draft with output := some v }
  | globalMode => value.string?.map fun v draft => { draft with globalMode := some v }

/-- Takes the value of a field, for which there is room once. -/
def take (field : StatusField) (value : ValueText) (draft : Status.Draft) : Option Status.Draft :=
  if field.isSet draft then none else (field.put? value).map (· draft)

variable {field other : StatusField} {value : ValueText}
  {put putOther : Status.Draft → Status.Draft}

/-- What is put into its place is there. -/
theorem isSet_put (h : field.put? value = some put) (draft : Status.Draft) :
    field.isSet (put draft) = true := by
  cases field <;> obtain ⟨_, -, rfl⟩ := Option.map_eq_some_iff.mp h <;> rfl

/-- What is put into its place leaves all other places as they are. -/
theorem isSet_put_of_ne (hne : field ≠ other) (h : field.put? value = some put)
    (draft : Status.Draft) : other.isSet (put draft) = other.isSet draft := by
  cases field <;> obtain ⟨_, -, rfl⟩ := Option.map_eq_some_iff.mp h <;> cases other <;>
    first | rfl | exact absurd rfl hne

theorem put_comm (hne : field ≠ other) (h : field.put? value = some put) {otherValue : ValueText}
    (hother : other.put? otherValue = some putOther) (draft : Status.Draft) :
    putOther (put draft) = put (putOther draft) := by
  cases field <;> obtain ⟨_, -, rfl⟩ := Option.map_eq_some_iff.mp h <;> cases other <;>
    obtain ⟨_, -, rfl⟩ := Option.map_eq_some_iff.mp hother <;>
    first | rfl | exact absurd rfl hne

theorem take_of_put?_eq_none (h : field.put? value = none) (draft : Status.Draft) :
    field.take value draft = none := by
  rw [take, h]
  exact ite_self none

theorem take_of_isSet {draft : Status.Draft} (h : field.isSet draft = true) :
    field.take value draft = none := if_pos h

theorem take_of_put {draft : Status.Draft} (h : field.isSet draft = false)
    (hput : field.put? value = some put) : field.take value draft = some (put draft) := by
  rw [take, h, hput]
  rfl

/-- There is no room for a second value. -/
theorem take_take_self (field : StatusField) (first second : ValueText) (draft : Status.Draft) :
    (field.take first draft).bind (field.take second) = none := by
  cases hset : field.isSet draft with
  | true => rw [take_of_isSet hset, Option.bind_none]
  | false =>
      cases hput : field.put? first with
      | none => rw [take_of_put?_eq_none hput, Option.bind_none]
      | some put =>
          rw [take_of_put hset hput, Option.bind_some, take_of_isSet (isSet_put hput draft)]

/-- The values of two fields, both of which are free, are put into their places. -/
theorem take_take_of_ne (hne : field ≠ other) {first second : ValueText} (draft : Status.Draft) :
    (field.take first draft).bind (other.take second) =
      if field.isSet draft ∨ other.isSet draft then none
      else (field.put? first).bind fun put =>
        (other.put? second).map fun putOther => putOther (put draft) := by
  cases hset : field.isSet draft with
  | true => rw [take_of_isSet hset, Option.bind_none, if_pos (.inl rfl)]
  | false =>
      cases hput : field.put? first with
      | none => rw [take_of_put?_eq_none hput, Option.bind_none, Option.bind_none, ite_self]
      | some put =>
          rw [take_of_put hset hput, Option.bind_some, Option.bind_some, take,
            isSet_put_of_ne hne hput]
          simp

/-- Two values can be taken in either order. -/
theorem take_comm (field other : StatusField) (first second : ValueText) (draft : Status.Draft) :
    (field.take first draft).bind (other.take second) =
      (other.take second draft).bind (field.take first) := by
  by_cases hne : field = other
  · subst hne
    rw [take_take_self, take_take_self]
  · have hsets : other.isSet draft = true ∨ field.isSet draft = true ↔
        field.isSet draft = true ∨ other.isSet draft = true := or_comm
    rw [take_take_of_ne hne, take_take_of_ne (Ne.symm hne)]
    simp only [hsets]
    split
    · rfl
    · cases hput : field.put? first with
      | none => cases other.put? second <;> rfl
      | some put =>
          cases hother : other.put? second with
          | none => rfl
          | some putOther => exact congrArg some (put_comm hne hput hother draft)

/-- The field of a member. -/
def ofMember? (entry : MemberText) : Option StatusField := entry.key?.bind ofName?

/-- What a member does to the draft. -/
def step (draft : Status.Draft) (entry : MemberText) : Option Status.Draft :=
  match entry.key? with
  | none => none
  | some key =>
    match ofName? key with
    | none => some draft
    | some field => field.take entry.value draft

theorem step_of_key?_eq_none {entry : MemberText} (h : entry.key? = none) (draft : Status.Draft) :
    step draft entry = none := by
  rw [step, h]

theorem step_of_field {entry : MemberText} (h : ofMember? entry = some field)
    (draft : Status.Draft) : step draft entry = field.take entry.value draft := by
  obtain ⟨key, hkey, hname⟩ := Option.bind_eq_some_iff.mp h
  simp only [step, hkey, hname]

theorem step_of_stranger {entry : MemberText} (hkey : entry.key? ≠ none)
    (h : ofMember? entry = none) (draft : Status.Draft) : step draft entry = some draft := by
  obtain ⟨key, hkey⟩ := Option.ne_none_iff_exists'.mp hkey
  rw [ofMember?, hkey, Option.bind_some] at h
  simp only [step, hkey, h]

/-- **Two members can be taken in either order.** -/
theorem step_comm (draft : Status.Draft) (first second : MemberText) :
    (step draft first).bind (step · second) = (step draft second).bind (step · first) := by
  have hcases : ∀ entry : MemberText, (∀ draft, step draft entry = none) ∨
      (∀ draft, step draft entry = some draft) ∨
      ∃ field : StatusField, ∀ draft, step draft entry = field.take entry.value draft := by
    intro entry
    by_cases hkey : entry.key? = none
    · exact .inl (step_of_key?_eq_none hkey)
    · cases hfield : ofMember? entry with
      | none => exact .inr (.inl (step_of_stranger hkey hfield))
      | some field => exact .inr (.inr ⟨field, step_of_field hfield⟩)
  rcases hcases first with hfirst | hfirst | ⟨field, hfirst⟩ <;>
    rcases hcases second with hsecond | hsecond | ⟨other, hsecond⟩ <;>
    simp [hfirst, hsecond]
  exact take_comm field other first.value second.value draft

/-! ### The reader -/

/-- How a field is read. -/
def reader : StatusField → FieldReader Status.Draft
  | stage1Enabled =>
    .of "stage1_enabled" (·.stage1Enabled) (fun d v => { d with stage1Enabled := v }) readBool
  | stage2Enabled =>
    .of "stage2_enabled" (·.stage2Enabled) (fun d v => { d with stage2Enabled := v }) readBool
  | peer => .of "peer_ifindex" (·.peer) (fun d v => { d with peer := v }) readWord32
  | bridgeEnabled =>
    .of "bridge_mode" (·.bridgeEnabled) (fun d v => { d with bridgeEnabled := v }) readBool
  | output => .of "output_ifindex" (·.output) (fun d v => { d with output := v }) readWord32
  | globalMode =>
    .of "global_mode" (·.globalMode) (fun d v => { d with globalMode := v }) readString

theorem name_reader (field : StatusField) : field.reader.name = field.name := by
  cases field <;> rfl

theorem isSet_reader (field : StatusField) (draft : Status.Draft) :
    field.reader.isSet draft = field.isSet draft := by
  cases field <;> rfl

theorem answers_reader (field : StatusField) (value : ValueText) (draft : Status.Draft) :
    Answers (field.reader.read draft) value.text ((field.put? value).map (· draft)) := by
  unfold reader put?
  cases field with
  | stage1Enabled | stage2Enabled | bridgeEnabled =>
      exact FieldReader.answers_of (ValueText.answers_readBool value) draft
  | peer | output => exact FieldReader.answers_of (ValueText.answers_readWord32 value) draft
  | globalMode => exact FieldReader.answers_of (ValueText.answers_readString value) draft

theorem find?_fields (key : String) :
    Status.reader.fields.find? (·.name == key) = (ofName? key).map reader := by
  have hfields : Status.reader.fields = all.map reader := rfl
  rw [hfields, List.find?_map, ofName?]
  simp only [Function.comp_def, name_reader]

/-- A member is one of a field, or holds no other values. -/
def Admits (entry : MemberText) : Prop := ofMember? entry = none → entry.value.isScalar = true

instance (entry : MemberText) : Decidable (Admits entry) :=
  inferInstanceAs (Decidable (_ → _))

/-- The reader of a status makes of each member what the step does. -/
theorem stepsAs : StepsAs Status.reader.readMember step Admits where
  unnamed draft _ h := step_of_key?_eq_none h draft
  named draft entry key rest hadmits hkey hrest := by
    have hcolon := skipColon_append entry.afterName.allBlank
      (entry.beforeValue.text ++ (entry.value.text ++ rest))
    cases hname : ofName? key with
    | none =>
        have hstranger : ofMember? entry = none := by rw [ofMember?, hkey, Option.bind_some, hname]
        have hskip := ValueText.skipValue_eq (hadmits hstranger) entry.beforeValue.allBlank hrest
        rw [step_of_stranger (by simp [hkey]) hstranger]
        simp only [RecordReader.readMember, find?_fields, hname, Option.map_none, hcolon, hskip]
        rfl
    | some field =>
        have hfield : ofMember? entry = some field := by
          rw [ofMember?, hkey, Option.bind_some, hname]
        have hread := answers_reader field entry.value draft entry.beforeValue.allBlank hrest
        rw [step_of_field hfield]
        simp only [RecordReader.readMember, find?_fields, hname, Option.map_some, isSet_reader,
          hcolon]
        cases hset : field.isSet draft with
        | true => rw [if_pos rfl, take_of_isSet hset]; rfl
        | false => rw [if_neg Bool.false_ne_true, hread, take, hset, if_neg Bool.false_ne_true]

end StatusField

/-! ## Objects that list a status -/

namespace Status

/-- An object lists every field once, and its other members hold no other values. -/
structure ListedIn (object : ObjectText) : Prop where
  once : ∀ field, (object.members.filterMap StatusField.ofMember?).count field = 1
  strangers : ∀ entry ∈ object.members, StatusField.Admits entry

/-- The names of all members are texts: none of them has a lone half of a surrogate pair. -/
def Named (object : ObjectText) : Prop := ∀ entry ∈ object.members, entry.key? ≠ none

instance (object : ObjectText) : Decidable (Named object) :=
  inferInstanceAs (Decidable (∀ entry ∈ object.members, entry.key? ≠ none))

/-- The member of a field. -/
def memberOf? (object : ObjectText) (field : StatusField) : Option MemberText :=
  entryOf? StatusField.ofMember? object.members field

/-- The object of the fields alone, in the order of the declaration. -/
def inDeclarationOrder (object : ObjectText) : ObjectText where
  before := object.before
  inside := object.inside
  members := StatusField.all.filterMap (memberOf? object)
  after := object.after

/-- The status that an object lists, if every field holds a value of its type. -/
def ofObject? (object : ObjectText) : Option Status := do
  let value := fun field => (memberOf? object field).map (·.value)
  return {
    stage1Enabled := ← (← value .stage1Enabled).bool?
    stage2Enabled := ← (← value .stage2Enabled).bool?
    peer := ← (← value .peer).word32?
    bridgeEnabled := ← (← value .bridgeEnabled).bool?
    output := ← (← value .output).word32?
    globalMode := ← (← value .globalMode).string? }

variable {object : ObjectText}

/-- A member for each field, in the order of the declaration, leads to the status of their
values. -/
theorem foldlM_fields {entry : StatusField → MemberText}
    (h : ∀ field, StatusField.ofMember? (entry field) = some field) :
    ((StatusField.all.map entry).foldlM StatusField.step reader.empty).bind
        (fun draft => (reader.complete draft).toOption) = do
      return {
        stage1Enabled := ← (entry .stage1Enabled).value.bool?
        stage2Enabled := ← (entry .stage2Enabled).value.bool?
        peer := ← (entry .peer).value.word32?
        bridgeEnabled := ← (entry .bridgeEnabled).value.bool?
        output := ← (entry .output).value.word32?
        globalMode := ← (entry .globalMode).value.string? } := by
  simp only [StatusField.all, List.map_cons, List.map_nil, List.foldlM_cons, List.foldlM_nil,
    StatusField.step_of_field (h _)]
  simp only [StatusField.take, StatusField.put?]
  -- A value of another type ends both sides at once.
  cases (entry .stage1Enabled).value.bool? with
  | none => rfl
  | some =>
  cases (entry .stage2Enabled).value.bool? with
  | none => rfl
  | some =>
  cases (entry .peer).value.word32? with
  | none => rfl
  | some =>
  cases (entry .bridgeEnabled).value.bool? with
  | none => rfl
  | some =>
  cases (entry .output).value.word32? with
  | none => rfl
  | some =>
  cases (entry .globalMode).value.string? with
  | none => rfl
  | some => rfl

/-- In an object that lists a status there is a member for each field. -/
theorem ListedIn.exists_entry (h : ListedIn object) : ∃ entry : StatusField → MemberText,
    ∀ field, memberOf? object field = some (entry field) ∧
      StatusField.ofMember? (entry field) = some field := by
  have hfound : ∀ field, ∃ entry, memberOf? object field = some entry ∧
      StatusField.ofMember? entry = some field := by
    intro field
    have hmem : field ∈ object.members.filterMap StatusField.ofMember? :=
      List.count_pos_iff.mp (by rw [h.once field]; exact Nat.one_pos)
    obtain ⟨entry, hentry, hfield⟩ := List.mem_filterMap.mp hmem
    have hsome : (memberOf? object field).isSome = true :=
      List.find?_isSome.mpr ⟨entry, hentry, decide_eq_true hfield⟩
    obtain ⟨first, hfirst⟩ := Option.isSome_iff_exists.mp hsome
    exact ⟨first, hfirst, key?_of_entryOf? hfirst⟩
  exact ⟨fun field => (hfound field).choose, fun field => (hfound field).choose_spec⟩

/-- The members of fields, in whatever order they come, are those of the declaration. -/
theorem ListedIn.perm (h : ListedIn object) :
    (object.members.filter fun entry => (StatusField.ofMember? entry).isSome).Perm
      (inDeclarationOrder object).members := by
  refine filter_perm_filterMap_entryOf? (by decide) (List.perm_iff_count.mpr fun field => ?_)
  rw [h.once field]
  cases field <;> rfl

/-- The members lead where those of the fields lead in the order of the declaration. -/
theorem ListedIn.foldlM_eq (h : ListedIn object) (hnamed : Named object) :
    object.members.foldlM StatusField.step reader.empty =
      (inDeclarationOrder object).members.foldlM StatusField.step reader.empty := by
  rw [← foldlM_perm StatusField.step_comm h.perm, foldlM_filter]
  intro entry hentry hnone draft
  have hstranger : StatusField.ofMember? entry = none := by simpa using hnone
  exact StatusField.step_of_stranger (hnamed entry hentry) hstranger draft

/-- The members in the order of the declaration are those of fields. -/
theorem admits_of_mem_inDeclarationOrder :
    ∀ entry ∈ (inDeclarationOrder object).members, StatusField.Admits entry := by
  intro entry hentry hstranger
  obtain ⟨field, -, hfield⟩ := List.mem_filterMap.mp hentry
  rw [key?_of_entryOf? hfield] at hstranger
  cases hstranger

/-- The fields alone are read as the status that their values make up. -/
theorem ListedIn.toOption_ofJson_inDeclarationOrder (h : ListedIn object) :
    (ofJson (String.ofList (inDeclarationOrder object).text)).toOption = ofObject? object := by
  obtain ⟨entry, hentry⟩ := h.exists_entry
  have hmembers : (inDeclarationOrder object).members = StatusField.all.map entry := by
    simp [inDeclarationOrder, StatusField.all, fun field => (hentry field).1]
  rw [ofJson, RecordReader.toOption_readText StatusField.stepsAs admits_of_mem_inDeclarationOrder,
    hmembers, foldlM_fields fun field => (hentry field).2]
  simp [ofObject?, fun field => (hentry field).1]

/-- **An object that lists a status is read as the object of its fields in the order of the
declaration.** -/
theorem ListedIn.toOption_ofJson (h : ListedIn object) (hnamed : Named object) :
    (ofJson (String.ofList object.text)).toOption =
      (ofJson (String.ofList (inDeclarationOrder object).text)).toOption := by
  rw [ofJson, ofJson, RecordReader.toOption_readText StatusField.stepsAs h.strangers,
    RecordReader.toOption_readText StatusField.stepsAs admits_of_mem_inDeclarationOrder,
    h.foldlM_eq hnamed]

/-- A name that is no text makes the whole object unreadable. -/
theorem ListedIn.toOption_ofJson_eq_none (h : ListedIn object) (hnamed : ¬ Named object) :
    (ofJson (String.ofList object.text)).toOption = none := by
  obtain ⟨entry, hentry, hname⟩ : ∃ entry ∈ object.members, entry.key? = none := by
    simpa [Named] using hnamed
  rw [ofJson, RecordReader.toOption_readText StatusField.stepsAs h.strangers,
    foldlM_eq_none hentry (StatusField.step_of_key?_eq_none hname), Option.bind_none]

/-! ## What is written -/

theorem takes_boolValue (layout : Layout) (level : Nat) (b : Bool) :
    Takes readBool (layout.write level (.bool b)) b := by
  have hwrite : layout.write level (.bool b) = (ValueText.bool b).text := by
    cases layout <;> cases b <;> simp [Layout.write, Value.compact, Value.pretty, writeBool,
      ValueText.text]
  rw [hwrite]
  exact fun _ _ hblanks hrest =>
    eq_ok_of_toOption (ValueText.answers_readBool (.bool b) hblanks hrest)

theorem takes_toValue (layout : Layout) (level : Nat) (status : Status) :
    Takes reader.read (layout.write level status.toValue) status := by
  have hbool := takes_boolValue layout (level + 1)
  have hword := takes_word32Value layout (level + 1)
  have htext := takes_stringValue layout (level + 1) status.globalMode
  apply RecordReader.takes_object
  · apply EntriesTake.cons (RecordReader.takes_field rfl rfl (hbool _))
    apply EntriesTake.cons (RecordReader.takes_field rfl rfl (hbool _))
    apply EntriesTake.cons (RecordReader.takes_field rfl rfl (hword _))
    apply EntriesTake.cons (RecordReader.takes_field rfl rfl (hbool _))
    apply EntriesTake.cons (RecordReader.takes_field rfl rfl (hword _))
    apply EntriesTake.cons (RecordReader.takes_field rfl rfl htext)
    exact .nil
  · rfl

/-- **A status is read back** from what is written for it, and from any object that lists it among
members whose names are texts. -/
theorem json_reads_back :
    (∀ status : Status, ofJson status.toValue.compactText = .ok status ∧
      ofJson status.toValue.prettyText = .ok status) ∧
    ∀ object : ObjectText, ListedIn object →
      (ofJson (String.ofList (inDeclarationOrder object).text)).toOption = ofObject? object ∧
      (Named object → (ofJson (String.ofList object.text)).toOption =
        (ofJson (String.ofList (inDeclarationOrder object).text)).toOption) ∧
      (¬ Named object → (ofJson (String.ofList object.text)).toOption = none) := by
  refine ⟨fun status => ⟨?compact, ?pretty⟩, fun object h => ?listed⟩
  case compact => exact (takes_toValue .compact 0 status).readText_eq
  case pretty => exact (takes_toValue .lines 0 status).readText_eq
  case listed =>
    exact ⟨h.toOption_ofJson_inDeclarationOrder, h.toOption_ofJson, h.toOption_ofJson_eq_none⟩

/-- A member with a blank in front of its name. -/
def listedMember (name : List Piece) (value : ValueText) : MemberText where
  beforeName := ⟨[' '], by decide⟩
  name
  afterName := ⟨[], by decide⟩
  beforeValue := ⟨[], by decide⟩
  value
  afterValue := ⟨[], by decide⟩

/-- An object with nothing but its members. -/
def listedObject (members : List MemberText) : ObjectText where
  before := ⟨[], by decide⟩
  inside := ⟨[], by decide⟩
  members
  after := ⟨[], by decide⟩

/-- A whole number. -/
def listedWord (n : Nat) : ValueText := .number ⟨false, n, none, none⟩

/-- Half a surrogate pair that stands alone. -/
def loneHalf : Piece := .unit ⟨⟨13, false⟩, ⟨8, false⟩, ⟨0, false⟩, ⟨0, false⟩⟩

/-- A status among other members: its fields are out of order, a name and a value are spelled with
escapes, and half a surrogate pair stands alone where nobody looks. -/
def listed : ObjectText :=
  let code := fun high low => Piece.unit ⟨⟨0, false⟩, ⟨0, false⟩, ⟨high, false⟩, ⟨low, true⟩⟩
  listedObject [
    listedMember (Piece.plainPieces "note") (.string [loneHalf]),
    listedMember (Piece.plainPieces "global_mode")
      (.string (Piece.plainPieces "drop" ++ code 2 13 :: Piece.plainPieces "p")),
    listedMember (Piece.plainPieces "output_ifindex") (listedWord 7),
    listedMember (Piece.plainPieces "peer_ifindex") (listedWord 0xFFFFFFFF),
    listedMember [] (.number ⟨true, 1, some ⟨5, []⟩, some ⟨true, .plus, ⟨3, []⟩⟩⟩),
    listedMember (Piece.plainPieces "bridge" ++ code 5 15 :: Piece.plainPieces "mode")
      (.bool true),
    listedMember (Piece.plainPieces "stage2_enabled") (.bool false),
    listedMember [] .null,
    listedMember (Piece.plainPieces "stage1_enabled") (.bool true)]

theorem json_reads_back_listed :
    String.ofList listed.text =
        "\x7b \"note\":\"\\ud800\", \"global_mode\":\"drop\\u002Dp\"," ++
          " \"output_ifindex\":7, \"peer_ifindex\":4294967295, \"\":-1.5E+3," ++
          " \"bridge\\u005Fmode\":true, \"stage2_enabled\":false, \"\":null," ++
          " \"stage1_enabled\":true\x7d" ∧
      ListedIn listed ∧ Named listed ∧
      ofJson (String.ofList listed.text) = .ok
        { stage1Enabled := true, stage2Enabled := false, peer := 0xFFFFFFFF,
          bridgeEnabled := true, output := 7, globalMode := "drop-p" } := by
  have hlisted : ListedIn listed := by
    refine ⟨fun field => ?_, by decide +kernel⟩
    cases field <;> decide +kernel
  have hnamed : Named listed := by decide +kernel
  obtain ⟨hfields, hread, -⟩ := json_reads_back.2 listed hlisted
  refine ⟨by decide +kernel, hlisted, hnamed, ?_⟩
  refine eq_ok_of_toOption ((hread hnamed).trans (hfields.trans ?_))
  decide +kernel

/-- A status with one more member, whose name is half a surrogate pair. -/
def misnamed : ObjectText :=
  listedObject [
    listedMember [loneHalf] .null,
    listedMember (Piece.plainPieces "stage1_enabled") (.bool true),
    listedMember (Piece.plainPieces "stage2_enabled") (.bool false),
    listedMember (Piece.plainPieces "peer_ifindex") (listedWord 3),
    listedMember (Piece.plainPieces "bridge_mode") (.bool true),
    listedMember (Piece.plainPieces "output_ifindex") (listedWord 0),
    listedMember (Piece.plainPieces "global_mode") (.string (Piece.plainPieces "off"))]

/-- A member that is no field keeps the status from being read, if its name is no text. -/
theorem not_json_reads_back_misnamed :
    String.ofList misnamed.text =
        "\x7b \"\\ud800\":null, \"stage1_enabled\":true, \"stage2_enabled\":false," ++
          " \"peer_ifindex\":3, \"bridge_mode\":true, \"output_ifindex\":0," ++
          " \"global_mode\":\"off\"\x7d" ∧
      ListedIn misnamed ∧
      ofJson (String.ofList (inDeclarationOrder misnamed).text) = .ok
        { stage1Enabled := true, stage2Enabled := false, peer := 3,
          bridgeEnabled := true, output := 0, globalMode := "off" } ∧
      (ofJson (String.ofList misnamed.text)).toOption = none := by
  have hlisted : ListedIn misnamed := by
    refine ⟨fun field => ?_, by decide +kernel⟩
    cases field <;> decide +kernel
  have hnamed : ¬ Named misnamed := by decide +kernel
  refine ⟨by decide +kernel, hlisted, ?_, hlisted.toOption_ofJson_eq_none hnamed⟩
  refine eq_ok_of_toOption (hlisted.toOption_ofJson_inDeclarationOrder.trans ?_)
  decide +kernel

end Status

end VideoGate
