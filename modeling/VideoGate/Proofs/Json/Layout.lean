import VideoGate.Json.Value
import VideoGate.Proofs.Json.Taking

/-!
# Values in either layout

A value is written without blanks or with one item a line.  The layouts differ in the blanks between
the tokens only, so what can be taken from the members of an object, one after the other, is taken
from the object in either layout (`RecordReader.takes_object`), and likewise for lists.
-/

namespace VideoGate.Json

/-- How the tokens of a value are set apart. -/
inductive Layout where
  | compact
  | lines

namespace Layout

/-- A value in a layout, from a line that is indented by `level`. -/
def write : Layout → Nat → Value → List Char
  | compact, _, value => value.compact
  | lines, level, value => value.pretty level

/-- The blanks in front of an item, a member or a closing bracket. -/
def gap : Layout → Nat → List Char
  | compact, _ => []
  | lines, level => newline level

/-- The blanks behind a colon. -/
def colonGap : Layout → List Char
  | compact => []
  | lines => [' ']

/-- An item of a list with the blanks in front of it. -/
def item (layout : Layout) (level : Nat) (value : Value) : List Char :=
  layout.gap level ++ layout.write level value

/-- What stands behind the key of a member. -/
def behindKey (layout : Layout) (level : Nat) (value : Value) : List Char :=
  ':' :: (layout.colonGap ++ layout.write level value)

/-- A member of an object with the blanks in front of it. -/
def member (layout : Layout) (level : Nat) (entry : String × Value) : List Char :=
  layout.gap level ++ (quote entry.1 ++ layout.behindKey level entry.2)

variable (layout : Layout) (level : Nat)

theorem allBlank_gap : AllBlank (layout.gap level) := by
  cases layout with
  | compact => exact allBlank_nil
  | lines =>
      intro c hc
      rcases List.mem_cons.mp hc with rfl | hc
      · rfl
      · rw [List.eq_of_mem_replicate hc]
        rfl

theorem allBlank_colonGap : AllBlank layout.colonGap := by
  cases layout with
  | compact => exact allBlank_nil
  | lines => exact List.forall_mem_singleton.mpr rfl

theorem separates_first : Separates true (layout.gap level) := layout.allBlank_gap level

theorem separates_next : Separates false (',' :: layout.gap level) :=
  ⟨[], _, allBlank_nil, layout.allBlank_gap level, rfl⟩

/-! ## Scalars -/

theorem write_natural (n : Nat) : layout.write level (.natural n) = Numeral.render n := by
  cases layout <;> simp only [write, Value.compact, Value.pretty]

theorem write_float (x : Float) : layout.write level (.float x) = writeFloat x := by
  cases layout <;> simp only [write, Value.compact, Value.pretty]

theorem write_string (text : String) : layout.write level (.string text) = quote text := by
  cases layout <;> simp only [write, Value.compact, Value.pretty]

/-! ## Items and members in a row -/

theorem compactItems_cons (value : Value) (values : List Value) :
    compactItems (value :: values) =
      compact.item level value ++ values.flatMap fun value => ',' :: compact.item level value := by
  induction values generalizing value with
  | nil => simp [compactItems, item, gap, write]
  | cons second values ih => simp [compactItems, ih, item, gap, write]

theorem prettyItems_cons (value : Value) (values : List Value) :
    prettyItems level (value :: values) =
      lines.item level value ++ values.flatMap fun value => ',' :: lines.item level value := by
  induction values generalizing value with
  | nil => simp [prettyItems, item, gap, write]
  | cons second values ih => simp [prettyItems, ih, item, gap, write]

theorem compactMembers_cons (entry : String × Value) (entries : List (String × Value)) :
    compactMembers (entry :: entries) =
      compact.member level entry ++
        entries.flatMap fun entry => ',' :: compact.member level entry := by
  induction entries generalizing entry with
  | nil => simp [compactMembers, member, behindKey, gap, colonGap, write]
  | cons second entries ih => simp [compactMembers, ih, member, behindKey, gap, colonGap, write]

theorem prettyMembers_cons (entry : String × Value) (entries : List (String × Value)) :
    prettyMembers level (entry :: entries) =
      lines.member level entry ++
        entries.flatMap fun entry => ',' :: lines.member level entry := by
  induction entries generalizing entry with
  | nil => simp [prettyMembers, member, behindKey, gap, colonGap, write]
  | cons second entries ih => simp [prettyMembers, ih, member, behindKey, gap, colonGap, write]

theorem write_list_nil : layout.write level (.list []) = ['[', ']'] := by
  cases layout <;> simp [write, Value.compact, Value.pretty, compactItems]

theorem write_list_cons (value : Value) (values : List Value) :
    layout.write level (.list (value :: values)) =
      '[' :: (layout.item (level + 1) value ++
        ((values.flatMap fun value => ',' :: layout.item (level + 1) value) ++
          (layout.gap level ++ [']']))) := by
  cases layout with
  | compact => simp [write, Value.compact, compactItems_cons (level + 1), gap]
  | lines => simp [write, Value.pretty, prettyItems_cons, gap]

theorem write_object_nil : layout.write level (.object []) = ['{', '}'] := by
  cases layout <;> simp [write, Value.compact, Value.pretty, compactMembers]

theorem write_object_cons (entry : String × Value) (entries : List (String × Value)) :
    layout.write level (.object (entry :: entries)) =
      '{' :: (layout.member (level + 1) entry ++
        ((entries.flatMap fun entry => ',' :: layout.member (level + 1) entry) ++
          (layout.gap level ++ ['}']))) := by
  cases layout with
  | compact => simp [write, Value.compact, compactMembers_cons (level + 1), gap]
  | lines => simp [write, Value.pretty, prettyMembers_cons, gap]

end Layout

variable {layout : Layout} {level : Nat}

/-! ## Lists -/

section

variable {α : Type} {reader : Reader α} {toValue : α → Value}

/-- The items are read back, and none of them can be taken for blanks or for the end of the list. -/
def ItemsReadBack (layout : Layout) (level : Nat) (reader : Reader α) (toValue : α → Value) :
    Prop :=
  ∀ value, ∃ c text, layout.write level (toValue value) = c :: text ∧ isBlank c = false ∧
    c ≠ ']' ∧ Takes reader (c :: text) value

theorem ItemsReadBack.itemsTake (h : ItemsReadBack layout level reader toValue) {first : Bool}
    {before text : List Char} {values : List α} (value : α) (hbefore : Separates first before)
    (hafter : ItemsTake reader false text values) :
    ItemsTake reader first (before ++ (layout.write level (toValue value) ++ text))
      (value :: values) := by
  obtain ⟨c, written, hcons, hblank, hend, htakes⟩ := h value
  rw [hcons]
  exact .item hbefore hblank hend htakes hafter

theorem ItemsReadBack.itemsTake_flatMap (h : ItemsReadBack layout level reader toValue)
    {closing : List Char} (hclosing : AllBlank closing) (values : List α) :
    ItemsTake reader false
      (((values.map toValue).flatMap fun value => ',' :: layout.item level value) ++
        (closing ++ [']'])) values := by
  induction values with
  | nil => exact .close hclosing
  | cons value values ih =>
      have htake := h.itemsTake value (layout.separates_next level) ih
      simpa [Layout.item] using htake

theorem ItemsReadBack.takes_list (h : ItemsReadBack layout (level + 1) reader toValue)
    (values : List α) :
    Takes (readList reader) (layout.write level (.list (values.map toValue))) values := by
  cases values with
  | nil =>
      rw [List.map_nil, Layout.write_list_nil]
      exact Json.takes_list (.close allBlank_nil)
  | cons value values =>
      have hmore := h.itemsTake_flatMap (layout.allBlank_gap level) values
      have htake := h.itemsTake value (layout.separates_first (level + 1)) hmore
      rw [List.map_cons, Layout.write_list_cons, Layout.item, List.append_assoc]
      exact Json.takes_list htake

end

/-! ## Objects -/

section

variable {α : Type} {member : α → String → Reader α} {soFar final : α}
  {entries : List (String × Value)}

/-- The values of members are taken one after the other, each from behind its key. -/
inductive EntriesTake (layout : Layout) (level : Nat) (member : α → String → Reader α) :
    α → List (String × Value) → α → Prop
  | nil {soFar : α} : EntriesTake layout level member soFar [] soFar
  | cons {soFar next final : α} {key : String} {value : Value} {entries : List (String × Value)}
      (h : Takes (member soFar key) (layout.behindKey level value) next)
      (hmore : EntriesTake layout level member next entries final) :
      EntriesTake layout level member soFar ((key, value) :: entries) final

theorem EntriesTake.membersTake_flatMap (h : EntriesTake layout level member soFar entries final)
    {closing : List Char} (hclosing : AllBlank closing) :
    MembersTake member false soFar
      ((entries.flatMap fun entry => ',' :: layout.member level entry) ++ (closing ++ ['}']))
      final := by
  -- Each member begins with its comma, so what is left is always a text behind a first member.
  induction h with
  | nil => exact .close hclosing
  | @cons _ _ _ key _ _ hvalue _ ih =>
      have htake := MembersTake.member (layout.separates_next level)
        (spells_escaped key.toList) hvalue ih
      simpa [Layout.member, quote_eq] using htake

/-- The members of an object are taken from behind its opening brace. -/
theorem EntriesTake.membersTake (h : EntriesTake layout (level + 1) member soFar entries final) :
    ∃ text, layout.write level (.object entries) = '{' :: text ∧
      MembersTake member true soFar text final := by
  cases h with
  | nil => exact ⟨['}'], layout.write_object_nil level, .close allBlank_nil⟩
  | @cons _ _ _ key value entries hvalue hmore =>
      refine ⟨_, layout.write_object_cons level (key, value) entries, ?_⟩
      have htake := MembersTake.member (layout.separates_first (level + 1))
        (spells_escaped key.toList) hvalue
        (hmore.membersTake_flatMap (layout.allBlank_gap level))
      simpa [Layout.member, quote_eq] using htake

end

namespace RecordReader

variable {δ α β : Type} {shape : RecordReader δ α} {draft : δ}

/-- A field of a record is taken from behind its name. -/
theorem takes_field {key : String} {get : δ → Option β} {set : δ → Option β → δ}
    {reader : Reader β} {value : Value} {content : β}
    (hfield : shape.fields.find? (·.name == key) = some (.of key get set reader))
    (hset : get draft = none) (h : Takes reader (layout.write level value) content) :
    Takes (shape.readMember draft key) (layout.behindKey level value)
      (set draft (some content)) := by
  have hread : Takes ((FieldReader.of key get set reader).read draft)
      (layout.colonGap ++ layout.write level value) (set draft (some content)) :=
    (h.behind_blanks layout.allBlank_colonGap).map fun content => set draft (some content)
  refine takes_readMember hfield ?_ hread
  simp only [FieldReader.of, hset, Option.isSome_none]

/-- **A record is taken from the object of its fields.** -/
theorem takes_object {entries : List (String × Value)} {value : α}
    (h : EntriesTake layout (level + 1) shape.readMember shape.empty entries draft)
    (hcomplete : shape.complete draft = .ok value) :
    Takes shape.read (layout.write level (.object entries)) value := by
  obtain ⟨text, hwrite, htake⟩ := h.membersTake
  rw [hwrite]
  exact takes_read htake hcomplete

end RecordReader

end VideoGate.Json
