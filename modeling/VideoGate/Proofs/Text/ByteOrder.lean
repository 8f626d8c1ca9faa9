import Mathlib.Data.String.Basic

/-!
# The order of texts

Texts are ordered by their characters.  Their bytes in UTF-8 are ordered the same way
(`Text.bytes_lt_bytes_iff`): of two characters the lower one has the lower byte at the first place
where their bytes differ, for the first byte of a character grows with the number of its bytes.
-/

namespace VideoGate.Text

/-- The bytes of a text. -/
def bytes (text : String) : List UInt8 := text.toUTF8.data.toList

theorem bytes_eq_flatMap (text : String) :
    bytes text = text.toList.flatMap String.utf8EncodeChar := by
  have hbytes : text.toUTF8 = (text.toList.flatMap String.utf8EncodeChar).toByteArray := by
    conv_lhs => rw [← String.ofList_toList (s := text)]
    exact String.toByteArray_ofList
  unfold bytes
  rw [hbytes, List.data_toByteArray]

theorem cons_lt_cons_iff_of_lt {a b : Nat} (ha : a < 256) (hb : b < 256)
    {before after : List UInt8} :
    UInt8.ofNat a :: before < UInt8.ofNat b :: after ↔ a < b ∨ a = b ∧ before < after := by
  rw [List.cons_lt_cons_iff, UInt8.lt_iff_toNat_lt, ← UInt8.toNat_inj, UInt8.toNat_ofNat',
    UInt8.toNat_ofNat', Nat.mod_eq_of_lt ha, Nat.mod_eq_of_lt hb]

theorem toNat_val_lt (c : Char) : c.val.toNat < 0x110000 := by
  have hvalid := c.valid
  unfold UInt32.isValidChar Nat.isValidChar at hvalid
  omega

/-- The bytes of a lower character come first, whatever follows. -/
theorem utf8EncodeChar_append_lt {c d : Char} (h : c < d) (before after : List UInt8) :
    String.utf8EncodeChar c ++ before < String.utf8EncodeChar d ++ after := by
  have hlt : c.val.toNat < d.val.toNat := h
  have hlimit := toNat_val_lt d
  unfold String.utf8EncodeChar
  generalize c.val.toNat = low at hlt ⊢
  generalize d.val.toNat = high at hlt hlimit ⊢
  -- The bytes are the digits of the character to the base 64, the highest one first.
  have hthird : ∀ n, n / 4096 = n / 64 / 64 := by omega
  have hfourth : ∀ n, n / 262144 = n / 64 / 64 / 64 := by omega
  simp only [hthird, hfourth]
  split_ifs <;>
    simp (disch := omega) only [List.cons_append, List.nil_append, cons_lt_cons_iff_of_lt] <;> omega

theorem flatMap_lt_flatMap {low high : List Char} (h : low < high) :
    low.flatMap String.utf8EncodeChar < high.flatMap String.utf8EncodeChar := by
  induction low generalizing high with
  | nil =>
      cases high with
      | nil => exact absurd h (List.lt_irrefl _)
      | cons d high =>
          have hbytes : String.utf8EncodeChar d ≠ [] := String.utf8EncodeChar_ne_nil
          obtain ⟨byte, bytes, hbytes⟩ := List.exists_cons_of_ne_nil hbytes
          rw [List.flatMap_nil, List.flatMap_cons, hbytes]
          exact List.nil_lt_cons ..
  | cons c low ih =>
      cases high with
      | nil => cases h
      | cons d high =>
          rw [List.flatMap_cons, List.flatMap_cons]
          rcases List.cons_lt_cons_iff.mp h with hlt | ⟨rfl, hrest⟩
          · exact utf8EncodeChar_append_lt hlt _ _
          · exact List.append_left_lt (ih hrest)

/-- **The order of texts is the order of their bytes.** -/
theorem bytes_lt_bytes_iff {low high : String} : bytes low < bytes high ↔ low < high := by
  have hlt : ∀ {low high : String}, low < high → bytes low < bytes high := by
    intro low high h
    rw [bytes_eq_flatMap, bytes_eq_flatMap]
    exact flatMap_lt_flatMap (String.lt_iff_toList_lt.mp h)
  refine ⟨fun h => ?_, hlt⟩
  rcases lt_trichotomy low high with hlower | rfl | hhigher
  · exact hlower
  · exact absurd h (List.lt_irrefl _)
  · exact absurd h (List.lt_asymm (hlt hhigher))

end VideoGate.Text
