import VideoGate.Text.Numeral

/-!
# The digits of a number

`render` writes nothing but digits, and the last of them is written behind the digits of the tenth
of the number.  A reader that goes from left to right, and takes one digit onto ten times what it
has, is therefore led along `render_of_le`.
-/

namespace VideoGate.Numeral

theorem digitValue?_digitChar : ∀ {digit : Nat}, digit < 10 →
    digitValue? (digitChar digit) = some digit := by
  decide

theorem isDigit_digitChar {digit : Nat} (h : digit < 10) : isDigit (digitChar digit) = true := by
  rw [isDigit, digitValue?_digitChar h, Option.isSome_some]

theorem render_of_lt {n : Nat} (h : n < 10) : render n = [digitChar n] := by
  rw [render, if_pos h]

theorem render_of_le {n : Nat} (h : 10 ≤ n) :
    render n = render (n / 10) ++ [digitChar (n % 10)] := by
  rw [render, if_neg (Nat.not_lt.mpr h)]

theorem render_eq_cons (n : Nat) : ∃ c rest, render n = c :: rest ∧ isDigit c = true := by
  induction n using render.induct with
  | case1 n h => exact ⟨_, _, render_of_lt h, isDigit_digitChar h⟩
  | case2 n h ih =>
      obtain ⟨c, rest, hcons, hdigit⟩ := ih
      refine ⟨c, rest ++ [digitChar (n % 10)], ?_, hdigit⟩
      rw [render_of_le (Nat.not_lt.mp h), hcons, List.cons_append]

/-- The digits of a number above zero do not begin with a zero. -/
theorem render_eq_cons_of_pos {n : Nat} (h : 0 < n) : ∃ c rest digit,
    render n = c :: rest ∧ digitValue? c = some digit ∧ 0 < digit := by
  induction n using render.induct with
  | case1 n hn => exact ⟨_, _, n, render_of_lt hn, digitValue?_digitChar hn, h⟩
  | case2 n hn ih =>
      obtain ⟨c, rest, digit, hcons, hdigit, hpos⟩ := ih (by omega)
      refine ⟨c, rest ++ [digitChar (n % 10)], digit, ?_, hdigit, hpos⟩
      rw [render_of_le (Nat.not_lt.mp hn), hcons, List.cons_append]

theorem render_ne_nil (n : Nat) : render n ≠ [] := by
  obtain ⟨c, rest, hcons, -⟩ := render_eq_cons n
  rw [hcons]
  exact List.cons_ne_nil c rest

theorem isDigit_of_mem_render {n : Nat} {c : Char} (h : c ∈ render n) : isDigit c = true := by
  induction n using render.induct with
  | case1 n hn =>
      rw [render_of_lt hn, List.mem_singleton] at h
      exact h ▸ isDigit_digitChar hn
  | case2 n hn ih =>
      rw [render_of_le (Nat.not_lt.mp hn), List.mem_append, List.mem_singleton] at h
      rcases h with h | rfl
      · exact ih h
      · exact isDigit_digitChar (Nat.mod_lt n (by decide))

end VideoGate.Numeral
