import Mathlib.Data.Nat.Digits.Defs

/-!
# Positional notation

A number is written as its digits to some base, the most significant one first.  Decimal numerals
and big-endian words both are: the digits are characters in the one case and bytes in the other.
-/

namespace VideoGate

/-- The number that has these digits, the most significant one first. -/
def positional (base : Nat) (digits : List Nat) : Nat := Nat.ofDigits base digits.reverse

theorem positional_cons (base digit : Nat) (digits : List Nat) :
    positional base (digit :: digits) =
      digit * base ^ digits.length + positional base digits := by
  rw [positional, List.reverse_cons, Nat.ofDigits_append, Nat.ofDigits_singleton,
    List.length_reverse, Nat.mul_comm, Nat.add_comm, positional]

theorem positional_concat (base : Nat) (digits : List Nat) (digit : Nat) :
    positional base (digits ++ [digit]) = positional base digits * base + digit := by
  rw [positional, List.reverse_append, List.reverse_singleton, List.singleton_append,
    Nat.ofDigits_cons, Nat.mul_comm, Nat.add_comm, positional]

end VideoGate
