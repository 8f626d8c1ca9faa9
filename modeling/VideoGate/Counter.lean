/-!
# Counters

A counter is a word of 64 bits that stops at its largest value and never wraps.
-/

namespace VideoGate.Counter

def limit : UInt64 := 0xFFFFFFFFFFFFFFFF

/-- One more, up to the largest count. -/
def increment (count : UInt64) : UInt64 :=
  if count = limit then limit else count + 1

/-- No count is past the largest one. -/
theorem toNat_eq_min (count : UInt64) : count.toNat = min count.toNat (UInt64.size - 1) := by
  have hlt := count.toNat_lt
  unfold UInt64.size
  omega

theorem toNat_add_one_of_ne {count : UInt64} (h : count ≠ limit) :
    (count + 1).toNat = count.toNat + 1 := by
  have hlt := count.toNat_lt
  have hne : count.toNat ≠ 2 ^ 64 - 1 := fun hmax => h (UInt64.toNat_inj.mp hmax)
  rw [UInt64.toNat_add, show (1 : UInt64).toNat = 1 from rfl]
  omega

theorem toNat_increment (count : UInt64) :
    (increment count).toNat = min (count.toNat + 1) (UInt64.size - 1) := by
  unfold increment
  split
  · subst count
    decide
  · rename_i hne
    rw [← toNat_add_one_of_ne hne]
    exact toNat_eq_min (count + 1)

/-- How far a counter grew; a counter that went back, because it was made anew, has not
grown. -/
def growth (later earlier : UInt64) : UInt64 :=
  if earlier ≤ later then later - earlier else 0

theorem toNat_growth (later earlier : UInt64) :
    (growth later earlier).toNat = later.toNat - earlier.toNat := by
  unfold growth
  split
  · rename_i h
    exact UInt64.toNat_sub_of_le _ _ h
  · rename_i h
    rw [UInt64.le_iff_toNat_le] at h
    simp only [UInt64.toNat_zero]
    omega

end VideoGate.Counter
