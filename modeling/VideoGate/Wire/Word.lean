/-!
# Big-endian words

Words of 16 and 32 bits as they stand on the wire, the most significant byte first.
Reading and writing are inverse to each other (`word16_bytes16`, `bytes16_word16` and
their 32-bit companions), so a field is known by its value or by its bytes alike.
-/

namespace VideoGate.Wire

/-! ## 16 bits -/

/-- The word whose high byte is `a` and whose low byte is `b`. -/
def word16 (a b : UInt8) : UInt16 :=
  UInt16.ofNat (a.toNat * 256 + b.toNat)

def bytes16 (w : UInt16) : UInt8 × UInt8 :=
  (UInt8.ofNat (w.toNat / 256), UInt8.ofNat w.toNat)

theorem word16_toNat (a b : UInt8) : (word16 a b).toNat = a.toNat * 256 + b.toNat := by
  have ha := a.toNat_lt
  have hb := b.toNat_lt
  simp only [word16, UInt16.toNat_ofNat']
  omega

@[simp] theorem word16_bytes16 (w : UInt16) : word16 (bytes16 w).1 (bytes16 w).2 = w := by
  apply UInt16.toNat_inj.mp
  have hw := w.toNat_lt
  simp only [word16_toNat, bytes16, UInt8.toNat_ofNat']
  omega

@[simp] theorem bytes16_word16 (a b : UInt8) : bytes16 (word16 a b) = (a, b) := by
  have ha := a.toNat_lt
  have hb := b.toNat_lt
  apply Prod.ext <;> apply UInt8.toNat_inj.mp <;>
    simp only [bytes16, word16_toNat, UInt8.toNat_ofNat'] <;> omega

/-! ## 32 bits -/

/-- The word with the bytes `a`, `b`, `c`, `d`, the most significant first. -/
def word32 (a b c d : UInt8) : UInt32 :=
  UInt32.ofNat (((a.toNat * 256 + b.toNat) * 256 + c.toNat) * 256 + d.toNat)

def bytes32 (w : UInt32) : UInt8 × UInt8 × UInt8 × UInt8 :=
  (UInt8.ofNat (w.toNat / 16777216), UInt8.ofNat (w.toNat / 65536),
    UInt8.ofNat (w.toNat / 256), UInt8.ofNat w.toNat)

theorem word32_toNat (a b c d : UInt8) :
    (word32 a b c d).toNat =
      ((a.toNat * 256 + b.toNat) * 256 + c.toNat) * 256 + d.toNat := by
  have ha := a.toNat_lt
  have hb := b.toNat_lt
  have hc := c.toNat_lt
  have hd := d.toNat_lt
  simp only [word32, UInt32.toNat_ofNat']
  omega

@[simp] theorem word32_bytes32 (w : UInt32) :
    word32 (bytes32 w).1 (bytes32 w).2.1 (bytes32 w).2.2.1 (bytes32 w).2.2.2 = w := by
  apply UInt32.toNat_inj.mp
  have hw := w.toNat_lt
  simp only [word32_toNat, bytes32, UInt8.toNat_ofNat']
  omega

@[simp] theorem bytes32_word32 (a b c d : UInt8) :
    bytes32 (word32 a b c d) = (a, b, c, d) := by
  have ha := a.toNat_lt
  have hb := b.toNat_lt
  have hc := c.toNat_lt
  have hd := d.toNat_lt
  refine Prod.ext ?_ (Prod.ext ?_ (Prod.ext ?_ ?_)) <;> apply UInt8.toNat_inj.mp <;>
    simp only [bytes32, word32_toNat, UInt8.toNat_ofNat'] <;> omega

end VideoGate.Wire
