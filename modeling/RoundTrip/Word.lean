/-!
# Four-byte words

Lengths travel with the most significant byte first, correlation ids with the
least significant byte first. Both orders are written over `Nat` remainders, so
that reading a written word is a fact of arithmetic (`ofBigEndian_bigEndian`,
`ofLittleEndian_littleEndian`), and so is writing a read one.
-/

namespace RoundTrip

abbrev Bytes := List UInt8

namespace Word

/-- Number of bytes of a word. -/
def width : Nat := 4

/-- Words are the numbers below this bound. -/
def bound : Nat := 4294967296

/-- The four bytes of `n` modulo `bound`, most significant first. -/
def bigEndian (n : Nat) : Bytes :=
  [UInt8.ofNat (n / 16777216), UInt8.ofNat (n / 65536), UInt8.ofNat (n / 256), UInt8.ofNat n]

def ofBigEndian (a b c d : UInt8) : Nat :=
  ((a.toNat * 256 + b.toNat) * 256 + c.toNat) * 256 + d.toNat

/-- The four bytes of `w`, least significant first. -/
def littleEndian (w : UInt32) : Bytes :=
  [UInt8.ofNat w.toNat, UInt8.ofNat (w.toNat / 256), UInt8.ofNat (w.toNat / 65536),
    UInt8.ofNat (w.toNat / 16777216)]

def ofLittleEndian (a b c d : UInt8) : UInt32 :=
  UInt32.ofNat (((d.toNat * 256 + c.toNat) * 256 + b.toNat) * 256 + a.toNat)

@[simp] theorem length_bigEndian (n : Nat) : (bigEndian n).length = width := rfl

@[simp] theorem length_littleEndian (w : UInt32) : (littleEndian w).length = width := rfl

theorem ofBigEndian_lt (a b c d : UInt8) : ofBigEndian a b c d < bound := by
  have ha := a.toNat_lt
  have hb := b.toNat_lt
  have hc := c.toNat_lt
  have hd := d.toNat_lt
  simp only [ofBigEndian, bound]
  omega

theorem ofBigEndian_bigEndian {n : Nat} (small : n < bound) :
    ofBigEndian (UInt8.ofNat (n / 16777216)) (UInt8.ofNat (n / 65536)) (UInt8.ofNat (n / 256))
      (UInt8.ofNat n) = n := by
  simp only [bound] at small
  simp only [ofBigEndian, UInt8.toNat_ofNat']
  omega

theorem bigEndian_ofBigEndian (a b c d : UInt8) :
    bigEndian (ofBigEndian a b c d) = [a, b, c, d] := by
  have ha := a.toNat_lt
  have hb := b.toNat_lt
  have hc := c.toNat_lt
  have hd := d.toNat_lt
  simp only [bigEndian, ofBigEndian, List.cons.injEq, and_true]
  refine ⟨?_, ?_, ?_, ?_⟩ <;>
    · apply UInt8.toNat_inj.mp
      simp only [UInt8.toNat_ofNat']
      omega

theorem ofLittleEndian_littleEndian (w : UInt32) :
    ofLittleEndian (UInt8.ofNat w.toNat) (UInt8.ofNat (w.toNat / 256))
      (UInt8.ofNat (w.toNat / 65536)) (UInt8.ofNat (w.toNat / 16777216)) = w := by
  have small := w.toNat_lt
  apply UInt32.toNat_inj.mp
  simp only [ofLittleEndian, UInt8.toNat_ofNat', UInt32.toNat_ofNat']
  omega

theorem littleEndian_ofLittleEndian (a b c d : UInt8) :
    littleEndian (ofLittleEndian a b c d) = [a, b, c, d] := by
  have ha := a.toNat_lt
  have hb := b.toNat_lt
  have hc := c.toNat_lt
  have hd := d.toNat_lt
  simp only [littleEndian, ofLittleEndian, List.cons.injEq, and_true, UInt32.toNat_ofNat']
  refine ⟨?_, ?_, ?_, ?_⟩ <;>
    · apply UInt8.toNat_inj.mp
      simp only [UInt8.toNat_ofNat']
      omega

end Word

end RoundTrip
