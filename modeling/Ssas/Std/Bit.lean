-- SUMMARY: The Std_Bit codec, modelled from the spec: single bits and little- and big-endian fields of a byte stream, with their round-trip and frame laws.
import Ssas.Std.Types

/-!
# Bit codec

`Std_Bit.h` is not among the sources, so everything here is modelled from the spec (§4.A).
A byte stream is read as a stream of bits: bit `q` is bit `q % 8` of byte `q / 8`, counted
from the least significant bit. A field of `n` bits is given by where each of its value bits
sits in that stream: `leLoc` for the little-endian layout and `beLoc` for the big-endian
(Motorola) one. `readField` and `writeField` work over any such layout; the round trip and the
frame law are proved once for every layout whose positions are distinct.

A byte pointer `ptr + off` addresses bit `pos` at stream bit `8 * off + pos` of `ptr`, in both
numberings, so the Com layer passes a signal's stream position from the base of its I-PDU.
-/

namespace Ssas

/-- Modelled from the spec: `Std_BitGet(data, pos)`, bit `pos` of the stream, LSB-first within
each byte. -/
def Std_BitGet (data : Mem) (pos : Nat) : Bool := (data (pos / 8)).getLsbD (pos % 8)

/-- Bit `j` of one byte set to `b`: `x | (1 << j)` or `x & ~(1 << j)`. -/
def byteWithBit (x : BitVec 8) (j : Nat) (b : Bool) : BitVec 8 :=
  if b then x ||| 1#8 <<< j else x &&& ~~~(1#8 <<< j)

/-- Bit `pos` of the stream set to `b`, every other bit kept. -/
def writeBit (data : Mem) (pos : Nat) (b : Bool) : Mem :=
  Function.update data (pos / 8) (byteWithBit (data (pos / 8)) (pos % 8) b)

/-- Modelled from the spec: `Std_BitSet(data, pos)`. -/
def Std_BitSet (data : Mem) (pos : Nat) : Mem := writeBit data pos true

/-- Modelled from the spec: `Std_BitClear(data, pos)`. -/
def Std_BitClear (data : Mem) (pos : Nat) : Mem := writeBit data pos false

theorem getLsbD_byteWithBit {x : BitVec 8} {i j : Nat} {b : Bool} (hi : i < 8) (hj : j < 8) :
    (byteWithBit x j b).getLsbD i = if i = j then b else x.getLsbD i := by
  unfold byteWithBit
  by_cases hij : i = j
  · subst hij; cases b <;> simp [hi]
  · cases b <;> simp [hi, hij] <;> omega

/-- The one law of single-bit writes: the written bit reads back, every other bit is kept. -/
@[simp] theorem Std_BitGet_writeBit (data : Mem) (pos q : Nat) (b : Bool) :
    Std_BitGet (writeBit data pos b) q = if q = pos then b else Std_BitGet data q := by
  unfold Std_BitGet writeBit
  by_cases hq : q / 8 = pos / 8
  · rw [hq, Function.update_same, getLsbD_byteWithBit (by omega) (by omega)]
    by_cases h : q = pos
    · simp [h]
    · have : q % 8 ≠ pos % 8 := by omega
      simp [h, this]
  · rw [Function.update_noteq hq, if_neg (by rintro rfl; exact hq rfl)]

/-- Bytes other than the one holding the written bit are untouched. -/
theorem writeBit_apply_of_ne {data : Mem} {pos k : Nat} {b : Bool} (h : k ≠ pos / 8) :
    writeBit data pos b k = data k :=
  Function.update_noteq h _ _

/-- A region is determined by its bits. -/
theorem Mem.ext_bits {data data' : Mem} (h : ∀ q, Std_BitGet data q = Std_BitGet data' q) :
    data = data' := by
  funext k
  apply BitVec.eq_of_getLsbD_eq
  intro i
  have := i.isLt
  have hk : (8 * k + i) / 8 = k := by omega
  have hi : (8 * k + i) % 8 = i := by omega
  simpa only [Std_BitGet, hk, hi] using h (8 * k + i)

-- ---------------------------------------------------------------------------
-- Fields over a layout
-- ---------------------------------------------------------------------------

/-- The value of the `n`-bit field whose value bit `k` sits at stream bit `loc k`. -/
def readField (data : Mem) (loc : Nat → Nat) : Nat → Nat
  | 0 => 0
  | n + 1 => readField data loc n + (Std_BitGet data (loc n)).toNat * 2 ^ n

/-- Write the low `n` bits of `v` into the field with layout `loc`, lowest value bit first. -/
def writeField (data : Mem) (loc : Nat → Nat) (v : Nat) : Nat → Mem
  | 0 => data
  | n + 1 => writeBit (writeField data loc v n) (loc n) (v.testBit n)

/-- A layout whose first `n` positions are distinct. -/
def LayoutInj (loc : Nat → Nat) (n : Nat) : Prop := ∀ i < n, ∀ j < n, loc i = loc j → i = j

theorem readField_lt (data : Mem) (loc : Nat → Nat) (n : Nat) : readField data loc n < 2 ^ n := by
  induction n with
  | zero => simp [readField]
  | succ n ih =>
    have : (Std_BitGet data (loc n)).toNat ≤ 1 := Bool.toNat_le _
    have : (Std_BitGet data (loc n)).toNat * 2 ^ n ≤ 2 ^ n := by
      simpa using Nat.mul_le_mul_right (2 ^ n) this
    rw [readField, pow_succ]; omega

/-- A field reads only its own bits. -/
theorem readField_congr {data data' : Mem} {loc : Nat → Nat} {n : Nat}
    (h : ∀ k < n, Std_BitGet data (loc k) = Std_BitGet data' (loc k)) :
    readField data loc n = readField data' loc n := by
  induction n with
  | zero => rfl
  | succ n ih => rw [readField, readField, ih (fun k hk => h k (by omega)), h n (by omega)]

theorem mod_two_pow_succ (v n : Nat) : v % 2 ^ (n + 1) = v % 2 ^ n + (v.testBit n).toNat * 2 ^ n := by
  rw [Nat.mod_pow_succ, Nat.toNat_testBit, Nat.mul_comm]

/-- A field whose bits are those of `v` reads as `v` modulo its range. -/
theorem readField_eq_mod {data : Mem} {loc : Nat → Nat} {n v : Nat}
    (h : ∀ k < n, Std_BitGet data (loc k) = v.testBit k) : readField data loc n = v % 2 ^ n := by
  induction n with
  | zero => simp [readField, Nat.mod_one]
  | succ n ih => rw [readField, ih (fun k hk => h k (by omega)), h n (by omega), mod_two_pow_succ]

/-- Frame law: writing a field keeps every bit outside it. -/
theorem Std_BitGet_writeField_of_ne {data : Mem} {loc : Nat → Nat} {v n q : Nat}
    (h : ∀ k < n, loc k ≠ q) : Std_BitGet (writeField data loc v n) q = Std_BitGet data q := by
  induction n with
  | zero => rfl
  | succ n ih =>
    rw [writeField, Std_BitGet_writeBit, if_neg (h n (by omega)).symm,
      ih (fun k hk => h k (by omega))]

/-- Each bit of a written field holds the corresponding bit of the value. -/
theorem Std_BitGet_writeField_loc {data : Mem} {loc : Nat → Nat} {v n k : Nat}
    (hinj : LayoutInj loc n) (hk : k < n) :
    Std_BitGet (writeField data loc v n) (loc k) = v.testBit k := by
  induction n with
  | zero => omega
  | succ n ih =>
    rw [writeField, Std_BitGet_writeBit]
    by_cases hkn : k = n
    · simp [hkn]
    · rw [if_neg (fun he => hkn (hinj k hk n (by omega) he)),
        ih (fun i hi j hj => hinj i (by omega) j (by omega)) (by omega)]

/-- Round trip: a written field reads back as the value modulo its range. -/
theorem readField_writeField {data : Mem} {loc : Nat → Nat} {v n : Nat} (hinj : LayoutInj loc n) :
    readField (writeField data loc v n) loc n = v % 2 ^ n :=
  readField_eq_mod fun _ hk => Std_BitGet_writeField_loc hinj hk

/-- A written field forgets what it held: two streams that agree outside the field agree
everywhere once the same value is written into it. -/
theorem Std_BitGet_writeField_congr {data data' : Mem} {loc : Nat → Nat} {v n : Nat}
    (hinj : LayoutInj loc n)
    (h : ∀ q, (∀ k < n, loc k ≠ q) → Std_BitGet data q = Std_BitGet data' q) (q : Nat) :
    Std_BitGet (writeField data loc v n) q = Std_BitGet (writeField data' loc v n) q := by
  by_cases hq : ∃ k < n, loc k = q
  · obtain ⟨k, hk, rfl⟩ := hq
    rw [Std_BitGet_writeField_loc hinj hk, Std_BitGet_writeField_loc hinj hk]
  · have hout : ∀ k < n, loc k ≠ q := fun k hk he => hq ⟨k, hk, he⟩
    rw [Std_BitGet_writeField_of_ne hout, Std_BitGet_writeField_of_ne hout, h q hout]

-- ---------------------------------------------------------------------------
-- The two layouts
-- ---------------------------------------------------------------------------

/-- Little-endian layout: value bit `k` at stream bit `pos + k`. -/
def leLoc (pos : Nat) (k : Nat) : Nat := pos + k

/-- The bit at the mirrored place in the same byte: bit `7 - j` for bit `j`. It turns the
LSB-first numbering into the MSB-first one and back. -/
def mirror (q : Nat) : Nat := 8 * (q / 8) + (7 - q % 8)

theorem mirror_mirror (q : Nat) : mirror (mirror q) = q := by
  unfold mirror; omega

/-- Big-endian (Motorola) layout of an `n`-bit field starting at `pos`: the most significant
value bit sits at `pos`, and the following bits go to lower bit numbers of the same byte and
then on from bit 7 of the next byte. In MSB-first numbering the field is the run of `n`
positions from `mirror pos`, most significant value bit first. -/
def beLoc (pos n : Nat) (k : Nat) : Nat := mirror (mirror pos + (n - 1 - k))

theorem leLoc_inj (pos n : Nat) : LayoutInj (leLoc pos) n := by
  intro i _ j _ h; unfold leLoc at h; omega

theorem beLoc_inj (pos n : Nat) : LayoutInj (beLoc pos n) n := by
  intro i hi j hj h
  have := congrArg mirror h
  rw [beLoc, beLoc, mirror_mirror, mirror_mirror] at this
  omega

/-- Modelled from the spec: `Std_BitGetLittleEndian(data, pos, size)`. -/
def Std_BitGetLittleEndian (data : Mem) (pos size : Nat) : BitVec 32 :=
  BitVec.ofNat 32 (readField data (leLoc pos) size)

/-- Modelled from the spec: `Std_BitSetLittleEndian(data, v, pos, size)`. -/
def Std_BitSetLittleEndian (data : Mem) (v : BitVec 32) (pos size : Nat) : Mem :=
  writeField data (leLoc pos) v.toNat size

/-- Modelled from the spec: `Std_BitGetBigEndian(data, pos, size)`. -/
def Std_BitGetBigEndian (data : Mem) (pos size : Nat) : BitVec 32 :=
  BitVec.ofNat 32 (readField data (beLoc pos size) size)

/-- Modelled from the spec: `Std_BitSetBigEndian(data, v, pos, size)`. -/
def Std_BitSetBigEndian (data : Mem) (v : BitVec 32) (pos size : Nat) : Mem :=
  writeField data (beLoc pos size) v.toNat size

/-- The spec's big-endian straddle: `0xABC` in 12 bits at position 13 of four zero bytes
fills bits 5..0 of byte 1 and bits 7..2 of byte 2. -/
example : (List.range 4).map (Std_BitSetBigEndian Mem.zero 0xABC#32 13 12) =
    [0x00#8, 0x2A#8, 0xF0#8, 0x00#8] := by decide

end Ssas
