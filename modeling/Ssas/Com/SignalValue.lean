-- SUMMARY: Sign extension in comStoreSignalValue: the stored object is the field's BitSize bits read as two's complement or unsigned, and a scalar signal reads back what was sent.
import Ssas.Com.Signal

/-!
# Signal values

What `comStoreSignalValue` stores, for every scalar type, every `BitSize` from 1 to 32 and
every field word: the low `BitSize` bits of the word, read as a `BitSize`-bit two's-complement
number for a signed type and as an unsigned number otherwise, cut to the width of the type
(`signalValue`). The proof goes bit by bit through `mask` and `signmask`. From it, a scalar
signal sent and received through the codec gives back every value its field can hold.
-/

namespace Ssas

open Com_SignalConfigType

/-- The value a signal's field stands for: the low `n` bits of the field word `w`, read as an
`n`-bit two's complement number for a signed type and as an unsigned number otherwise, then cut
to the `8 * b` bits of the destination type. -/
def signalValue (signed : Bool) (n b : Nat) (w : BitVec 32) : BitVec (8 * b) :=
  BitVec.ofInt (8 * b) (if signed then (w.setWidth n).toInt else ((w.setWidth n).toNat : Int))

theorem Com_SignalType.byteWidth_le (t : Com_SignalType) : t.byteWidth ≤ 4 := by
  cases t <;> decide

/-- `0xFFFFFFFF >> (32 - n)` has exactly the low `n` bits set. -/
theorem getLsbD_mask {n i : Nat} (hn : n ≤ 32) :
    (0xFFFFFFFF#32 >>> (32 - n)).getLsbD i = decide (i < n) := by
  rw [BitVec.getLsbD_ushiftRight, BitVec.getLsbD_ofNat,
    show (0xFFFFFFFF : Nat) = 2 ^ 32 - 1 from rfl, Nat.testBit_two_pow_sub_one]
  simp only [Bool.and_self, decide_eq_decide]
  omega

/-- `~(mask >> 1)` has the bits from `n - 1` up set. -/
theorem getLsbD_signmask {n i : Nat} (hn : n ≤ 32) :
    (~~~(0xFFFFFFFF#32 >>> (32 - n) >>> 1)).getLsbD i =
      (decide (i < 32) && !decide (i + 1 < n)) := by
  rw [BitVec.getLsbD_not, BitVec.getLsbD_ushiftRight, getLsbD_mask hn, Nat.add_comm]

/-- The sign test `sigV & signmask` of the masked value is the field's top bit. -/
theorem signTest_eq {n : Nat} {v : BitVec 32} (hn1 : 1 ≤ n) (hn : n ≤ 32) :
    ((v &&& 0xFFFFFFFF#32 >>> (32 - n)) &&& ~~~(0xFFFFFFFF#32 >>> (32 - n) >>> 1) != 0) =
      v.getLsbD (n - 1) := by
  by_cases hb : v.getLsbD (n - 1)
  · rw [hb, bne_iff_ne, ne_eq]
    intro h
    have := congrArg (fun x => BitVec.getLsbD x (n - 1)) h
    simp [getLsbD_mask hn, getLsbD_signmask hn, hb] at this
    omega
  · rw [Bool.not_eq_true] at hb
    rw [hb, bne_eq_false_iff_eq]
    apply BitVec.eq_of_getLsbD_eq
    intro i
    simp only [BitVec.getLsbD_and, getLsbD_mask hn, getLsbD_signmask hn]
    by_cases hi : (i : Nat) = n - 1
    · simp [hi, hb]
    · have : ¬ ((i : Nat) < n ∧ ¬ ((i : Nat) + 1 < n)) := by omega
      simp; omega

/-- The stored word bit by bit: the field's `n` bits, then copies of the field's top bit for a
signed type and zeros otherwise. -/
theorem getLsbD_storedWord {n i : Nat} (signed : Bool) (v : BitVec 32) (hn1 : 1 ≤ n)
    (hn : n ≤ 32) (hi : i < 32) :
    (storedWord signed n v).getLsbD i =
      if i < n then v.getLsbD i else (signed && v.getLsbD (n - 1)) := by
  unfold storedWord
  simp only
  rw [signTest_eq hn1 hn]
  by_cases h : i < n <;> cases signed <;> cases hb : v.getLsbD (n - 1) <;>
    simp [h, hi, getLsbD_mask hn, getLsbD_signmask hn]
  · intro h'
    obtain rfl : i = n - 1 := by omega
    exact hb
  · omega

/-- The field's value bit by bit, in the same shape. -/
theorem getLsbD_signalValue {signed : Bool} {n b i : Nat} (w : BitVec 32) (hn1 : 1 ≤ n)
    (hi : i < 8 * b) :
    (signalValue signed n b w).getLsbD i =
      if i < n then w.getLsbD i else (signed && w.getLsbD (n - 1)) := by
  unfold signalValue
  cases signed
  · simp only [Bool.false_eq_true, if_false, BitVec.ofInt_natCast, BitVec.ofNat_toNat,
      BitVec.getLsbD_setWidth, hi, decide_True, Bool.true_and, Bool.false_and]
    by_cases h : i < n <;> simp [h]
  · show (BitVec.signExtend (8 * b) (w.setWidth n)).getLsbD i = _
    rw [BitVec.getLsbD_signExtend, BitVec.msb_eq_getLsbD_last, BitVec.getLsbD_setWidth,
      BitVec.getLsbD_setWidth]
    by_cases h : i < n <;> simp [h, hi]
    exact fun _ => hn1

/-- `comStoreSignalValue` on any word whose low `BitSize` bits are those of `w` stores the
value of `w`'s field. -/
theorem comStoreSignalValue_low_bits {signal : Com_SignalConfigType} (hK : signal.type.isScalar)
    (hn1 : 1 ≤ signal.BitSize) (hn : signal.BitSize ≤ 32) (v w : BitVec 32)
    (hvw : ∀ i < signal.BitSize, v.getLsbD i = w.getLsbD i) (dst : Mem) :
    comStoreSignalValue signal v dst =
      (.E_OK, hostWrite dst signal.type.byteWidth
        (signalValue signal.type.isSigned signal.BitSize signal.type.byteWidth w).toNat) := by
  rw [comStoreSignalValue_eq, if_pos hK]
  have hb := signal.type.byteWidth_le
  have key : (storedWord signal.type.isSigned signal.BitSize v).setWidth (8 * signal.type.byteWidth)
      = signalValue signal.type.isSigned signal.BitSize signal.type.byteWidth w := by
    apply BitVec.eq_of_getLsbD_eq
    intro i
    have hi := i.isLt
    rw [BitVec.getLsbD_setWidth, getLsbD_storedWord _ _ hn1 hn (by omega),
      getLsbD_signalValue w hn1 hi]
    by_cases h : (i : Nat) < signal.BitSize
    · simp [h, hi, hvw i h]
    · simp [h, hi, hvw (signal.BitSize - 1) (by omega)]
  have h256 : 256 ^ signal.type.byteWidth = 2 ^ (8 * signal.type.byteWidth) := by
    rw [pow_mul]; rfl
  rw [← hostWrite_mod dst _ (storedWord _ _ v).toNat, h256, ← BitVec.toNat_setWidth, key]

/-- An object of the destination type's width, written, reads back unchanged. -/
theorem hostRead_hostWrite_toNat (m : Mem) {b : Nat} (x : BitVec (8 * b)) :
    hostRead (hostWrite m b x.toNat) b = x.toNat := by
  rw [hostRead_hostWrite, Nat.mod_eq_of_lt (by simpa [pow_mul] using x.isLt)]

-- ---------------------------------------------------------------------------
-- Round trip
-- ---------------------------------------------------------------------------

/-- The object `x` of `b` bytes fits an `n`-bit field: its C value is in the signed range of
`n` bits for a signed type, and below `2 ^ n` for an unsigned one. -/
def FitsField (signed : Bool) (n b x : Nat) : Prop :=
  if signed then
    -2 ^ (n - 1) ≤ (BitVec.ofNat (8 * b) x).toInt ∧ (BitVec.ofNat (8 * b) x).toInt < 2 ^ (n - 1)
  else x < 2 ^ n

/-- A number between `2 ^ m - 2 ^ k` and `2 ^ m` has every bit from `k` to `m - 1` set. -/
theorem testBit_of_top_run {m k x j : Nat} (hk : k ≤ m) (hx1 : 2 ^ m - 2 ^ k ≤ x)
    (hx2 : x < 2 ^ m) (hj1 : k ≤ j) (hj2 : j < m) : x.testBit j = true := by
  have hpow : 2 ^ (m - k) * 2 ^ k = 2 ^ m := by rw [← pow_add, Nat.sub_add_cancel hk]
  have hpos : 1 ≤ 2 ^ (m - k) := Nat.one_le_two_pow
  have hq : x / 2 ^ k = 2 ^ (m - k) - 1 := by
    apply Nat.div_eq_of_lt_le
    · rw [Nat.sub_mul, one_mul, hpow]; exact hx1
    · rw [Nat.sub_add_cancel hpos, hpow]; exact hx2
  have hs : x.testBit j = (x >>> k).testBit (j - k) := by
    rw [Nat.testBit_shiftRight, Nat.add_sub_cancel' hj1]
  rw [hs, Nat.shiftRight_eq_div_pow, hq, Nat.testBit_two_pow_sub_one, decide_eq_true_eq]
  omega

/-- An object that fits the field keeps every bit above the field equal to the field's top bit
(a signed type) or zero (an unsigned one). -/
theorem testBit_of_fitsField {signed : Bool} {n b x i : Nat} (hn1 : 1 ≤ n) (hx : x < 2 ^ (8 * b))
    (hfit : FitsField signed n b x) (hi1 : n ≤ i) (hi2 : i < 8 * b) :
    x.testBit i = (signed && x.testBit (n - 1)) := by
  unfold FitsField at hfit
  cases signed
  · exact Nat.testBit_lt_two_pow (lt_of_lt_of_le hfit (Nat.pow_le_pow_right (by omega) hi1))
  · simp only [if_true, BitVec.toInt_eq_toNat_cond, BitVec.toNat_ofNat, Nat.mod_eq_of_lt hx,
      Bool.true_and] at hfit
    have hle : 2 ^ (n - 1) ≤ 2 ^ i := Nat.pow_le_pow_right (by omega) (by omega)
    split at hfit
    · have hlt : x < 2 ^ (n - 1) := by exact_mod_cast hfit.2
      rw [Nat.testBit_lt_two_pow (lt_of_lt_of_le hlt hle), Nat.testBit_lt_two_pow hlt]
      rfl
    · have h1 : ((2 ^ (8 * b) : Nat) : Int) ≤ (x : Int) + ((2 ^ (n - 1) : Nat) : Int) := by
        have := hfit.1; push_cast at this ⊢; omega
      have hge : 2 ^ (8 * b) - 2 ^ (n - 1) ≤ x := by omega
      rw [testBit_of_top_run (by omega) hge hx (by omega) hi2,
        testBit_of_top_run (by omega) hge hx le_rfl (by omega)]
      rfl

/-- The field's value of an object that fits the field is the object itself. -/
theorem signalValue_of_fitsField {signed : Bool} {n b x : Nat} (hn1 : 1 ≤ n) (hb : b ≤ 4)
    (hx : x < 2 ^ (8 * b)) (hfit : FitsField signed n b x) :
    signalValue signed n b (BitVec.ofNat 32 x) = BitVec.ofNat (8 * b) x := by
  apply BitVec.eq_of_getLsbD_eq
  intro i
  have hi := i.isLt
  rw [getLsbD_signalValue _ hn1 hi, BitVec.getLsbD_ofNat, BitVec.getLsbD_ofNat,
    BitVec.getLsbD_ofNat]
  by_cases h : (i : Nat) < n
  · simp [h, hi, show (i : Nat) < 32 by omega]
  · simp only [h, if_false, hi, decide_True, Bool.true_and, show n - 1 < 32 by omega]
    rw [testBit_of_fitsField hn1 hx hfit (by omega) hi]

/-- Codec round trip of a scalar signal: the object the send read is the object the receive
stores, whenever it fits the field. -/
theorem comReceiveSignalData_comSendSignalData {signal : Com_SignalConfigType}
    (hK : signal.type.isScalar) (hcopy : signal.isByteCopy = false) (hn1 : 1 ≤ signal.BitSize)
    (hn : signal.BitSize ≤ 32) (src buf dst : Mem)
    (hfit : FitsField signal.type.isSigned signal.BitSize signal.type.byteWidth
      (hostRead src signal.type.byteWidth)) :
    comReceiveSignalData signal (comSendSignalData signal src buf).2 dst =
      (.E_OK, hostWrite dst signal.type.byteWidth (hostRead src signal.type.byteWidth)) := by
  have hb := signal.type.byteWidth_le
  have hx : hostRead src signal.type.byteWidth < 2 ^ (8 * signal.type.byteWidth) := by
    rw [pow_mul]; exact hostRead_lt src _
  have hx32 : hostRead src signal.type.byteWidth % 2 ^ 32 = hostRead src signal.type.byteWidth :=
    Nat.mod_eq_of_lt (lt_of_lt_of_le hx (Nat.pow_le_pow_right (by omega) (by omega)))
  have hvw : ∀ i < signal.BitSize,
      (BitVec.ofNat 32 (hostRead src signal.type.byteWidth % 2 ^ signal.BitSize)).getLsbD i =
        (BitVec.ofNat 32 (hostRead src signal.type.byteWidth)).getLsbD i := by
    intro i hi
    simp [BitVec.getLsbD_ofNat, Nat.testBit_mod_two_pow, hi]
  rw [comSendSignalData_scalar _ _ hcopy, if_pos hK, comReceiveSignalData_scalar _ _ hcopy,
    readField_writeField signal.loc_inj, hx32, comStoreSignalValue_low_bits hK hn1 hn _ _ hvw,
    signalValue_of_fitsField hn1 hb hx hfit, BitVec.toNat_ofNat, Nat.mod_eq_of_lt hx]

/-- Round trip through `comSendSignal` and `comReceiveSignal` of a scalar signal whose update
bit, if it has one, lies outside its field: the set update bit lets the read through, and its
clearing does not touch the field. -/
theorem comReceiveSignal_comSendSignal {signal : Com_SignalConfigType}
    (hK : signal.type.isScalar) (hcopy : signal.isByteCopy = false) (hn1 : 1 ≤ signal.BitSize)
    (hn : signal.BitSize ≤ 32)
    (hu : ∀ u, signal.UpdateBit = some u → ¬ signal.inField (signal.bitAt u)) (src buf dst : Mem)
    (hfit : FitsField signal.type.isSigned signal.BitSize signal.type.byteWidth
      (hostRead src signal.type.byteWidth)) :
    let r := comReceiveSignal signal (comSendSignal signal src buf).2 dst
    r.1 = .E_OK ∧ r.2.2 = hostWrite dst signal.type.byteWidth (hostRead src signal.type.byteWidth) := by
  have hrt := comReceiveSignalData_comSendSignalData hK hcopy hn1 hn src buf dst hfit
  unfold comSendSignal comReceiveSignal
  cases hU : signal.UpdateBit with
  | none => simp [hrt]
  | some u =>
    have hout : ∀ k < signal.BitSize, signal.loc k ≠ signal.bitAt u := by
      intro k hk he
      exact hu u hU (by simp only [inField, hcopy]; exact ⟨k, hk, he⟩)
    have hdata : comReceiveSignalData signal
        (Std_BitClear (Std_BitSet (comSendSignalData signal src buf).2 (signal.bitAt u))
          (signal.bitAt u)) dst =
        comReceiveSignalData signal (comSendSignalData signal src buf).2 dst := by
      rw [comReceiveSignalData_scalar _ _ hcopy, comReceiveSignalData_scalar _ _ hcopy,
        readField_congr]
      intro k hk
      simp [Std_BitClear, Std_BitSet, hout k hk]
    have hset : Std_BitGet (Std_BitSet (comSendSignalData signal src buf).2 (signal.bitAt u))
        (signal.bitAt u) = true := by simp [Std_BitSet]
    simp only [hset, if_true, hdata, hrt, and_self]

/-- The law of sign extension for one signal: any word that agrees with the word
`comGetSignalValue` read from an object in its low `BitSize` bits makes `comStoreSignalValue`
store the value of that object's field, which the destination then reads back as; and an
object that fits the field comes back unchanged, as the destination reads it, through the
codec, and through `comSendSignal` and `comReceiveSignal` when the update bit lies outside the
field. -/
def SignExtensionLaw (signal : Com_SignalConfigType) : Prop :=
  (∀ (src dst : Mem) (w v : BitVec 32), comGetSignalValue signal src = some w →
    v.toNat % 2 ^ signal.BitSize = w.toNat % 2 ^ signal.BitSize →
    comStoreSignalValue signal v dst =
        (.E_OK, hostWrite dst signal.type.byteWidth
          (signalValue signal.type.isSigned signal.BitSize signal.type.byteWidth w).toNat) ∧
      hostRead (comStoreSignalValue signal v dst).2 signal.type.byteWidth =
        (signalValue signal.type.isSigned signal.BitSize signal.type.byteWidth w).toNat) ∧
  (∀ src buf dst : Mem,
    FitsField signal.type.isSigned signal.BitSize signal.type.byteWidth
      (hostRead src signal.type.byteWidth) →
    comReceiveSignalData signal (comSendSignalData signal src buf).2 dst =
      (.E_OK, hostWrite dst signal.type.byteWidth (hostRead src signal.type.byteWidth)) ∧
    hostRead (comReceiveSignalData signal (comSendSignalData signal src buf).2 dst).2
        signal.type.byteWidth = hostRead src signal.type.byteWidth ∧
    ((∀ u, signal.UpdateBit = some u → ¬ signal.inField (signal.bitAt u)) →
      let r := comReceiveSignal signal (comSendSignal signal src buf).2 dst
      r.1 = .E_OK ∧
        r.2.2 = hostWrite dst signal.type.byteWidth (hostRead src signal.type.byteWidth) ∧
        hostRead r.2.2 signal.type.byteWidth = hostRead src signal.type.byteWidth))

/-- Every scalar signal in either byte order with `BitSize` from 1 to 32 obeys the law. -/
theorem comStoreSignalValue_signalValue {signal : Com_SignalConfigType}
    (hK : signal.type.isScalar) (hE : signal.Endianness = .BIG ∨ signal.Endianness = .LITTLE)
    (hn1 : 1 ≤ signal.BitSize) (hn : signal.BitSize ≤ 32) : SignExtensionLaw signal := by
  have hcopy : signal.isByteCopy = false := by
    have : signal.type ≠ .COM_UINT8N := by
      intro h; simp [h, Com_SignalType.isScalar, Com_SignalType.byteWidth] at hK
    rcases hE with hE | hE <;> simp [isByteCopy, hE, this]
  refine ⟨fun src dst w v _ hv => ?_, fun src buf dst hfit => ?_⟩
  · have hst := comStoreSignalValue_low_bits hK hn1 hn v w (fun i hi => by
      simpa [Nat.testBit_mod_two_pow, hi] using congrArg (Nat.testBit · i) hv) dst
    exact ⟨hst, by rw [hst, hostRead_hostWrite_toNat]⟩
  · have hrt := comReceiveSignalData_comSendSignalData hK hcopy hn1 hn src buf dst hfit
    refine ⟨hrt, by rw [hrt, hostRead_hostWrite_hostRead], fun hu => ?_⟩
    obtain ⟨h1, h2⟩ := comReceiveSignal_comSendSignal hK hcopy hn1 hn hu src buf dst hfit
    exact ⟨h1, h2, by rw [h2, hostRead_hostWrite_hostRead]⟩

/-- A signed 8-bit signal with a 4-bit little-endian field meets the conditions. -/
theorem comStoreSignalValue_signalValue_nibble :
    let signal : Com_SignalConfigType := ⟨.COM_SINT8, .LITTLE, 0, 4, ⟨0, 0⟩, 0, none⟩
    (signal.type.isScalar ∧ (signal.Endianness = .BIG ∨ signal.Endianness = .LITTLE) ∧
      1 ≤ signal.BitSize ∧ signal.BitSize ≤ 32) ∧ SignExtensionLaw signal :=
  ⟨by decide, comStoreSignalValue_signalValue rfl (.inr rfl) (by decide) (by decide)⟩

/-- The spec's signed narrow field: `-1` sent through a signed 4-bit field in a 16-bit slot
comes back as `-1`, and the slot's other 12 bits keep their value. -/
example :
    let signal : Com_SignalConfigType := ⟨.COM_SINT16, .LITTLE, 4, 4, ⟨0, 0⟩, 0, some 15⟩
    let slot : Mem := hostWrite Mem.zero 2 0x7A05
    let sent := (comSendSignal signal (hostWrite Mem.zero 2 0xFFFF) slot).2
    hostRead (comReceiveSignal signal sent Mem.zero).2.2 2 = 0xFFFF ∧
      ∀ q < 15, (q < 4 ∨ 8 ≤ q) → Std_BitGet sent q = Std_BitGet slot q := by
  decide

end Ssas
