-- SUMMARY: The signal packer of Com.c: moving a signal value between the caller's C object and its field in the I-PDU buffer, with update bits.
import Ssas.Com.Config

/-!
# Signal packer

The static functions of `Com.c` that move one signal between the caller's memory and the
I-PDU buffer: `comGetSignalValue` and `comStoreSignalValue` convert between the C object and a
32-bit field value, the `Big`/`Little` helpers go through the codec, and `comSendSignal` and
`comReceiveSignal` add the byte-copy path and the update bit. Each function takes the buffer
of the signal's I-PDU and returns it; the Com layer writes it back.

The source a send reads is a non-null pointer here; `Com_SendSignal` adds the null case.
-/

namespace Ssas

open Com_SignalConfigType

/-- `comStoreSignalValue(signal, sigV, SignalDataPtr)`: cut the field value to `BitSize` bits,
extend the sign for the signed types, and store it as the destination's C object. -/
def comStoreSignalValue (signal : Com_SignalConfigType) (sigV : BitVec 32) (dst : Mem) :
    Std_ReturnType × Mem :=
  let mask := 0xFFFFFFFF#32 >>> (32 - signal.BitSize)
  let sigV := sigV &&& mask
  let signmask := ~~~(mask >>> 1)
  let sigS := if sigV &&& signmask != 0 then sigV ||| signmask else sigV
  match signal.type with
  | .COM_SINT8 => (.E_OK, hostWrite dst 1 sigS.toNat)
  | .COM_UINT8 => (.E_OK, hostWrite dst 1 sigV.toNat)
  | .COM_SINT16 => (.E_OK, hostWrite dst 2 sigS.toNat)
  | .COM_UINT16 => (.E_OK, hostWrite dst 2 sigV.toNat)
  | .COM_SINT32 => (.E_OK, hostWrite dst 4 sigS.toNat)
  | .COM_UINT32 => (.E_OK, hostWrite dst 4 sigV.toNat)
  | _ => (.E_NOT_OK, dst)

/-- `comGetSignalValue(signal, &sigV, SignalDataPtr)`: the source's C object, zero-extended to
32 bits; `none` is `E_NOT_OK`, where `sigV` is left unwritten. -/
def comGetSignalValue (signal : Com_SignalConfigType) (src : Mem) : Option (BitVec 32) :=
  match signal.type with
  | .COM_SINT8 | .COM_UINT8 => some (BitVec.ofNat 32 (hostRead src 1))
  | .COM_SINT16 | .COM_UINT16 => some (BitVec.ofNat 32 (hostRead src 2))
  | .COM_SINT32 | .COM_UINT32 => some (BitVec.ofNat 32 (hostRead src 4))
  | _ => none

/-- `comReceiveSignalBig(signal, SignalDataPtr)`. -/
def comReceiveSignalBig (signal : Com_SignalConfigType) (buf dst : Mem) : Std_ReturnType × Mem :=
  comStoreSignalValue signal
    (Std_BitGetBigEndian buf (signal.bitAt signal.BitPosition) signal.BitSize) dst

/-- `comSendSignalBig(signal, SignalDataPtr)`. -/
def comSendSignalBig (signal : Com_SignalConfigType) (src buf : Mem) : Std_ReturnType × Mem :=
  match comGetSignalValue signal src with
  | some sigV =>
    (.E_OK, Std_BitSetBigEndian buf sigV (signal.bitAt signal.BitPosition) signal.BitSize)
  | none => (.E_NOT_OK, buf)

/-- `comReceiveSignalLittle(signal, SignalDataPtr)`. -/
def comReceiveSignalLittle (signal : Com_SignalConfigType) (buf dst : Mem) :
    Std_ReturnType × Mem :=
  comStoreSignalValue signal
    (Std_BitGetLittleEndian buf (signal.bitAt signal.BitPosition) signal.BitSize) dst

/-- `comSendSignalLittle(signal, SignalDataPtr)`. -/
def comSendSignalLittle (signal : Com_SignalConfigType) (src buf : Mem) : Std_ReturnType × Mem :=
  match comGetSignalValue signal src with
  | some sigV =>
    (.E_OK, Std_BitSetLittleEndian buf sigV (signal.bitAt signal.BitPosition) signal.BitSize)
  | none => (.E_NOT_OK, buf)

/-- The part of `comReceiveSignal` after the update-bit gate: a byte copy out of
`signal->ptr`, or the endian-specific read. -/
def comReceiveSignalData (signal : Com_SignalConfigType) (buf dst : Mem) : Std_ReturnType × Mem :=
  if signal.isByteCopy then (.E_OK, memcpy dst 0 buf signal.ptr.off (signal.BitSize / 8))
  else
    match signal.Endianness with
    | .BIG => comReceiveSignalBig signal buf dst
    | .LITTLE => comReceiveSignalLittle signal buf dst
    | .OPAQUE => (.E_NOT_OK, dst)

/-- `comReceiveSignal(signal, SignalDataPtr)`: the return code, the I-PDU buffer and the
destination. A configured update bit that is clear refuses the read; a set one is cleared
before the data is read. -/
def comReceiveSignal (signal : Com_SignalConfigType) (buf dst : Mem) : Std_ReturnType × Mem × Mem :=
  match signal.UpdateBit with
  | some u =>
    if Std_BitGet buf (signal.bitAt u) then
      let buf := Std_BitClear buf (signal.bitAt u)
      let r := comReceiveSignalData signal buf dst
      (r.1, buf, r.2)
    else (.E_NOT_OK, buf, dst)
  | none =>
    let r := comReceiveSignalData signal buf dst
    (r.1, buf, r.2)

/-- The part of `comSendSignal` before the update bit: a byte copy into `signal->ptr`, or the
endian-specific write. -/
def comSendSignalData (signal : Com_SignalConfigType) (src buf : Mem) : Std_ReturnType × Mem :=
  if signal.isByteCopy then (.E_OK, memcpy buf signal.ptr.off src 0 (signal.BitSize / 8))
  else
    match signal.Endianness with
    | .BIG => comSendSignalBig signal src buf
    | .LITTLE => comSendSignalLittle signal src buf
    | .OPAQUE => (.E_NOT_OK, buf)

/-- `comSendSignal(signal, SignalDataPtr)`: the data write, then the update bit, which is set
whatever the write returned. -/
def comSendSignal (signal : Com_SignalConfigType) (src buf : Mem) : Std_ReturnType × Mem :=
  let r := comSendSignalData signal src buf
  match signal.UpdateBit with
  | some u => (r.1, Std_BitSet r.2 (signal.bitAt u))
  | none => r

-- ---------------------------------------------------------------------------
-- Equations by signal type
-- ---------------------------------------------------------------------------

theorem comGetSignalValue_eq (signal : Com_SignalConfigType) (src : Mem) :
    comGetSignalValue signal src =
      if signal.type.isScalar then some (BitVec.ofNat 32 (hostRead src signal.type.byteWidth))
      else none := by
  unfold comGetSignalValue Com_SignalType.isScalar
  cases signal.type <;> rfl

/-- The word `comStoreSignalValue` stores: the field value under `mask`, with the bits of
`signmask` added for a signed type whose field has its top bit set. -/
def storedWord (signed : Bool) (n : Nat) (sigV : BitVec 32) : BitVec 32 :=
  let mask := 0xFFFFFFFF#32 >>> (32 - n)
  let sigV := sigV &&& mask
  let signmask := ~~~(mask >>> 1)
  if signed && (sigV &&& signmask != 0) then sigV ||| signmask else sigV

/-- `comStoreSignalValue` by type: the stored word, written as the type's C object. -/
theorem comStoreSignalValue_eq (signal : Com_SignalConfigType) (sigV : BitVec 32) (dst : Mem) :
    comStoreSignalValue signal sigV dst =
      if signal.type.isScalar then
        (.E_OK, hostWrite dst signal.type.byteWidth
          (storedWord signal.type.isSigned signal.BitSize sigV).toNat)
      else (.E_NOT_OK, dst) := by
  unfold comStoreSignalValue Com_SignalType.isScalar storedWord
  cases signal.type <;> rfl

/-- The data write of a scalar signal: the source's object, through the codec of its byte
order. -/
theorem comSendSignalData_scalar {signal : Com_SignalConfigType} (src buf : Mem)
    (hcopy : signal.isByteCopy = false) :
    comSendSignalData signal src buf =
      if signal.type.isScalar then
        (.E_OK, writeField buf signal.loc (hostRead src signal.type.byteWidth % 2 ^ 32)
          signal.BitSize)
      else (.E_NOT_OK, buf) := by
  have hE : signal.Endianness ≠ .OPAQUE := by
    intro h; simp [isByteCopy, h] at hcopy
  unfold comSendSignalData comSendSignalBig comSendSignalLittle
  rw [if_neg (by simp [hcopy]), comGetSignalValue_eq]
  cases hT : signal.type.isScalar <;> cases hS : signal.Endianness <;>
    simp_all [loc, Std_BitSetBigEndian, Std_BitSetLittleEndian]

/-- The data read of a signal that is not a byte copy: its field, through the codec of its byte
order, stored by `comStoreSignalValue`. -/
theorem comReceiveSignalData_scalar {signal : Com_SignalConfigType} (buf dst : Mem)
    (hcopy : signal.isByteCopy = false) :
    comReceiveSignalData signal buf dst =
      comStoreSignalValue signal (BitVec.ofNat 32 (readField buf signal.loc signal.BitSize)) dst := by
  have hE : signal.Endianness ≠ .OPAQUE := by
    intro h; simp [isByteCopy, h] at hcopy
  unfold comReceiveSignalData comReceiveSignalBig comReceiveSignalLittle
  rw [if_neg (by simp [hcopy])]
  cases hS : signal.Endianness <;> simp_all [loc, Std_BitGetBigEndian, Std_BitGetLittleEndian]

-- ---------------------------------------------------------------------------
-- Return codes, and what a write leaves alone
-- ---------------------------------------------------------------------------

/-- The data write succeeds exactly for a supported signal. -/
theorem comSendSignalData_fst (signal : Com_SignalConfigType) (src buf : Mem) :
    (comSendSignalData signal src buf).1 = if signal.supported then .E_OK else .E_NOT_OK := by
  cases hc : signal.isByteCopy
  · rw [comSendSignalData_scalar _ _ hc]
    simp only [supported, hc, Bool.false_or]
    split <;> rfl
  · simp [comSendSignalData, supported, hc]

/-- An unsupported signal's data write writes nothing. -/
theorem comSendSignalData_unsupported {signal : Com_SignalConfigType}
    (h : signal.supported = false) (src buf : Mem) :
    comSendSignalData signal src buf = (.E_NOT_OK, buf) := by
  obtain ⟨hc, hs⟩ : signal.isByteCopy = false ∧ signal.type.isScalar = false := by
    simpa [supported] using h
  rw [comSendSignalData_scalar _ _ hc, if_neg (by simp [hs])]

/-- The data read succeeds exactly for a supported signal. -/
theorem comReceiveSignalData_fst (signal : Com_SignalConfigType) (buf dst : Mem) :
    (comReceiveSignalData signal buf dst).1 = if signal.supported then .E_OK else .E_NOT_OK := by
  cases hc : signal.isByteCopy
  · rw [comReceiveSignalData_scalar _ _ hc, comStoreSignalValue_eq]
    simp only [supported, hc, Bool.false_or]
    split <;> rfl
  · simp [comReceiveSignalData, supported, hc]

/-- An unsupported signal's data read leaves the destination alone. -/
theorem comReceiveSignalData_unsupported {signal : Com_SignalConfigType}
    (h : signal.supported = false) (buf dst : Mem) :
    comReceiveSignalData signal buf dst = (.E_NOT_OK, dst) := by
  obtain ⟨hc, hs⟩ : signal.isByteCopy = false ∧ signal.type.isScalar = false := by
    simpa [supported] using h
  rw [comReceiveSignalData_scalar _ _ hc, comStoreSignalValue_eq, if_neg (by simp [hs])]

/-- The data write keeps every bit outside the signal's data. -/
theorem Std_BitGet_comSendSignalData {signal : Com_SignalConfigType} {q : Nat}
    (hq : ¬ signal.inField q) (src buf : Mem) :
    Std_BitGet (comSendSignalData signal src buf).2 q = Std_BitGet buf q := by
  cases hc : signal.isByteCopy
  · have hout : ∀ k < signal.BitSize, signal.loc k ≠ q := fun k hk he =>
      hq (by simp only [inField, hc]; exact ⟨k, hk, he⟩)
    rw [comSendSignalData_scalar _ _ hc]
    split
    · exact Std_BitGet_writeField_of_ne hout
    · rfl
  · simp only [inField, hc, if_true] at hq
    simp only [comSendSignalData, hc, if_true, Std_BitGet]
    rw [memcpy_apply_out (by omega)]

/-- `comSendSignal` returns what its data write returned. -/
theorem comSendSignal_fst (signal : Com_SignalConfigType) (src buf : Mem) :
    (comSendSignal signal src buf).1 = if signal.supported then .E_OK else .E_NOT_OK := by
  unfold comSendSignal
  split <;> exact comSendSignalData_fst _ _ _

/-- Away from the update bit, `comSendSignal` leaves what its data write left. -/
theorem Std_BitGet_comSendSignal {signal : Com_SignalConfigType} {q : Nat}
    (hu : signal.updatePos ≠ some q) (src buf : Mem) :
    Std_BitGet (comSendSignal signal src buf).2 q = Std_BitGet (comSendSignalData signal src buf).2 q := by
  unfold comSendSignal
  split
  · next u hU =>
    simp only [Std_BitSet, Std_BitGet_writeBit]
    rw [if_neg fun h => hu (by simp [updatePos, hU, h])]
  · rfl

/-- A send sets the signal's update bit. -/
theorem Std_BitGet_comSendSignal_updatePos {signal : Com_SignalConfigType} {q : Nat}
    (h : signal.updatePos = some q) (src buf : Mem) :
    Std_BitGet (comSendSignal signal src buf).2 q = true := by
  unfold comSendSignal
  split
  · next u hU =>
    obtain rfl : signal.bitAt u = q := by simpa [updatePos, hU] using h
    simp [Std_BitSet]
  · next hU => simp [updatePos, hU] at h

/-- The data write of a supported signal sets each bit of its data from the source alone. -/
theorem Std_BitGet_comSendSignalData_congr {signal : Com_SignalConfigType} {q : Nat}
    (hs : signal.supported) (hq : signal.inField q) (src buf buf' : Mem) :
    Std_BitGet (comSendSignalData signal src buf).2 q =
      Std_BitGet (comSendSignalData signal src buf').2 q := by
  cases hc : signal.isByteCopy
  · have hK : signal.type.isScalar := by simpa [supported, hc] using hs
    obtain ⟨k, hk, rfl⟩ : ∃ k < signal.BitSize, signal.loc k = q := by simpa [inField, hc] using hq
    rw [comSendSignalData_scalar _ _ hc, comSendSignalData_scalar _ _ hc, if_pos hK, if_pos hK,
      Std_BitGet_writeField_loc signal.loc_inj hk, Std_BitGet_writeField_loc signal.loc_inj hk]
  · simp only [inField, hc, if_true] at hq
    simp only [comSendSignalData, hc, if_true, Std_BitGet]
    rw [memcpy_apply_in (by omega) (by omega), memcpy_apply_in (by omega) (by omega)]

/-- A receive clears the signal's update bit, whether or not it was set, and keeps every other
bit. -/
theorem Std_BitGet_comReceiveSignal (signal : Com_SignalConfigType) (buf dst : Mem) (q : Nat) :
    Std_BitGet (comReceiveSignal signal buf dst).2.1 q =
      if signal.updatePos = some q then false else Std_BitGet buf q := by
  unfold comReceiveSignal
  split
  · next u hU =>
    simp only [updatePos, hU, Option.map_some', Option.some.injEq]
    by_cases hq : signal.bitAt u = q
    · subst hq
      split <;> simp_all [Std_BitClear]
    · split <;> simp [Std_BitClear, hq, Ne.symm hq]
  · next hU => simp [updatePos, hU]

/-- A receive through update bit `q` succeeds exactly when the bit is set and the signal is
supported. -/
theorem comReceiveSignal_fst_of_updatePos {signal : Com_SignalConfigType} {q : Nat}
    (h : signal.updatePos = some q) (buf dst : Mem) :
    (comReceiveSignal signal buf dst).1 =
      if Std_BitGet buf q && signal.supported then .E_OK else .E_NOT_OK := by
  obtain ⟨u, hU, rfl⟩ : ∃ u, signal.UpdateBit = some u ∧ signal.bitAt u = q := by
    simpa [updatePos] using h
  unfold comReceiveSignal
  rw [hU]
  cases hb : Std_BitGet buf (signal.bitAt u) <;> simp [hb, comReceiveSignalData_fst]

/-- The bits a send writes: the data of a supported signal, and its update bit. -/
def WritesBit (signal : Com_SignalConfigType) (q : Nat) : Prop :=
  (signal.supported ∧ signal.inField q) ∨ signal.updatePos = some q

/-- A send keeps every bit it does not write. -/
theorem Std_BitGet_comSendSignal_of_not_writesBit {signal : Com_SignalConfigType} {q : Nat}
    (hq : ¬ WritesBit signal q) (src buf : Mem) :
    Std_BitGet (comSendSignal signal src buf).2 q = Std_BitGet buf q := by
  simp only [WritesBit, not_or, not_and] at hq
  rw [Std_BitGet_comSendSignal hq.2]
  cases hs : signal.supported
  · rw [comSendSignalData_unsupported hs]
  · exact Std_BitGet_comSendSignalData (hq.1 hs) src buf

/-- A send sets every bit it writes from the source alone. -/
theorem Std_BitGet_comSendSignal_congr {signal : Com_SignalConfigType} {q : Nat}
    (hq : WritesBit signal q) (src buf buf' : Mem) :
    Std_BitGet (comSendSignal signal src buf).2 q = Std_BitGet (comSendSignal signal src buf').2 q := by
  by_cases hu : signal.updatePos = some q
  · rw [Std_BitGet_comSendSignal_updatePos hu, Std_BitGet_comSendSignal_updatePos hu]
  · obtain ⟨hs, hf⟩ := hq.resolve_right hu
    rw [Std_BitGet_comSendSignal hu, Std_BitGet_comSendSignal hu,
      Std_BitGet_comSendSignalData_congr hs hf]

-- ---------------------------------------------------------------------------
-- Byte copies
-- ---------------------------------------------------------------------------

/-- The byte holding a byte-copy signal's update bit, when that bit lies outside the signal's
data, is none of the bytes it copies. -/
theorem byteCopy_updateByte_ne {signal : Com_SignalConfigType} (hc : signal.isByteCopy)
    (hu : ∀ q ∈ signal.updatePos, ¬ signal.inField q) {u : Nat} (hU : signal.UpdateBit = some u)
    {k : Nat} (hk : k < signal.BitSize / 8) : signal.ptr.off + k ≠ signal.bitAt u / 8 := by
  have h := hu (signal.bitAt u) (by simp [updatePos, hU])
  simp only [inField, hc, if_true, bitAt] at h
  simp only [bitAt]
  omega

/-- A byte-copy send puts the source's bytes at `signal->ptr`, whatever its `BitPosition`. -/
theorem comSendSignal_byteCopy_apply {signal : Com_SignalConfigType} (hc : signal.isByteCopy)
    (hu : ∀ q ∈ signal.updatePos, ¬ signal.inField q) (src buf : Mem) {k : Nat}
    (hk : k < signal.BitSize / 8) : (comSendSignal signal src buf).2 (signal.ptr.off + k) = src k := by
  have hd : (comSendSignalData signal src buf).2 (signal.ptr.off + k) = src k := by
    simp only [comSendSignalData, hc, if_true]
    rw [memcpy_apply_in (by omega) (by omega), Nat.add_sub_cancel_left, Nat.zero_add]
  unfold comSendSignal
  split
  · next u hU => exact (writeBit_apply_of_ne (byteCopy_updateByte_ne hc hu hU hk)).trans hd
  · exact hd

/-- A byte-copy receive through a set update bit, or without one, copies the bytes at
`signal->ptr` out. -/
theorem comReceiveSignal_byteCopy {signal : Com_SignalConfigType} (hc : signal.isByteCopy)
    (hu : ∀ q ∈ signal.updatePos, ¬ signal.inField q) {buf : Mem}
    (hset : ∀ q ∈ signal.updatePos, Std_BitGet buf q = true) (dst : Mem) :
    (comReceiveSignal signal buf dst).1 = .E_OK ∧
      (comReceiveSignal signal buf dst).2.2 = memcpy dst 0 buf signal.ptr.off (signal.BitSize / 8) := by
  unfold comReceiveSignal
  split
  · next u hU =>
    rw [if_pos (hset _ (by simp [updatePos, hU]))]
    simp only [comReceiveSignalData, hc, if_true, true_and]
    exact memcpy_congr_src fun k hk => writeBit_apply_of_ne (byteCopy_updateByte_ne hc hu hU hk)
  · simp [comReceiveSignalData, hc]

end Ssas
