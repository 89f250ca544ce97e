-- SUMMARY: C-level data under the Com layer: return codes, byte memory, memcpy, and integer objects in host byte order.
import Mathlib.Data.BitVec
import Mathlib.Tactic.Ring

/-!
# Std types and byte memory

`Std_ReturnType` of `Std_Types.h`, and the view of C memory every later module uses. A region
of bytes is seen from the pointer it is addressed through: byte `k` is the byte at offset `k`.
A C integer object of `n` bytes is read and written in the byte order of the host the stack
is built for, which is little-endian, and `memcpy` copies a window of one region into another.
-/

namespace Ssas

/-- `Std_ReturnType` of `Std_Types.h`. -/
inductive Std_ReturnType where
  | E_OK
  | E_NOT_OK
  deriving DecidableEq, Repr

/-- A byte region seen from a pointer into it: byte `k` is the byte at offset `k`. -/
abbrev Mem := Nat → BitVec 8

/-- The region of all-zero bytes: the static storage of a C object before it is written. -/
def Mem.zero : Mem := fun _ => 0

/-- `memcpy(dst + d, src + s, n)`. -/
def memcpy (dst : Mem) (d : Nat) (src : Mem) (s n : Nat) : Mem :=
  fun k => if d ≤ k ∧ k < d + n then src (s + (k - d)) else dst k

theorem memcpy_apply_in {dst src : Mem} {d s n k : Nat} (h1 : d ≤ k) (h2 : k < d + n) :
    memcpy dst d src s n k = src (s + (k - d)) := by
  simp [memcpy, h1, h2]

theorem memcpy_apply_out {dst src : Mem} {d s n k : Nat} (h : k < d ∨ d + n ≤ k) :
    memcpy dst d src s n k = dst k := by
  unfold memcpy; rw [if_neg]; omega

/-- A copy reads only its window of the source. -/
theorem memcpy_congr_src {dst src src' : Mem} {d s s' n : Nat}
    (h : ∀ k < n, src (s + k) = src' (s' + k)) : memcpy dst d src s n = memcpy dst d src' s' n := by
  funext k
  unfold memcpy
  split
  · exact h _ (by omega)
  · rfl

/-- The first `n` bytes of a region, as the list a caller hands over. -/
def Mem.take (m : Mem) (n : Nat) : List (BitVec 8) := (List.range n).map m

@[simp] theorem Mem.length_take (m : Mem) (n : Nat) : (m.take n).length = n := by
  simp [Mem.take]

-- ---------------------------------------------------------------------------
-- Integer objects in host byte order
-- ---------------------------------------------------------------------------

/-- The value of the `n`-byte unsigned integer object at `m`, least significant byte first:
`*(uint8_t *)m`, `*(uint16_t *)m` and `*(uint32_t *)m` for `n = 1, 2, 4`. -/
def hostRead (m : Mem) : Nat → Nat
  | 0 => 0
  | n + 1 => hostRead m n + 256 ^ n * (m n).toNat

/-- Store the low `8 * n` bits of `v` as the `n`-byte integer object at `m`. -/
def hostWrite (m : Mem) (n v : Nat) : Mem :=
  fun k => if k < n then BitVec.ofNat 8 (v / 256 ^ k) else m k

@[simp] theorem hostRead_zero (m : Mem) : hostRead m 0 = 0 := rfl

theorem hostRead_succ (m : Mem) (n : Nat) :
    hostRead m (n + 1) = hostRead m n + 256 ^ n * (m n).toNat := rfl

theorem hostRead_lt (m : Mem) (n : Nat) : hostRead m n < 256 ^ n := by
  induction n with
  | zero => simp
  | succ n ih =>
    have hb : 256 ^ n * (m n).toNat ≤ 256 ^ n * 255 := Nat.mul_le_mul_left _ (by omega)
    rw [hostRead_succ, pow_succ]
    omega

/-- Only the first `n` bytes are read. -/
theorem hostRead_congr {m m' : Mem} {n : Nat} (h : ∀ k < n, m k = m' k) :
    hostRead m n = hostRead m' n := by
  induction n with
  | zero => rfl
  | succ n ih =>
    rw [hostRead_succ, hostRead_succ, ih (fun k hk => h k (by omega)), h n (by omega)]

theorem hostWrite_apply_lt {m : Mem} {n v k : Nat} (h : k < n) :
    hostWrite m n v k = BitVec.ofNat 8 (v / 256 ^ k) := if_pos h

theorem hostWrite_apply_ge {m : Mem} {n v k : Nat} (h : n ≤ k) : hostWrite m n v k = m k :=
  if_neg (by omega)

/-- Reading back an object just written gives the written value modulo the object's range. -/
theorem hostRead_hostWrite (m : Mem) (n v : Nat) : hostRead (hostWrite m n v) n = v % 256 ^ n := by
  suffices h : ∀ j ≤ n, hostRead (hostWrite m n v) j = v % 256 ^ j from h n le_rfl
  intro j hj
  induction j with
  | zero => simp [Nat.mod_one]
  | succ j ih =>
    rw [hostRead_succ, ih (by omega), hostWrite_apply_lt (by omega), BitVec.toNat_ofNat]
    exact Nat.mod_pow_succ.symm

/-- An object read from memory and written back reads back unchanged. -/
theorem hostRead_hostWrite_hostRead (m src : Mem) (n : Nat) :
    hostRead (hostWrite m n (hostRead src n)) n = hostRead src n := by
  rw [hostRead_hostWrite, Nat.mod_eq_of_lt (hostRead_lt src n)]

/-- A written object depends on the value only modulo its range. -/
theorem hostWrite_mod (m : Mem) (n v : Nat) : hostWrite m n (v % 256 ^ n) = hostWrite m n v := by
  funext k
  by_cases hk : k < n
  · rw [hostWrite_apply_lt hk, hostWrite_apply_lt hk]
    apply BitVec.eq_of_toNat_eq
    show v % 256 ^ n / 256 ^ k % 256 = v / 256 ^ k % 256
    have h : 256 ^ n = 256 ^ k * 256 ^ (n - k) := by rw [← pow_add]; congr 1; omega
    rw [h, Nat.mod_mul_right_div_self, Nat.mod_mod_of_dvd _ (dvd_pow_self 256 (by omega))]
  · rw [hostWrite_apply_ge (by omega), hostWrite_apply_ge (by omega)]

end Ssas
