import Mathlib.Algebra.Ring.Nat
import Mathlib.Data.List.Basic

/-!
Fixed-width little-endian naturals. `leBytes` keeps the low bytes of its argument,
as a cast to the fixed-width integer would; the round trip below therefore asks
for an argument that fits the width.
-/

namespace A2aBridge.LittleEndian

def leBytes : Nat → Nat → List UInt8
  | 0, _ => []
  | width + 1, value => UInt8.ofNat value :: leBytes width (value / 256)

def leNat : List UInt8 → Nat
  | [] => 0
  | byte :: rest => byte.toNat + 256 * leNat rest

@[simp] theorem le_bytes_length (width value : Nat) : (leBytes width value).length = width := by
  induction width generalizing value with
  | zero => rfl
  | succ width ih => simp [leBytes, ih]

theorem le_nat_bytes (width value : Nat) (fits : value < 256 ^ width) :
    leNat (leBytes width value) = value := by
  induction width generalizing value with
  | zero =>
    have zero : value = 0 := by simpa using fits
    simp [leBytes, leNat, zero]
  | succ width ih =>
    have quotient : value / 256 < 256 ^ width := by
      apply Nat.div_lt_of_lt_mul
      rwa [Nat.pow_succ, Nat.mul_comm] at fits
    have low : (UInt8.ofNat value).toNat = value % 256 := by simp
    simp only [leBytes, leNat, ih _ quotient, low]
    omega

theorem le_bytes_nat (bytes : List UInt8) : leBytes bytes.length (leNat bytes) = bytes := by
  induction bytes with
  | nil => rfl
  | cons byte rest ih =>
    have bound := byte.toNat_lt
    have low : UInt8.ofNat (byte.toNat + 256 * leNat rest) = byte := by
      apply UInt8.toNat_inj.mp
      simp only [UInt8.toNat_ofNat']
      omega
    have high : (byte.toNat + 256 * leNat rest) / 256 = leNat rest := by omega
    simp [leBytes, leNat, low, high, ih]

theorem le_nat_lt (bytes : List UInt8) : leNat bytes < 256 ^ bytes.length := by
  induction bytes with
  | nil => simp [leNat]
  | cons byte rest ih =>
    have bound := byte.toNat_lt
    simp only [leNat, List.length_cons, Nat.pow_succ]
    omega

end A2aBridge.LittleEndian
