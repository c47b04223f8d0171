/-
The address type of IPAddress.h, a union of four bytes and the 32-bit word the
little-endian processor reads them as, and its parser, which writes each byte as
soon as it has read it.
-/

import Mathlib.Algebra.Group.Nat.Defs
import Mathlib.Data.Fin.VecNotation

namespace MSniff.Concrete

structure IPAddress where
  bytes : Fin 4 → UInt8

namespace IPAddress

def dword (address : IPAddress) : Nat :=
  (address.bytes 0).toNat + 2 ^ 8 * (address.bytes 1).toNat +
    2 ^ 16 * (address.bytes 2).toNat + 2 ^ 24 * (address.bytes 3).toNat

/-- The test of the word that one place makes and the test of the four bytes that
another makes agree. -/
theorem dword_eq_zero (address : IPAddress) :
    address.dword = 0 ↔ ∀ index, address.bytes index = 0 := by
  simp only [← UInt8.toNat_inj, UInt8.toNat_zero]
  constructor
  · intro zero index
    unfold dword at zero
    match index with
    | 0 => omega
    | 1 => omega
    | 2 => omega
    | 3 => omega
  · intro zero
    simp only [dword, zero, Nat.mul_zero, Nat.add_zero]

def setByte (address : IPAddress) (index : Nat) (value : Nat) : IPAddress :=
  ⟨fun place => if place.val = index then UInt8.ofNat value else address.bytes place⟩

def fromStringLoop (address : IPAddress) (acc dots : Nat) : List UInt8 → Bool × IPAddress
  | [] => if dots ≠ 3 then (false, address) else (true, address.setByte 3 acc)
  | c :: rest =>
      if 48 ≤ c ∧ c ≤ 57 then
        let acc := (acc * 10 + (c.toNat - 48)) % 2 ^ 16
        if acc > 255 then (false, address) else fromStringLoop address acc dots rest
      else if c = 46 then
        if dots = 3 then (false, address)
        else fromStringLoop (address.setByte dots acc) 0 (dots + 1) rest
      else (false, address)

/-- Whether the text was accepted, and the address as the parser leaves it. -/
def fromString (address : IPAddress) (text : List UInt8) : Bool × IPAddress :=
  fromStringLoop address 0 0 text

end IPAddress

end MSniff.Concrete
