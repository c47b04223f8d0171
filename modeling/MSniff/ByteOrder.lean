/-
The bytes of machine words: lowest first, as a little-endian processor stores them,
and highest first, as networks carry them. Swapping a word's bytes turns one into the
other.
-/

import Mathlib.Tactic.IntervalCases

namespace MSniff.ByteOrder

def swap (word : UInt32) : UInt32 :=
  (word <<< 24 &&& (0xFF000000 : UInt32)) ||| (word <<< 8 &&& (0x00FF0000 : UInt32)) |||
    (word >>> 8 &&& (0x0000FF00 : UInt32)) ||| (word >>> 24 &&& (0x000000FF : UInt32))

def littleEndian (word : UInt32) : List UInt8 :=
  [word.toUInt8, (word >>> 8).toUInt8, (word >>> 16).toUInt8, (word >>> 24).toUInt8]

def bigEndian (word : UInt32) : List UInt8 :=
  [(word >>> 24).toUInt8, (word >>> 16).toUInt8, (word >>> 8).toUInt8, word.toUInt8]

/-- The word stored in four cells, lowest byte first. -/
def ofLittleEndian (first second third fourth : UInt8) : UInt32 :=
  first.toUInt32 ||| second.toUInt32 <<< 8 ||| third.toUInt32 <<< 16 ||| fourth.toUInt32 <<< 24

theorem littleEndian_swap (word : UInt32) : littleEndian (swap word) = bigEndian word := by
  unfold littleEndian bigEndian
  congr 1
  · apply UInt8.eq_of_toBitVec_eq
    ext place inside
    interval_cases place <;> simp [swap]
  congr 1
  · apply UInt8.eq_of_toBitVec_eq
    ext place inside
    interval_cases place <;> simp [swap]
  congr 1
  · apply UInt8.eq_of_toBitVec_eq
    ext place inside
    interval_cases place <;> simp [swap]
  congr 1
  · apply UInt8.eq_of_toBitVec_eq
    ext place inside
    interval_cases place <;> simp [swap]

/-- A word that the network carries, stored as it comes and swapped, is that word. -/
theorem swap_ofLittleEndian (word : UInt32) :
    swap (ofLittleEndian (word >>> 24).toUInt8 (word >>> 16).toUInt8 (word >>> 8).toUInt8
      word.toUInt8) = word := by
  apply UInt32.eq_of_toBitVec_eq
  ext place inside
  interval_cases place <;> simp [swap, ofLittleEndian, -UInt32.toUInt32_toUInt8]

end MSniff.ByteOrder
