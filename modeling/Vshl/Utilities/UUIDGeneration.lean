/-
  Utilities/UUIDGeneration.lean --- `generateUUID`, over the bytes its random engine
  yields.

  How the engine was seeded (with a seed of 8 bits) is not part of the model: the bytes
  are any bytes.  They are taken in the order in which the groups stand in the text, as
  they are if the chained `<<` is evaluated from left to right; before C++17 the order is
  not specified.
-/
import Mathlib.Data.List.Basic
import Mathlib.Data.PNat.Defs
import Mathlib.Tactic.NormNum

set_option autoImplicit false

namespace Vshl.Utilities

/-- The UUID version (Version 4), shifted into the correct position in the byte. -/
def UUID_VERSION_VALUE : Nat := 4 <<< 4

/-- The UUID variant (Variant 1), shifted into the correct position in the byte. -/
def UUID_VARIANT_VALUE : Nat := 2 <<< 6

/-- Separator used between UUID fields. -/
def SEPARATOR : String := "-"

/-- Number of bits in the replacement value. -/
def MAX_NUM_REPLACEMENT_BITS : Nat := 8

/-- Number of bits in a hex digit. -/
def BITS_IN_HEX_DIGIT : Nat := 4

/-- A byte as two hex digits. -/
def hexByte (byte : Nat) : List Char :=
  [Nat.digitChar (byte / 16), Nat.digitChar (byte % 16)]

/-- The replacement of the most significant bits of the first byte; the shifts
happen in an `int`, the result is a byte again. -/
def replaceBits (byte replacementBits numReplacementBits : Nat) : Nat :=
  let kept := byte &&& (0xff >>> numReplacementBits)
  let replaced :=
    replacementBits &&& (0xff <<< (MAX_NUM_REPLACEMENT_BITS - numReplacementBits))
  kept ||| replaced

/-- `generateHexWithReplacement`; `engine i` is the `i`-th byte of the random
engine from here on.  At least one digit is asked for: otherwise there is no first byte,
and `bytes.at(0)` throws. -/
def generateHexWithReplacement (engine : Nat → UInt8) (numDigits : ℕ+)
    (replacementBits numReplacementBits : Nat) : String :=
  if MAX_NUM_REPLACEMENT_BITS < numReplacementBits then ""
  else if numDigits * BITS_IN_HEX_DIGIT < numReplacementBits then ""
  else
    let generated := (List.range ((numDigits + 1) / 2)).map fun i => (engine i).toNat
    let bytes := generated.modifyHead fun first =>
      replaceBits first replacementBits numReplacementBits
    String.ofList ((bytes.flatMap hexByte).take numDigits)

/-- `generateHex`. -/
def generateHex (engine : Nat → UInt8) (numDigits : ℕ+) : String :=
  generateHexWithReplacement engine numDigits 0 0

/-- `generateUUID`. -/
def generateUUID (engine : Nat → UInt8) : String :=
  generateHex engine 8 ++ SEPARATOR ++
    generateHex (fun i => engine (4 + i)) 4 ++ SEPARATOR ++
    generateHexWithReplacement (fun i => engine (6 + i)) 4 UUID_VERSION_VALUE 4 ++
    SEPARATOR ++
    generateHexWithReplacement (fun i => engine (8 + i)) 4 UUID_VARIANT_VALUE 2 ++
    SEPARATOR ++ generateHex (fun i => engine (10 + i)) 12

theorem length_flatMap_hexByte (bytes : List Nat) :
    (bytes.flatMap hexByte).length = 2 * bytes.length := by
  induction bytes with
  | nil => rfl
  | cons byte rest ih =>
      rw [List.flatMap_cons, List.length_append, ih, List.length_cons]
      simp only [hexByte, List.length_cons, List.length_nil]
      omega

/-- As many digits come out as were asked for. -/
theorem generateHexWithReplacement_length (engine : Nat → UInt8) (numDigits : ℕ+)
    (replacementBits : Nat) {numReplacementBits : Nat}
    (hbits : ¬ MAX_NUM_REPLACEMENT_BITS < numReplacementBits)
    (hroom : ¬ numDigits * BITS_IN_HEX_DIGIT < numReplacementBits) :
    (generateHexWithReplacement engine numDigits replacementBits
      numReplacementBits).length = numDigits := by
  unfold generateHexWithReplacement
  rw [if_neg hbits, if_neg hroom]
  simp only [String.length_ofList, List.length_take, length_flatMap_hexByte,
    List.length_modifyHead, List.length_map, List.length_range]
  omega

/-- Whatever the engine yields, a request id has 36 characters. -/
theorem generateUUID_length (engine : Nat → UInt8) : (generateUUID engine).length = 36 := by
  have hhex : ∀ (engine : Nat → UInt8) (n : ℕ+), (generateHex engine n).length = n :=
    fun engine n => generateHexWithReplacement_length engine n 0 (by decide) (by simp)
  have hversion := generateHexWithReplacement_length (fun i => engine (6 + i)) 4
    UUID_VERSION_VALUE (show ¬ 8 < 4 by decide) (by decide)
  have hvariant := generateHexWithReplacement_length (fun i => engine (8 + i)) 4
    UUID_VARIANT_VALUE (show ¬ 8 < 2 by decide) (by decide)
  have hseparator : SEPARATOR.length = 1 := by decide
  simp only [generateUUID, String.length_append, hhex, hversion, hvariant, hseparator]
  rfl

/-- In particular it is never the empty string that stands for a failure. -/
theorem generateUUID_ne_empty (engine : Nat → UInt8) : generateUUID engine ≠ "" := by
  intro hempty
  have hlength := generateUUID_length engine
  rw [hempty] at hlength
  exact absurd hlength (by decide)

end Vshl.Utilities
