/-
  Utilities/UUIDText.lean --- the text that `generateUUID` makes: its form, and how much of
  it is random.
-/
import Vshl.Utilities.UUIDGeneration

set_option autoImplicit false

namespace Vshl.Utilities

/-! ## Hex digits -/

/-- A lower-case hex digit. -/
def IsHexDigit (c : Char) : Prop := c ∈ "0123456789abcdef".toList

theorem digitChar_isHexDigit : ∀ n < 16, IsHexDigit (Nat.digitChar n) := by
  unfold IsHexDigit
  decide

theorem digitChar_inj : ∀ m < 16, ∀ n < 16, Nat.digitChar m = Nat.digitChar n → m = n := by
  decide

theorem hexByte_isHexDigit {byte : Nat} (h : byte < 256) : ∀ c ∈ hexByte byte, IsHexDigit c := by
  intro c hc
  simp only [hexByte, List.mem_cons, List.not_mem_nil, or_false] at hc
  rcases hc with rfl | rfl
  · exact digitChar_isHexDigit _ (by omega)
  · exact digitChar_isHexDigit _ (by omega)

/-- The two digits of a byte say which it is. -/
theorem hexByte_inj {byte byte' : Nat} (h : byte < 256) (h' : byte' < 256)
    (heq : hexByte byte = hexByte byte') : byte = byte' := by
  simp only [hexByte, List.cons.injEq, and_true] at heq
  have hhigh := digitChar_inj (byte / 16) (by omega) (byte' / 16) (by omega) heq.1
  have hlow := digitChar_inj (byte % 16) (by omega) (byte' % 16) (by omega) heq.2
  omega

/-- The digits of a list of bytes. -/
def hexText (bytes : List Nat) : List Char := bytes.flatMap hexByte

theorem hexText_length (bytes : List Nat) : (hexText bytes).length = 2 * bytes.length :=
  length_flatMap_hexByte bytes

theorem hexText_isHexDigit {bytes : List Nat} (h : ∀ byte ∈ bytes, byte < 256) :
    ∀ c ∈ hexText bytes, IsHexDigit c := by
  intro c hc
  obtain ⟨byte, hbyte, hmem⟩ := List.mem_flatMap.mp hc
  exact hexByte_isHexDigit (h byte hbyte) c hmem

theorem hexText_inj {bytes bytes' : List Nat} (h : ∀ byte ∈ bytes, byte < 256)
    (h' : ∀ byte ∈ bytes', byte < 256) (hlength : bytes.length = bytes'.length)
    (heq : hexText bytes = hexText bytes') : bytes = bytes' := by
  induction bytes generalizing bytes' with
  | nil =>
      cases bytes' with
      | nil => rfl
      | cons byte' rest' => exact absurd hlength (by simp)
  | cons byte rest ih =>
      cases bytes' with
      | nil => exact absurd hlength (by simp)
      | cons byte' rest' =>
          obtain ⟨hbyte, hrest⟩ := List.forall_mem_cons.mp h
          obtain ⟨hbyte', hrest'⟩ := List.forall_mem_cons.mp h'
          have happend : hexByte byte ++ hexText rest = hexByte byte' ++ hexText rest' := heq
          obtain ⟨hfirst, hothers⟩ := List.append_inj happend rfl
          have hlengths : rest.length = rest'.length := by
            simpa only [List.length_cons, Nat.add_right_cancel_iff] using hlength
          rw [hexByte_inj hbyte hbyte' hfirst, ih hrest hrest' hlengths hothers]

/-! ## Groups of digits -/

/-- The first byte of the version group: the version, and four bits of the engine. -/
theorem replaceBits_version :
    ∀ byte < 256, replaceBits byte UUID_VERSION_VALUE 4 = 64 + byte % 16 := by
  decide +kernel

/-- The first byte of the variant group: the variant, and six bits of the engine. -/
theorem replaceBits_variant :
    ∀ byte < 256, replaceBits byte UUID_VARIANT_VALUE 2 = 128 + byte % 64 := by
  decide +kernel

/-- Without replacement bits the byte stays. -/
theorem replaceBits_none : ∀ byte < 256, replaceBits byte 0 0 = byte := by
  decide +kernel

/-- The bytes of the engine from a place on. -/
def bytesFrom (engine : Nat → UInt8) (start count : Nat) : List Nat :=
  (List.range count).map fun i => (engine (start + i)).toNat

theorem bytesFrom_lt (engine : Nat → UInt8) (start count : Nat) :
    ∀ byte ∈ bytesFrom engine start count, byte < 256 := by
  intro byte hbyte
  obtain ⟨i, -, rfl⟩ := List.mem_map.mp hbyte
  exact (engine (start + i)).toNat_lt

theorem bytesFrom_eq_iff (engine engine' : Nat → UInt8) (start count : Nat) :
    bytesFrom engine start count = bytesFrom engine' start count ↔
      ∀ i < count, (engine (start + i)).toNat = (engine' (start + i)).toNat := by
  unfold bytesFrom
  rw [List.map_inj_left]
  simp only [List.mem_range]

theorem bytesFrom_succ (engine : Nat → UInt8) (start count : Nat) :
    bytesFrom engine start (count + 1) =
      (engine start).toNat :: bytesFrom engine (start + 1) count := by
  unfold bytesFrom
  rw [List.range_succ_eq_map, List.map_cons, List.map_map]
  refine congrArg (_ :: ·) (List.map_congr_left fun i _ => ?_)
  simp only [Function.comp_apply, Nat.succ_eq_add_one, Nat.add_assoc, Nat.add_comm 1 i]

/-- An even number of digits shows whole bytes, the first of them with its bits replaced. -/
theorem generateHexWithReplacement_toList (engine : Nat → UInt8) (start count : Nat)
    {numDigits : ℕ+} (hdigits : (numDigits : Nat) = 2 * (count + 1)) (replacementBits : Nat)
    {numReplacementBits : Nat} (hbits : ¬ MAX_NUM_REPLACEMENT_BITS < numReplacementBits)
    (hroom : ¬ numDigits * BITS_IN_HEX_DIGIT < numReplacementBits) :
    (generateHexWithReplacement (fun i => engine (start + i)) numDigits replacementBits
        numReplacementBits).toList =
      hexText (replaceBits (engine start).toNat replacementBits numReplacementBits ::
        bytesFrom engine (start + 1) count) := by
  have hhalf : ((numDigits : Nat) + 1) / 2 = count + 1 := by omega
  have hbytes : (List.range (count + 1)).map (fun i => (engine (start + i)).toNat) =
      (engine start).toNat :: bytesFrom engine (start + 1) count :=
    bytesFrom_succ engine start count
  unfold generateHexWithReplacement
  rw [if_neg hbits, if_neg hroom, hhalf, hbytes]
  simp only [List.modifyHead_cons, String.toList_ofList]
  refine List.take_of_length_le (Nat.le_of_eq ?_)
  rw [length_flatMap_hexByte, List.length_cons, bytesFrom, List.length_map, List.length_range,
    hdigits]

theorem generateHex_toList (engine : Nat → UInt8) (start count : Nat) {numDigits : ℕ+}
    (hdigits : (numDigits : Nat) = 2 * (count + 1)) :
    (generateHex (fun i => engine (start + i)) numDigits).toList =
      hexText (bytesFrom engine start (count + 1)) := by
  rw [bytesFrom_succ, generateHex, generateHexWithReplacement_toList engine start count hdigits 0
    (by decide) (by simp), replaceBits_none _ (engine start).toNat_lt]

/-! ## The text -/

/-- Five groups of digits with separators between them. -/
def separated (first second third fourth fifth : List Char) : List Char :=
  first ++ '-' :: (second ++ '-' :: (third ++ '-' :: (fourth ++ '-' :: fifth)))

/-- The form of a UUID of version 4 and variant 1. -/
inductive Canonical (text : String) : Prop where
  | groups (first second third fourth fifth : List Char)
      (htext : text.toList = separated first second third fourth fifth)
      (hlengths : [first, second, third, fourth, fifth].map List.length = [8, 4, 4, 4, 12])
      (hdigits : ∀ group ∈ [first, second, third, fourth, fifth], ∀ c ∈ group, IsHexDigit c)
      (hversion : third.head? = some '4')
      (hvariant : ∃ c ∈ ['8', '9', 'a', 'b'], fourth.head? = some c)

/-- The bytes of the version group and of the variant group. -/
def versionBytes (engine : Nat → UInt8) : List Nat :=
  (64 + (engine 6).toNat % 16) :: bytesFrom engine 7 1

def variantBytes (engine : Nat → UInt8) : List Nat :=
  (128 + (engine 8).toNat % 64) :: bytesFrom engine 9 1

theorem versionBytes_lt (engine : Nat → UInt8) : ∀ byte ∈ versionBytes engine, byte < 256 :=
  List.forall_mem_cons.mpr ⟨by omega, bytesFrom_lt engine 7 1⟩

theorem variantBytes_lt (engine : Nat → UInt8) : ∀ byte ∈ variantBytes engine, byte < 256 :=
  List.forall_mem_cons.mpr ⟨by omega, bytesFrom_lt engine 9 1⟩

theorem generateUUID_toList (engine : Nat → UInt8) :
    (generateUUID engine).toList =
      separated (hexText (bytesFrom engine 0 4)) (hexText (bytesFrom engine 4 2))
        (hexText (versionBytes engine)) (hexText (variantBytes engine))
        (hexText (bytesFrom engine 10 6)) := by
  have hfirst : (generateHex engine 8).toList = hexText (bytesFrom engine 0 4) := by
    have hzero := generateHex_toList engine 0 3 (show ((8 : ℕ+) : Nat) = 8 from rfl)
    simp only [Nat.zero_add] at hzero
    exact hzero
  have hfour : ((4 : ℕ+) : Nat) = 2 * (1 + 1) := rfl
  have hthird := generateHexWithReplacement_toList engine 6 1 hfour UUID_VERSION_VALUE
    (show ¬ MAX_NUM_REPLACEMENT_BITS < 4 by decide) (by decide)
  have hfourth := generateHexWithReplacement_toList engine 8 1 hfour UUID_VARIANT_VALUE
    (show ¬ MAX_NUM_REPLACEMENT_BITS < 2 by decide) (by decide)
  rw [replaceBits_version _ (engine 6).toNat_lt] at hthird
  rw [replaceBits_variant _ (engine 8).toNat_lt] at hfourth
  have hseparator : SEPARATOR.toList = ['-'] := by decide
  have hsecond := generateHex_toList engine 4 1 hfour
  have hfifth := generateHex_toList engine 10 5 (show ((12 : ℕ+) : Nat) = 12 from rfl)
  simp only [generateUUID, String.toList_append, hseparator, List.append_assoc,
    List.singleton_append]
  rw [hfirst, hsecond, hthird, hfourth, hfifth]
  rfl

theorem generateUUID_canonical (engine : Nat → UInt8) : Canonical (generateUUID engine) := by
  refine .groups _ _ _ _ _ (generateUUID_toList engine) ?_ ?_ ?_ ?_
  · simp only [List.map_cons, List.map_nil, hexText_length, bytesFrom, versionBytes,
      variantBytes, List.length_map, List.length_range, List.length_cons]
  · simp only [List.forall_mem_cons, List.not_mem_nil, false_implies, implies_true, and_true]
    exact ⟨hexText_isHexDigit (bytesFrom_lt engine 0 4),
      hexText_isHexDigit (bytesFrom_lt engine 4 2), hexText_isHexDigit (versionBytes_lt engine),
      hexText_isHexDigit (variantBytes_lt engine), hexText_isHexDigit (bytesFrom_lt engine 10 6)⟩
  · have hdigit : (64 + (engine 6).toNat % 16) / 16 = 4 := by omega
    simp only [hexText, versionBytes, List.flatMap_cons, hexByte, hdigit]
    rfl
  · have hdigit : ∀ n, 8 ≤ n → n < 12 → Nat.digitChar n ∈ ['8', '9', 'a', 'b'] := by decide +revert
    exact ⟨_, hdigit ((128 + (engine 8).toNat % 64) / 16) (by omega) (by omega), rfl⟩

/-- What of a byte of the engine comes to be in the text: four of its bits are replaced by the
version and two by the variant. -/
def randomBits (place : Nat) (byte : UInt8) : Nat :=
  if place = 6 then byte.toNat % 16 else if place = 8 then byte.toNat % 64 else byte.toNat

theorem randomBits_other {place : Nat} (h : place ≠ 6) (h' : place ≠ 8) (byte : UInt8) :
    randomBits place byte = byte.toNat := by
  rw [randomBits, if_neg h, if_neg h']

/-- Two texts with groups of the same lengths are the same exactly if the groups are. -/
theorem separated_inj {first second third fourth fifth first' second' third' fourth' fifth' :
    List Char} (h₁ : first.length = first'.length) (h₂ : second.length = second'.length)
    (h₃ : third.length = third'.length) (h₄ : fourth.length = fourth'.length)
    (heq : separated first second third fourth fifth =
      separated first' second' third' fourth' fifth') :
    first = first' ∧ second = second' ∧ third = third' ∧ fourth = fourth' ∧ fifth = fifth' := by
  obtain ⟨hfirst, hrest₁⟩ := List.append_inj heq h₁
  obtain ⟨hsecond, hrest₂⟩ := List.append_inj (List.cons.inj hrest₁).2 h₂
  obtain ⟨hthird, hrest₃⟩ := List.append_inj (List.cons.inj hrest₂).2 h₃
  obtain ⟨hfourth, hrest₄⟩ := List.append_inj (List.cons.inj hrest₃).2 h₄
  exact ⟨hfirst, hsecond, hthird, hfourth, (List.cons.inj hrest₄).2⟩

/-- Two texts are the same exactly if they show the same bytes. -/
theorem generateUUID_eq_iff_bytes (engine engine' : Nat → UInt8) :
    generateUUID engine = generateUUID engine' ↔
      bytesFrom engine 0 4 = bytesFrom engine' 0 4 ∧
        bytesFrom engine 4 2 = bytesFrom engine' 4 2 ∧
        versionBytes engine = versionBytes engine' ∧
        variantBytes engine = variantBytes engine' ∧
        bytesFrom engine 10 6 = bytesFrom engine' 10 6 := by
  rw [← String.toList_inj, generateUUID_toList, generateUUID_toList]
  have hlength : ∀ start count,
      (bytesFrom engine start count).length = (bytesFrom engine' start count).length := by
    intro start count
    simp only [bytesFrom, List.length_map]
  have hversion : (versionBytes engine).length = (versionBytes engine').length := rfl
  have hvariant : (variantBytes engine).length = (variantBytes engine').length := rfl
  have htext : ∀ {bytes bytes' : List Nat}, bytes.length = bytes'.length →
      (hexText bytes).length = (hexText bytes').length := by
    intro bytes bytes' h
    rw [hexText_length, hexText_length, h]
  constructor
  · intro heq
    obtain ⟨hfirst, hsecond, hthird, hfourth, hfifth⟩ := separated_inj (htext (hlength 0 4))
      (htext (hlength 4 2)) (htext hversion) (htext hvariant) heq
    exact ⟨hexText_inj (bytesFrom_lt engine 0 4) (bytesFrom_lt engine' 0 4) (hlength 0 4) hfirst,
      hexText_inj (bytesFrom_lt engine 4 2) (bytesFrom_lt engine' 4 2) (hlength 4 2) hsecond,
      hexText_inj (versionBytes_lt engine) (versionBytes_lt engine') hversion hthird,
      hexText_inj (variantBytes_lt engine) (variantBytes_lt engine') hvariant hfourth,
      hexText_inj (bytesFrom_lt engine 10 6) (bytesFrom_lt engine' 10 6) (hlength 10 6) hfifth⟩
  · rintro ⟨hfirst, hsecond, hthird, hfourth, hfifth⟩
    rw [hfirst, hsecond, hthird, hfourth, hfifth]

/-- Two texts are the same exactly if the 122 random bits are. -/
theorem generateUUID_eq_iff (engine engine' : Nat → UInt8) :
    generateUUID engine = generateUUID engine' ↔
      ∀ place < 16, randomBits place (engine place) = randomBits place (engine' place) := by
  simp only [generateUUID_eq_iff_bytes, versionBytes, variantBytes, List.cons.injEq,
    bytesFrom_eq_iff, Nat.add_left_cancel_iff]
  constructor
  · rintro ⟨hfirst, hsecond, ⟨hversion, hseventh⟩, ⟨hvariant, hninth⟩, hfifth⟩ place hplace
    have hcases : place < 4 ∨ (4 ≤ place ∧ place < 6) ∨ place = 6 ∨ place = 7 ∨ place = 8 ∨
        place = 9 ∨ 10 ≤ place := by omega
    rcases hcases with hlt | ⟨hle, hlt⟩ | rfl | rfl | rfl | rfl | hle
    · rw [randomBits_other (by omega) (by omega), randomBits_other (by omega) (by omega)]
      simpa only [Nat.zero_add] using hfirst place hlt
    · rw [randomBits_other (by omega) (by omega), randomBits_other (by omega) (by omega)]
      simpa only [Nat.add_sub_cancel' hle] using hsecond (place - 4) (by omega)
    · exact hversion
    · exact hseventh 0 (by omega)
    · exact hvariant
    · exact hninth 0 (by omega)
    · rw [randomBits_other (by omega) (by omega), randomBits_other (by omega) (by omega)]
      simpa only [Nat.add_sub_cancel' hle] using hfifth (place - 10) (by omega)
  · intro h
    have hplain : ∀ place < 16, place ≠ 6 → place ≠ 8 →
        (engine place).toNat = (engine' place).toNat := by
      intro place hplace hsix height
      have hbits := h place hplace
      rwa [randomBits_other hsix height, randomBits_other hsix height] at hbits
    refine ⟨fun i hi => ?_, fun i hi => ?_, ⟨h 6 (by omega), fun i hi => ?_⟩,
      ⟨h 8 (by omega), fun i hi => ?_⟩, fun i hi => ?_⟩
    · exact hplain (0 + i) (by omega) (by omega) (by omega)
    · exact hplain (4 + i) (by omega) (by omega) (by omega)
    · exact hplain (7 + i) (by omega) (by omega) (by omega)
    · exact hplain (9 + i) (by omega) (by omega) (by omega)
    · exact hplain (10 + i) (by omega) (by omega) (by omega)

end Vshl.Utilities
