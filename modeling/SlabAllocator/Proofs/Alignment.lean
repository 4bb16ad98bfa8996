import Mathlib.Order.Bounds.Basic
import SlabAllocator.Word

/-! Alignment by masks, told by multiples. The bits below a power of two are the remainder of a
division by it, and the others make the multiple below; so a word is aligned exactly if it is a
multiple, and a value is rounded up to the least multiple that is not below it. For each alignment
there is one value that is refused although its least multiple is a word: the topmost multiple
itself, whose sum with the alignment is the first number out of range. -/
namespace SlabAllocator.Word

/-! ## Least multiples -/

section multiples

variable {value factor limit rounded : Nat}

/-- The multiples of a factor that are not below a value. -/
def multiplesFrom (value factor : Nat) : Set Nat :=
  {multiple | factor ∣ multiple ∧ value ≤ multiple}

/-- The least of them: up by one less than the factor, then down to a multiple. -/
theorem isLeast_multiplesFrom (positive : 0 < factor) (value : Nat) :
    IsLeast (multiplesFrom value factor)
      (value + factor - 1 - (value + factor - 1) % factor) := by
  have remainder := Nat.mod_lt (value + factor - 1) positive
  refine ⟨⟨Nat.dvd_sub_mod _, by omega⟩, ?_⟩
  rintro multiple ⟨⟨quotient, rfl⟩, above⟩
  -- The step up from the value ends short of the multiple after this one.
  have below : (value + factor - 1) / factor < quotient + 1 := by
    rw [Nat.div_lt_iff_lt_mul positive, Nat.succ_mul, Nat.mul_comm]
    omega
  calc value + factor - 1 - (value + factor - 1) % factor
      = factor * ((value + factor - 1) / factor) :=
        Nat.sub_eq_of_eq_add (Nat.div_add_mod _ _).symm
    _ ≤ factor * quotient := Nat.mul_le_mul_left factor (Nat.le_of_lt_succ below)

/-- A least multiple below a limit that is a multiple too leaves room for another factor. -/
theorem add_le_of_isLeast (whole : factor ∣ limit)
    (least : IsLeast (multiplesFrom value factor) rounded) (fits : rounded < limit) :
    value + factor ≤ limit := by
  obtain ⟨multiple, above⟩ := least.1
  have gap := Nat.le_of_dvd (Nat.sub_pos_of_lt fits) (Nat.dvd_sub whole multiple)
  omega

/-- A value is its own least multiple exactly if it is a multiple. -/
theorem eq_iff_dvd_of_isLeast (least : IsLeast (multiplesFrom value factor) rounded) :
    rounded = value ↔ factor ∣ value := by
  constructor
  · rintro rfl
    exact least.1.1
  · intro multiple
    exact Nat.le_antisymm (least.2 ⟨multiple, Nat.le_refl value⟩) least.1.2

end multiples

/-! ## Masks -/

section masks

variable {alignment : UInt64}

theorem toNat_pred (positive : 0 < alignment.toNat) :
    (alignment - 1).toNat = alignment.toNat - 1 :=
  UInt64.toNat_sub_of_le _ _ (UInt64.le_iff_toNat_le.2 positive)

/-- The test on bits finds the powers of two. -/
theorem isPowerOfTwo_iff : isPowerOfTwo alignment = true ↔ alignment.toNat.isPowerOfTwo := by
  unfold isPowerOfTwo
  rcases Nat.eq_zero_or_pos alignment.toNat with zero | positive
  · obtain rfl : alignment = 0 := UInt64.toNat_inj.1 zero
    refine iff_of_false (by decide) fun power => ?_
    exact absurd (Nat.pos_of_isPowerOfTwo power) (by decide)
  · have nonzero : alignment ≠ 0 := fun zero => by simp [zero] at positive
    rw [← Nat.and_sub_one_eq_zero_iff_isPowerOfTwo (Nat.ne_of_gt positive)]
    simp [nonzero, ← UInt64.toNat_inj, toNat_pred positive]

/-- The bits below a power of two are the remainder. -/
theorem toNat_and_pred (power : alignment.toNat.isPowerOfTwo) (value : UInt64) :
    (value &&& (alignment - 1)).toNat = value.toNat % alignment.toNat := by
  rw [UInt64.toNat_and, toNat_pred (Nat.pos_of_isPowerOfTwo power)]
  obtain ⟨exponent, same⟩ := power
  rw [same, Nat.and_two_pow_sub_one_eq_mod]

/-- A mask and its complement share out the bits of a word. -/
theorem toNat_and_add_and_not (value mask : UInt64) :
    (value &&& mask).toNat + (value &&& ~~~mask).toNat = value.toNat := by
  have disjoint : (value &&& mask).toBitVec &&& (value &&& ~~~mask).toBitVec = 0#64 := by
    ext bit
    simp only [UInt64.toBitVec_and, UInt64.toBitVec_not]
    grind
  have joined : (value &&& mask).toBitVec ||| (value &&& ~~~mask).toBitVec = value.toBitVec := by
    ext bit
    simp only [UInt64.toBitVec_and, UInt64.toBitVec_not]
    grind
  calc (value &&& mask).toNat + (value &&& ~~~mask).toNat
      = ((value &&& mask).toBitVec + (value &&& ~~~mask).toBitVec).toNat :=
        (BitVec.toNat_add_of_and_eq_zero disjoint).symm
    _ = value.toNat := by rw [BitVec.add_eq_or_of_and_eq_zero _ _ disjoint, joined]; rfl

/-- The other bits are the multiple below. -/
theorem toNat_and_not_pred (power : alignment.toNat.isPowerOfTwo) (value : UInt64) :
    (value &&& ~~~(alignment - 1)).toNat = value.toNat - value.toNat % alignment.toNat := by
  have shared := toNat_and_add_and_not value (alignment - 1)
  rw [toNat_and_pred power] at shared
  omega

/-- A power of two among the words divides their number. -/
theorem dvd_wordLimit (power : alignment.toNat.isPowerOfTwo) : alignment.toNat ∣ wordLimit := by
  have bounded := alignment.toNat_lt
  obtain ⟨exponent, same⟩ := power
  rw [same] at bounded ⊢
  exact Nat.pow_dvd_pow 2 (Nat.le_of_lt ((Nat.pow_lt_pow_iff_right (by decide)).1 bounded))

end masks

/-! ## Aligned words -/

section

variable {value alignment : UInt64}

theorem isAligned_eq (power : alignment.toNat.isPowerOfTwo) (value : UInt64) :
    isAligned value alignment = .ok (decide (alignment.toNat ∣ value.toNat)) := by
  unfold isAligned
  rw [if_pos (isPowerOfTwo_iff.2 power)]
  congr 1
  rw [Bool.eq_iff_iff, beq_iff_eq, decide_eq_true_iff, ← UInt64.toNat_inj, toNat_and_pred power,
    Nat.dvd_iff_mod_eq_zero]
  rfl

/-- Where the sum with the alignment is a word, the answer is the least multiple. -/
theorem alignUp_of_lt (power : alignment.toNat.isPowerOfTwo)
    (inside : value.toNat + alignment.toNat < wordLimit) :
    ∃ word, alignUp value alignment = .ok word ∧
      IsLeast (multiplesFrom value.toNat alignment.toNat) word.toNat := by
  have positive := Nat.pos_of_isPowerOfTwo power
  have sum : (value + alignment).toNat = value.toNat + alignment.toNat := by
    rw [UInt64.toNat_add]
    exact Nat.mod_eq_of_lt inside
  have short : (value + alignment - 1).toNat = value.toNat + alignment.toNat - 1 := by
    rw [toNat_pred (by omega), sum]
  refine ⟨(value + alignment - 1) &&& ~~~(alignment - 1), ?_, ?_⟩
  · unfold alignUp checkedAdd
    rw [if_pos (isPowerOfTwo_iff.2 power), if_pos inside]
  · rw [toNat_and_not_pred power, short]
    exact isLeast_multiplesFrom positive value.toNat

/-- A sum out of range is refused, whatever the value would have been rounded to. -/
theorem alignUp_of_le (power : alignment.toNat.isPowerOfTwo)
    (outside : wordLimit ≤ value.toNat + alignment.toNat) :
    alignUp value alignment = .error .sumInRange := by
  unfold alignUp checkedAdd
  rw [if_pos (isPowerOfTwo_iff.2 power), if_neg (Nat.not_lt.2 outside)]

/-- **Every value but the topmost multiple is rounded up.** A word is found aligned to a power of
two exactly if it is a multiple. Where the least multiple that is not below a value is a word, it is
what the value is rounded up to, and the value itself exactly if that is aligned; only the topmost
multiple of the alignment is refused. -/
theorem alignUp_least_multiple (power : alignment.toNat.isPowerOfTwo) (value : UInt64) :
    isAligned value alignment = .ok (decide (alignment.toNat ∣ value.toNat)) ∧
      ∀ rounded < wordLimit, IsLeast (multiplesFrom value.toNat alignment.toNat) rounded →
        ((alignUp value alignment).map UInt64.toNat = .ok rounded ↔
            value.toNat ≠ wordLimit - alignment.toNat) ∧
          (value.toNat = wordLimit - alignment.toNat →
            alignUp value alignment = .error .sumInRange) ∧
          (rounded = value.toNat ↔ isAligned value alignment = .ok true) := by
  have aligned := isAligned_eq power value
  refine ⟨aligned, fun rounded fits least => ?_⟩
  -- So the sum is out of range only where it meets the limit.
  have room := add_le_of_isLeast (dvd_wordLimit power) least fits
  have topmost (top : value.toNat = wordLimit - alignment.toNat) :
      alignUp value alignment = .error .sumInRange :=
    alignUp_of_le power (by omega)
  refine ⟨⟨?_, ?_⟩, topmost, ?_⟩
  · intro answered top
    rw [topmost top] at answered
    cases answered
  · intro lower
    have inside : value.toNat + alignment.toNat < wordLimit := by omega
    obtain ⟨word, answered, its⟩ := alignUp_of_lt power inside
    rw [answered, least.unique its]
    rfl
  · rw [eq_iff_dvd_of_isLeast least, aligned]
    simp

/-- The topmost multiple of eight is reached from seven below it. -/
theorem alignUp_least_multiple_seven_below :
    (8 : UInt64).toNat.isPowerOfTwo ∧ (18446744073709551608 : Nat) < wordLimit ∧
      IsLeast (multiplesFrom 18446744073709551601 8) 18446744073709551608 ∧
      (alignUp 18446744073709551601 8).map UInt64.toNat = .ok 18446744073709551608 ∧
      isAligned 18446744073709551601 8 = .ok false := by
  have inside : (18446744073709551608 : Nat) < wordLimit := by decide
  have least : IsLeast (multiplesFrom 18446744073709551601 8) 18446744073709551608 :=
    isLeast_multiplesFrom (by decide) 18446744073709551601
  have power : (8 : UInt64).toNat.isPowerOfTwo := ⟨3, rfl⟩
  obtain ⟨aligned, rounds⟩ := alignUp_least_multiple power 18446744073709551601
  exact ⟨power, inside, least, (rounds _ inside least).1.2 (by decide), aligned⟩

/-- The topmost multiple of eight is aligned, and elements of that size are not rounded; but
rounding it up to eight is refused. -/
theorem alignUp_topmost_multiple :
    (8 : UInt64).toNat.isPowerOfTwo ∧ (18446744073709551608 : Nat) < wordLimit ∧
      IsLeast (multiplesFrom 18446744073709551608 8) 18446744073709551608 ∧
      isAligned 18446744073709551608 8 = .ok true ∧
      roundUpToWord 18446744073709551608 = 18446744073709551608 ∧
      alignUp 18446744073709551608 8 = .error .sumInRange :=
  ⟨⟨3, rfl⟩, by decide, isLeast_multiplesFrom (by decide) 18446744073709551608, by decide,
    by decide, by decide⟩

end

end SlabAllocator.Word
