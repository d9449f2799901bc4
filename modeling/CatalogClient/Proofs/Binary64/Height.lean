import CatalogClient.Proofs.Binary64.Rounding

/-!
# How far numbers lie above zero

`Binary64.height` measures a double by how many units it lies above zero. Numbers below zero and what
is not a number have no height, and infinity is as high as the range ends. Heights go with the order
of doubles (`height_le_height`), and each operation on numbers that are not below zero is one on
their heights, rounded once.
-/

namespace CatalogClient

namespace Binary64

-- numbers of this size are not to be written out while goals are compared
attribute [local irreducible] rangeEnd unitsPerOne

/-- The units by which a number lies above zero. -/
def height : Binary64 → Nat
  | .nan => 0
  | .infinity negative => if negative then 0 else rangeEnd
  | .finite x => if x.negative then 0 else x.units

/-- The height that rounding comes to; past the range it is infinity's. -/
def roundedHeight (num den : Nat) : Nat := min (nearest num den) rangeEnd

/-- A number, and none below zero. -/
def Nonneg (x : Binary64) : Prop := le zero x = true

instance (x : Binary64) : Decidable (Nonneg x) := inferInstanceAs (Decidable (_ = _))

theorem roundedHeight_le_roundedHeight {a b c d : Nat} (pos : 0 < b) (pos' : 0 < d)
    (le : a * d ≤ c * b) : roundedHeight a b ≤ roundedHeight c d := by
  have := nearest_le_nearest pos pos' le
  unfold roundedHeight
  omega

/-! ## Order -/

/-- Heights go with the order. -/
theorem height_le_height {x y : Binary64} (h : le x y = true) : x.height ≤ y.height := by
  cases x with
  | nan => exact Nat.zero_le _
  | infinity negative =>
    cases negative with
    | true => exact Nat.zero_le _
    | false =>
      cases y with
      | infinity negative' =>
        cases negative' with
        | true => cases h
        | false => exact Nat.le_refl _
      | nan | finite y => cases h
  | finite x =>
    have in_range := x.isMagnitude.1
    cases y with
    | nan => cases h
    | infinity negative' =>
      cases negative' with
      | true => cases h
      | false =>
        show (if x.negative then 0 else x.units) ≤ rangeEnd
        split <;> omega
    | finite y =>
      have signed : x.signedUnits ≤ y.signedUnits := of_decide_eq_true h
      unfold FiniteDouble.signedUnits at signed
      show (if x.negative then 0 else x.units) ≤ if y.negative then 0 else y.units
      cases negative : x.negative with
      | true => exact Nat.zero_le _
      | false =>
        cases negative' : y.negative with
        | true =>
          -- of the numbers without a sign only zero is not above one with a sign
          simp only [negative, negative', Bool.false_eq_true, if_false, if_true] at signed ⊢
          omega
        | false =>
          simp only [negative, negative', Bool.false_eq_true, if_false] at signed ⊢
          omega

theorem le_total {x y : Binary64} (hx : x.isNaN = false) (hy : y.isNaN = false) :
    le x y = true ∨ le y x = true := by
  cases x with
  | nan => cases hx
  | infinity negative =>
    cases y with
    | nan => cases hy
    | infinity negative' => cases negative <;> cases negative' <;> simp [le]
    | finite y => cases negative <;> simp [le]
  | finite x =>
    cases y with
    | nan => cases hy
    | infinity negative' => cases negative' <;> simp [le]
    | finite y =>
      simp only [le, decide_eq_true_eq]
      exact Int.le_total _ _

/-- Only numbers have an order. -/
theorem isNaN_of_le {x y : Binary64} (h : le x y = true) : x.isNaN = false ∧ y.isNaN = false := by
  cases x with
  | nan => cases h
  | infinity | finite =>
    cases y with
    | nan => simp [le] at h
    | infinity | finite => exact ⟨rfl, rfl⟩

theorem le_of_not_lt {x y : Binary64} (hx : x.isNaN = false) (hy : y.isNaN = false)
    (h : ¬ lt y x = true) : le x y = true := by
  simp only [lt, Bool.and_eq_true, Bool.not_eq_true', not_and, Bool.not_eq_false] at h
  exact (le_total hx hy).elim id h

theorem le_of_lt {x y : Binary64} (h : lt x y = true) : le x y = true := by
  simp only [lt, Bool.and_eq_true] at h
  exact h.1

/-! ## Numbers in range -/

/-- A finite number is not below zero if its sign is not, or it is zero. -/
theorem nonneg_finite_iff {x : FiniteDouble} :
    Nonneg (.finite x) ↔ (x.negative = true → x.units = 0) := by
  have signed : Nonneg (.finite x) ↔ (0 : Int) ≤ x.signedUnits := decide_eq_true_iff
  rw [signed, FiniteDouble.signedUnits]
  cases x.negative <;> simp

theorem height_finite {x : FiniteDouble} (nonneg : Nonneg (.finite x)) :
    height (.finite x) = x.units := by
  have zero := nonneg_finite_iff.mp nonneg
  show (if x.negative then 0 else x.units) = x.units
  split
  · next negative => exact (zero negative).symm
  · rfl

/-- A number that is neither below zero nor infinite. -/
structure InRange (x : Binary64) : Prop where
  nonneg : Nonneg x
  small : x.height < rangeEnd

theorem exists_finite {x : Binary64} (h : InRange x) :
    ∃ d : FiniteDouble, x = .finite d ∧ (d.negative = true → d.units = 0) ∧ x.height = d.units := by
  cases x with
  | nan => cases h.nonneg
  | infinity negative =>
    cases negative with
    | true => cases h.nonneg
    | false => exact absurd h.small (Nat.lt_irrefl _)
  | finite d => exact ⟨d, rfl, nonneg_finite_iff.mp h.nonneg, height_finite h.nonneg⟩

/-- Past the range there is only infinity. -/
theorem eq_infinity_of_le_height {x : Binary64} (nonneg : Nonneg x) (far : rangeEnd ≤ x.height) :
    x = .infinity false := by
  cases x with
  | nan => cases nonneg
  | infinity negative =>
    cases negative with
    | true => cases nonneg
    | false => rfl
  | finite d =>
    rw [height_finite nonneg] at far
    exact absurd d.isMagnitude.1 (Nat.not_lt.mpr far)

/-! ## Rounding -/

theorem nearest_zero (den : Nat) : nearest 0 den = 0 := by simp [nearest, divNearest]

section Round
variable {negative : Bool} {num : Nat} (den : Nat) (sign : negative = true → num = 0)
include sign

/-- Rounding to a number that is not below zero. -/
theorem height_round : (round negative num den).height = roundedHeight num den := by
  unfold round roundedHeight
  split
  · next small =>
    show (if negative then 0 else nearest num den) = _
    rw [Nat.min_eq_left (Nat.le_of_lt small)]
    split
    · next h => rw [sign h, nearest_zero]
    · rfl
  · next large =>
    have large := Nat.le_of_not_lt large
    have positive : negative = false := by
      cases negative with
      | false => rfl
      | true =>
        rw [sign rfl, nearest_zero] at large
        exact absurd rangeEnd_pos (Nat.not_lt.mpr large)
    rw [positive, Nat.min_eq_right large]
    rfl

theorem nonneg_round : Nonneg (round negative num den) := by
  unfold round
  split
  · refine nonneg_finite_iff.mpr fun h => ?_
    show nearest num den = 0
    rw [sign h, nearest_zero]
  · next large =>
    cases negative with
    | false => rfl
    | true =>
      rw [sign rfl, nearest_zero] at large
      exact absurd rangeEnd_pos large

end Round

/-! ## Operations -/

section Operations
variable {x y : Binary64}

/-- A product of numbers not below zero has a sign only if it is zero. -/
theorem mul_eq_round (hx : InRange x) (hy : InRange y) :
    ∃ negative, x * y = round negative (x.height * y.height) unitsPerOne ∧
      (negative = true → x.height * y.height = 0) := by
  obtain ⟨d, rfl, sign, height⟩ := exists_finite hx
  obtain ⟨e, rfl, sign', height'⟩ := exists_finite hy
  refine ⟨d.negative != e.negative, by rw [height, height']; rfl, fun apart => ?_⟩
  rw [height, height']
  cases negative : d.negative with
  | true => rw [sign negative, Nat.zero_mul]
  | false =>
    rw [negative, Bool.false_bne] at apart
    rw [sign' apart, Nat.mul_zero]

theorem height_mul (hx : InRange x) (hy : InRange y) :
    (x * y).height = roundedHeight (x.height * y.height) unitsPerOne := by
  obtain ⟨negative, same, sign⟩ := mul_eq_round hx hy
  rw [same, height_round _ sign]

theorem nonneg_mul (hx : InRange x) (hy : InRange y) : Nonneg (x * y) := by
  obtain ⟨negative, same, sign⟩ := mul_eq_round hx hy
  rw [same]
  exact nonneg_round _ sign

/-- A number above zero goes on without end when it is multiplied without end. -/
theorem mul_infinity (hx : InRange x) (pos : 0 < x.height) :
    x * .infinity false = .infinity false := by
  obtain ⟨d, rfl, sign, height⟩ := exists_finite hx
  have units : d.units ≠ 0 := by omega
  have positive : d.negative = false := by
    cases negative : d.negative with
    | false => rfl
    | true => exact absurd (sign negative) units
  show mul (.finite d) (.infinity false) = _
  rw [mul, if_neg units, positive]
  rfl

/-- A sum of numbers not below zero has a sign only if it is zero. -/
theorem add_eq_round (hx : InRange x) (hy : InRange y) :
    ∃ negative, x + y = round negative (x.height + y.height) 1 ∧
      (negative = true → x.height + y.height = 0) := by
  obtain ⟨d, rfl, sign, height⟩ := exists_finite hx
  obtain ⟨e, rfl, sign', height'⟩ := exists_finite hy
  have signed : ∀ {z : FiniteDouble}, (z.negative = true → z.units = 0) →
      z.signedUnits = z.units := by
    intro z sign
    unfold FiniteDouble.signedUnits
    split
    · next negative => rw [sign negative]; rfl
    · rfl
  have sum : d.signedUnits + e.signedUnits = ((d.units + e.units : Nat) : Int) := by
    rw [signed sign, signed sign', Int.natCast_add]
  rw [height, height']
  refine ⟨_, congrArg (round _ · 1) (congrArg Int.natAbs sum), fun negative => ?_⟩
  rw [sum] at negative
  split at negative
  · next none => exact Int.ofNat_eq_zero.mp none
  · exact absurd (of_decide_eq_true negative) (Int.not_lt.mpr (Int.natCast_nonneg _))

theorem height_add (hx : InRange x) (hy : InRange y) :
    (x + y).height = roundedHeight (x.height + y.height) 1 := by
  obtain ⟨negative, same, sign⟩ := add_eq_round hx hy
  rw [same, height_round _ sign]

theorem nonneg_add (hx : InRange x) (hy : InRange y) : Nonneg (x + y) := by
  obtain ⟨negative, same, sign⟩ := add_eq_round hx hy
  rw [same]
  exact nonneg_round _ sign

/-- Units up to the next whole number. -/
def wholeAbove (units : Nat) : Nat := (units + (unitsPerOne - 1)) / unitsPerOne * unitsPerOne

theorem height_ceil (hx : Nonneg x) : x.ceil.height = roundedHeight (wholeAbove x.height) 1 := by
  cases x with
  | nan => cases hx
  | infinity negative =>
    cases negative with
    | true => cases hx
    | false =>
      have stays : roundedHeight (wholeAbove rangeEnd) 1 = rangeEnd := by decide +kernel
      exact stays.symm
  | finite d =>
    have none_below : wholeAbove 0 = 0 := by decide +kernel
    rw [height_finite hx]
    show (if d.negative then round true (d.units / unitsPerOne * unitsPerOne) 1
      else round false (wholeAbove d.units) 1).height = _
    split
    · next negative =>
      have none := nonneg_finite_iff.mp hx negative
      rw [none, Nat.zero_div, Nat.zero_mul, none_below]
      exact height_round 1 fun _ => rfl
    · exact height_round 1 fun h => nomatch h

/-- The larger of two is as high as the higher one, and what is not a number takes no part. -/
theorem height_max (x y : Binary64) : (x.max y).height = Max.max x.height y.height := by
  unfold max
  split
  · next nan =>
    cases x with
    | nan => exact (Nat.zero_max _).symm
    | infinity | finite => cases nan
  · next number =>
    split
    · next nan =>
      cases y with
      | nan => exact (Nat.max_zero _).symm
      | infinity | finite => cases nan
    · next number' =>
      split
      · next below => exact (Nat.max_eq_right (height_le_height below)).symm
      · next not_below =>
        have above := (le_total (Bool.not_eq_true _ ▸ number)
          (Bool.not_eq_true _ ▸ number')).resolve_left not_below
        exact (Nat.max_eq_left (height_le_height above)).symm

theorem toCount_eq (x : Binary64) : x.toCount = min (x.height / unitsPerOne) greatestCount := by
  cases x with
  | nan => simp [toCount, height]
  | infinity negative =>
    cases negative with
    | true => simp [toCount, height]
    | false =>
      have far : greatestCount ≤ rangeEnd / unitsPerOne := by decide +kernel
      exact (Nat.min_eq_right far).symm
  | finite d =>
    show (if d.negative then 0 else min (d.units / unitsPerOne) greatestCount) =
      min ((if d.negative then 0 else d.units) / unitsPerOne) greatestCount
    split
    · rw [Nat.zero_div, Nat.zero_min]
    · rfl

/-! ## Zero and one -/

theorem height_zero : height zero = 0 := rfl

theorem height_one : height one = unitsPerOne := by decide +kernel

theorem nonneg_one : Nonneg one := by decide +kernel

theorem isNaN_one : isNaN one = false := by decide +kernel

/-- A number moved into the range from zero to one. -/
theorem inRange_clamp (number : x.isNaN = false) : InRange (x.clamp zero one) ∧
    (x.clamp zero one).height = min x.height unitsPerOne := by
  have one_small : unitsPerOne < rangeEnd := by decide +kernel
  unfold clamp
  split
  · next below =>
    have none := height_le_height (le_of_lt below)
    rw [height_zero] at none
    refine ⟨⟨rfl, rangeEnd_pos⟩, ?_⟩
    rw [height_zero]
    omega
  · next not_below =>
    split
    · next above =>
      have far := height_le_height (le_of_lt above)
      rw [height_one] at far
      refine ⟨⟨nonneg_one, height_one ▸ one_small⟩, ?_⟩
      rw [height_one]
      omega
    · next not_above =>
      have within := height_le_height (le_of_not_lt number isNaN_one not_above)
      rw [height_one] at within
      refine ⟨⟨le_of_not_lt rfl number not_below, by omega⟩, by omega⟩

/-- What is not a number becomes zero. -/
theorem nonneg_max_zero (x : Binary64) : Nonneg (x.max zero) := by
  unfold max
  split
  · rfl
  · next number =>
    rw [if_neg (by decide)]
    split
    · rfl
    · next not_below =>
      exact (le_total (Bool.not_eq_true _ ▸ number) rfl).resolve_left not_below

end Operations

end Binary64

end CatalogClient
