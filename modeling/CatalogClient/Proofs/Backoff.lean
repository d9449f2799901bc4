import CatalogClient.Retry
import CatalogClient.Proofs.Binary64.Height

/-!
# Delays before retries

The delay before a retry depends on three heights: that of the scale, of the power of ten that goes
with the attempt, and of the draw. `backoffMs_eq` gives it as a function of these that rounds after
every step, and all else is read off it: delays are in the range of counts and go with the order of
all three (`backoff_ordered`), and on scales from one to ten thousand those of one attempt stay below
those of the next (`backoffMs_lt_next`).
-/

namespace CatalogClient

open Binary64

namespace RetryPolicy

-- numbers of this size are not to be written out while goals are compared
attribute [local irreducible] Binary64.rangeEnd Binary64.unitsPerOne

/-! ## The parts of a delay -/

/-- A quarter, in units. -/
def quarter : Nat := Nat.pow 2 1072

theorem unitsPerOne_eq : unitsPerOne = 4 * quarter := by decide +kernel

theorem quarter_pos : 0 < quarter := by decide +kernel

attribute [local irreducible] quarter

/-- The range ends far past all that delays come to. -/
theorem quarters_lt_rangeEnd {n : Nat} (few : n ≤ Nat.pow 10 40) : n * quarter < rangeEnd :=
  Nat.lt_of_le_of_lt (Nat.mul_le_mul_right _ few) (by decide +kernel)

/-- The spread that a draw of this height gives. -/
def spreadHeight (draw : Nat) : Nat :=
  roundedHeight (3 * quarter + roundedHeight (min draw unitsPerOne * (2 * quarter)) unitsPerOne) 1

/-- The height of the delay before it is made a whole number, for a scale of this height. -/
def delayHeight (scale spread : Nat) : Nat :=
  if scale < rangeEnd then roundedHeight (spread * scale) unitsPerOne else rangeEnd

/-- The whole part of a height as a count, at least one. -/
def counted (height : Nat) : Nat := min (max height unitsPerOne / unitsPerOne) greatestCount

/-- The whole milliseconds from a height up. -/
def wholeMs (delay : Nat) : Nat := counted (roundedHeight (wholeAbove delay) 1)

theorem spreadHeight_le_spreadHeight {d d' : Nat} (le : d ≤ d') :
    spreadHeight d ≤ spreadHeight d' := by
  refine roundedHeight_le_roundedHeight Nat.one_pos Nat.one_pos ?_
  simp only [Nat.mul_one]
  refine Nat.add_le_add_left (roundedHeight_le_roundedHeight unitsPerOne_pos unitsPerOne_pos ?_) _
  exact Nat.mul_le_mul_right _ (Nat.mul_le_mul_right _ (by omega))

/-- Without a draw the spread is three quarters, with a full one five. -/
theorem spreadHeight_zero : spreadHeight 0 = 3 * quarter := by decide +kernel

theorem spreadHeight_one : spreadHeight unitsPerOne = 5 * quarter := by decide +kernel

/-- Draws above one count as one. -/
theorem spreadHeight_min (d : Nat) : spreadHeight (min d unitsPerOne) = spreadHeight d := by
  unfold spreadHeight
  rw [Nat.min_assoc, Nat.min_self]

theorem spreadHeight_bounds (d : Nat) :
    3 * quarter ≤ spreadHeight d ∧ spreadHeight d ≤ 5 * quarter := by
  constructor
  · rw [← spreadHeight_zero]
    exact spreadHeight_le_spreadHeight (Nat.zero_le d)
  · rw [← spreadHeight_one, ← spreadHeight_min d]
    exact spreadHeight_le_spreadHeight (Nat.min_le_right d unitsPerOne)

theorem delayHeight_le_delayHeight {k k' s s' : Nat} (scales : k ≤ k') (spreads : s ≤ s') :
    delayHeight k s ≤ delayHeight k' s' := by
  unfold delayHeight
  split
  · split
    · refine roundedHeight_le_roundedHeight unitsPerOne_pos unitsPerOne_pos ?_
      exact Nat.mul_le_mul_right _ (Nat.mul_le_mul spreads scales)
    · exact Nat.min_le_right _ _
  · exact Nat.le_of_eq (if_neg (by omega)).symm

theorem counted_le_counted {h h' : Nat} (le : h ≤ h') : counted h ≤ counted h' := by
  have whole := Nat.div_le_div_right (c := unitsPerOne)
    (show max h unitsPerOne ≤ max h' unitsPerOne by omega)
  unfold counted
  omega

theorem wholeMs_le_wholeMs {d d' : Nat} (le : d ≤ d') : wholeMs d ≤ wholeMs d' := by
  have whole : wholeAbove d ≤ wholeAbove d' :=
    Nat.mul_le_mul_right _ (Nat.div_le_div_right (Nat.add_le_add_right le _))
  refine counted_le_counted ?_
  exact roundedHeight_le_roundedHeight Nat.one_pos Nat.one_pos (Nat.mul_le_mul_right 1 whole)

/-! ## Delays from heights -/

/-- The power of ten that goes with an attempt, as far as powers grow. -/
def growth (attempt : Attempt) : Nat := Nat.pow 10 (min attempt.toNat growthEnd)

theorem growth_le (attempt : Attempt) : growth attempt ≤ Nat.pow 10 growthEnd :=
  Nat.pow_le_pow_right (by decide) (Nat.min_le_right _ _)

theorem growth_pos (attempt : Attempt) : 0 < growth attempt := Nat.pow_pos (by decide)

/-- A few quarters of a power of ten up to the sixteenth are a double: their odd part has no more than
53 bits. -/
theorem roundedHeight_quarters {n den : Nat} (attempt : Attempt) (few : n ≤ 5) (pos : 0 < den) :
    roundedHeight (n * growth attempt * quarter * den) den = n * growth attempt * quarter := by
  obtain ⟨k, two⟩ : ∃ k, quarter = Nat.pow 2 k := ⟨1072, by decide +kernel⟩
  have odd_part : n * Nat.pow 5 (min attempt.toNat growthEnd) ≤ significandEnd :=
    Nat.le_trans (Nat.mul_le_mul few
      (Nat.pow_le_pow_right (by decide) (Nat.min_le_right attempt.toNat growthEnd))) (by decide)
  have parts : n * growth attempt * quarter =
      n * Nat.pow 5 (min attempt.toNat growthEnd) *
        Nat.pow 2 (min attempt.toNat growthEnd + k) := by
    rw [two, growth, Nat.mul_assoc, powerOfTen_mul_powerOfTwo, Nat.mul_assoc]
  have whole := mul_pow_mod_gap (min attempt.toNat growthEnd + k) odd_part
  rw [← parts] at whole
  have in_range : n * growth attempt * quarter < rangeEnd :=
    quarters_lt_rangeEnd (Nat.le_trans (Nat.mul_le_mul few (growth_le attempt)) (by decide))
  rw [roundedHeight, nearest_mul_of_mod_gap pos whole, Nat.min_eq_left (Nat.le_of_lt in_range)]

theorem growth_lt_rangeEnd (attempt : Attempt) : growth attempt * unitsPerOne < rangeEnd := by
  rw [unitsPerOne_eq, ← Nat.mul_assoc]
  refine quarters_lt_rangeEnd (Nat.le_trans (Nat.mul_le_mul_right 4 (growth_le attempt)) ?_)
  decide

theorem height_powerOfTen (attempt : Attempt) :
    (powerOfTen (min attempt.toNat growthEnd)).height = growth attempt * unitsPerOne := by
  have rounded := @height_round false (growth attempt * unitsPerOne) 1 fun h => nomatch h
  have as_quarters : growth attempt * unitsPerOne = 4 * growth attempt * quarter := by
    rw [unitsPerOne_eq]
    ac_rfl
  have exact_rounding := roundedHeight_quarters attempt (show 4 ≤ 5 by decide) Nat.one_pos
  rw [Nat.mul_one, ← as_quarters] at exact_rounding
  exact rounded.trans exact_rounding

theorem inRange_powerOfTen (attempt : Attempt) :
    InRange (powerOfTen (min attempt.toNat growthEnd)) where
  nonneg := nonneg_round 1 fun h => nomatch h
  small := height_powerOfTen attempt ▸ growth_lt_rangeEnd attempt

/-- A draw that is a number gives a spread from three to five quarters. -/
theorem inRange_spread {draw : Binary64} (number : draw.isNaN = false) :
    InRange (spread draw) ∧ (spread draw).height = spreadHeight draw.height := by
  obtain ⟨clamped, height⟩ := inRange_clamp number
  let half := Binary64.round false Binary64.unitsPerOne 2
  let threeQuarters := Binary64.round false (3 * Binary64.unitsPerOne) 4
  have half_height : half.height = 2 * quarter := by decide +kernel
  have half_in : InRange half := ⟨by decide +kernel, by decide +kernel⟩
  have base_height : threeQuarters.height = 3 * quarter := by decide +kernel
  have base_in : InRange threeQuarters := ⟨by decide +kernel, by decide +kernel⟩
  have share : (draw.clamp zero one * half).height =
      roundedHeight (min draw.height unitsPerOne * (2 * quarter)) unitsPerOne := by
    rw [height_mul clamped half_in, height, half_height]
  have share_in : InRange (draw.clamp zero one * half) := by
    refine ⟨nonneg_mul clamped half_in, ?_⟩
    rw [share]
    refine Nat.lt_of_le_of_lt (roundedHeight_le_roundedHeight (c := unitsPerOne * (2 * quarter))
      unitsPerOne_pos unitsPerOne_pos ?_) (by decide +kernel)
    exact Nat.mul_le_mul_right _ (Nat.mul_le_mul_right _ (Nat.min_le_right _ _))
  have sum : (spread draw).height = spreadHeight draw.height := by
    show (threeQuarters + draw.clamp zero one * half).height = _
    rw [height_add base_in share_in, base_height, share]
    rfl
  refine ⟨⟨nonneg_add base_in share_in, ?_⟩, sum⟩
  rw [sum]
  exact Nat.lt_of_le_of_lt (spreadHeight_bounds _).2 (quarters_lt_rangeEnd (by decide))

/-- The spread power of ten of an attempt. -/
def spreadGrowth (attempt : Attempt) (draw : Nat) : Nat :=
  roundedHeight (spreadHeight draw * (growth attempt * unitsPerOne)) unitsPerOne

theorem spreadGrowth_le_spreadGrowth {a b : Attempt} {d d' : Nat} (attempts : a ≤ b)
    (draws : d ≤ d') : spreadGrowth a d ≤ spreadGrowth b d' := by
  have attempts := UInt32.le_iff_toNat_le.mp attempts
  have growths : growth a ≤ growth b := Nat.pow_le_pow_right (by decide) (by omega)
  refine roundedHeight_le_roundedHeight unitsPerOne_pos unitsPerOne_pos (Nat.mul_le_mul_right _ ?_)
  exact Nat.mul_le_mul (spreadHeight_le_spreadHeight draws) (Nat.mul_le_mul_right _ growths)

/-- From three to five quarters of the power of ten. -/
theorem spreadGrowth_bounds (attempt : Attempt) (draw : Nat) :
    3 * growth attempt * quarter ≤ spreadGrowth attempt draw ∧
      spreadGrowth attempt draw ≤ 5 * growth attempt * quarter := by
  have grown : ∀ n, n * growth attempt * quarter * unitsPerOne =
      n * quarter * (growth attempt * unitsPerOne) := fun n => by ac_rfl
  obtain ⟨low, high⟩ := spreadHeight_bounds draw
  constructor
  · rw [← roundedHeight_quarters attempt (show 3 ≤ 5 by decide) unitsPerOne_pos, grown]
    refine roundedHeight_le_roundedHeight unitsPerOne_pos unitsPerOne_pos ?_
    exact Nat.mul_le_mul_right _ (Nat.mul_le_mul_right _ low)
  · rw [← roundedHeight_quarters attempt (Nat.le_refl 5) unitsPerOne_pos, grown]
    refine roundedHeight_le_roundedHeight unitsPerOne_pos unitsPerOne_pos ?_
    exact Nat.mul_le_mul_right _ (Nat.mul_le_mul_right _ high)

theorem inRange_spread_mul {draw : Binary64} (number : draw.isNaN = false) (attempt : Attempt) :
    InRange (spread draw * powerOfTen (min attempt.toNat growthEnd)) ∧
      (spread draw * powerOfTen (min attempt.toNat growthEnd)).height =
        spreadGrowth attempt draw.height := by
  obtain ⟨spread_in, spread_height⟩ := inRange_spread number
  have growth_in := inRange_powerOfTen attempt
  have product : (spread draw * powerOfTen (min attempt.toNat growthEnd)).height =
      spreadGrowth attempt draw.height := by
    rw [height_mul spread_in growth_in, spread_height, height_powerOfTen]
    rfl
  refine ⟨⟨nonneg_mul spread_in growth_in, ?_⟩, product⟩
  rw [product]
  refine Nat.lt_of_le_of_lt (spreadGrowth_bounds attempt _).2 (quarters_lt_rangeEnd ?_)
  exact Nat.le_trans (Nat.mul_le_mul_left 5 (growth_le attempt)) (by decide)

/-- **What a delay depends on.** Three heights, and rounding after every step. -/
theorem backoffMs_eq (policy : RetryPolicy) (attempt : Attempt) {draw : Binary64}
    (number : draw.isNaN = false) :
    policy.backoffMs attempt draw =
      wholeMs (delayHeight policy.backoffScaleMs.height (spreadGrowth attempt draw.height)) := by
  obtain ⟨factor_in, factor_height⟩ := inRange_spread_mul number attempt
  let factor := spread draw * powerOfTen (min attempt.toNat growthEnd)
  let scale := policy.backoffScaleMs.max zero
  have scale_height : scale.height = policy.backoffScaleMs.height := by
    rw [height_max, height_zero, Nat.max_zero]
  have delay : Nonneg (factor * scale) ∧ (factor * scale).height =
      delayHeight policy.backoffScaleMs.height (spreadGrowth attempt draw.height) := by
    by_cases bounded : scale.height < rangeEnd
    · have scale_in : InRange scale := ⟨nonneg_max_zero _, bounded⟩
      refine ⟨nonneg_mul factor_in scale_in, ?_⟩
      rw [height_mul factor_in scale_in, factor_height, scale_height, delayHeight,
        if_pos (scale_height ▸ bounded)]
    · have far := Nat.le_of_not_lt bounded
      have unbounded : scale = .infinity false := eq_infinity_of_le_height (nonneg_max_zero _) far
      have endless : factor * scale = .infinity false := by
        rw [unbounded]
        refine mul_infinity factor_in ?_
        rw [factor_height]
        refine Nat.lt_of_lt_of_le ?_ (spreadGrowth_bounds attempt _).1
        exact Nat.mul_pos (Nat.mul_pos (by decide) (growth_pos attempt)) quarter_pos
      rw [endless]
      refine ⟨rfl, ?_⟩
      rw [delayHeight, if_neg (Nat.not_lt.mpr (scale_height ▸ far))]
      rfl
  show ((factor * scale).ceil.max one).toCount = _
  rw [toCount_eq, height_max, height_ceil delay.1, delay.2, height_one]
  rfl

/-! ## The order of delays -/

/-- Delays are counts from one on, also on what is not a number. -/
theorem backoffMs_bounds (policy : RetryPolicy) (attempt : Attempt) (draw : Binary64) :
    1 ≤ policy.backoffMs attempt draw ∧ policy.backoffMs attempt draw ≤ greatestCount := by
  refine ⟨?_, toCount_le _⟩
  unfold backoffMs
  rw [toCount_eq, height_max, height_one]
  refine Nat.le_min.mpr ⟨?_, by decide⟩
  exact (Nat.le_div_iff_mul_le unitsPerOne_pos).mpr (by omega)

/-- A delay does not get shorter by a greater scale, a later attempt or a greater draw. -/
theorem backoffMs_le_backoffMs {policy policy' : RetryPolicy} {a b : Attempt}
    {draw draw' : Binary64}
    (scales : policy.backoffScaleMs.height ≤ policy'.backoffScaleMs.height) (attempts : a ≤ b)
    (number : draw.isNaN = false) (number' : draw'.isNaN = false)
    (draws : min draw.height unitsPerOne ≤ draw'.height) :
    policy.backoffMs a draw ≤ policy'.backoffMs b draw' := by
  rw [backoffMs_eq policy a number, backoffMs_eq policy' b number']
  refine wholeMs_le_wholeMs (delayHeight_le_delayHeight scales ?_)
  calc spreadGrowth a draw.height = spreadGrowth a (min draw.height unitsPerOne) := by
        rw [spreadGrowth, spreadGrowth, spreadHeight_min]
    _ ≤ spreadGrowth b draw'.height := spreadGrowth_le_spreadGrowth attempts draws

theorem backoffMs_of_retryAfter {policy : RetryPolicy} {attempt : Attempt} {draw : Binary64}
    {outcome : Outcome} {delayMs : Nat}
    (h : policy.nextStep attempt draw outcome = .retryAfter delayMs) :
    delayMs = policy.backoffMs attempt draw := by
  cases outcome with
  | ok success => cases h
  | error error =>
    simp only [nextStep] at h
    split at h
    · exact (Step.retryAfter.inj h).symm
    · cases h

/-- **Delays are counts and keep order.** Every delay is a count of milliseconds from one up to the
greatest one, for every scale and every draw, numbers or not. A delay does not get shorter by a greater
scale, a later attempt or a greater draw. So if the draw is a number, the delay decided on after an
attempt is between those for draws of zero and of one. -/
theorem backoff_ordered :
    (∀ (policy : RetryPolicy) (attempt : Attempt) (draw : Binary64),
      1 ≤ policy.backoffMs attempt draw ∧
        policy.backoffMs attempt draw ≤ 18446744073709551615) ∧
    (∀ (policy policy' : RetryPolicy) (a b : Attempt) (draw draw' : Binary64), a ≤ b →
      Binary64.le policy.backoffScaleMs policy'.backoffScaleMs = true →
      Binary64.le draw draw' = true →
      policy.backoffMs a draw ≤ policy'.backoffMs b draw') ∧
    ∀ (policy : RetryPolicy) (attempt : Attempt) (draw : Binary64) (outcome : Outcome)
      (delayMs : Nat), draw.isNaN = false →
      policy.nextStep attempt draw outcome = .retryAfter delayMs →
      policy.backoffMs attempt .zero ≤ delayMs ∧ delayMs ≤ policy.backoffMs attempt .one := by
  refine ⟨backoffMs_bounds, ?_, ?_⟩
  · intro policy policy' a b draw draw' attempts scales draws
    obtain ⟨number, number'⟩ := isNaN_of_le draws
    refine backoffMs_le_backoffMs (height_le_height scales) attempts number number' ?_
    exact Nat.le_trans (Nat.min_le_left _ _) (height_le_height draws)
  · intro policy attempt draw outcome delayMs number decided
    rw [backoffMs_of_retryAfter decided]
    have same_attempt : attempt ≤ attempt := UInt32.le_refl attempt
    constructor
    · refine backoffMs_le_backoffMs (Nat.le_refl _) same_attempt rfl number ?_
      rw [height_zero, Nat.zero_min]
      exact Nat.zero_le _
    · refine backoffMs_le_backoffMs (Nat.le_refl _) same_attempt number isNaN_one ?_
      rw [height_one]
      exact Nat.min_le_right _ _

/-- Orders and a decision that the standard policy really meets. -/
theorem backoff_ordered_standard :
    let policy := RetryPolicy.standard
    let half := Binary64.round false Binary64.unitsPerOne 2
    let outage : Outcome := .error (.http 503 "Service Unavailable" "down")
    policy.backoffMs 0 .zero ≤ policy.backoffMs 1 half ∧
      ∃ delayMs, policy.nextStep 1 half outage = .retryAfter delayMs ∧
        policy.backoffMs 1 .zero ≤ delayMs ∧ delayMs ≤ policy.backoffMs 1 .one := by
  intro policy half outage
  obtain ⟨-, order, decisions⟩ := backoff_ordered
  have scales : Binary64.le policy.backoffScaleMs policy.backoffScaleMs = true := by decide +kernel
  have draws : Binary64.le .zero half = true := by decide +kernel
  refine ⟨order policy policy 0 1 .zero half (by decide) scales draws, _, rfl, ?_⟩
  exact decisions policy 1 half outage _ (by decide +kernel) rfl

/-! ## Bands of delays

The longest delay of an attempt is five quarters of its power of ten, the shortest one of the next
attempt thirty. Rounding moves both, but a double four times as high as the first lies between them,
and twice as many whole milliseconds are still more when they are rounded.
-/

theorem lt_of_counted_lt {h : Nat} (more : counted h < greatestCount) :
    h < greatestCount * unitsPerOne := by
  unfold counted at more
  have below : max h unitsPerOne < greatestCount * unitsPerOne :=
    (Nat.div_lt_iff_lt_mul unitsPerOne_pos).mp (by omega)
  omega

/-- What is twice as high counts for more, if more can be counted. -/
theorem counted_lt_of_two_mul_le {h h' : Nat} (whole : unitsPerOne ≤ h) (far : 2 * h ≤ h')
    (more : counted (min h rangeEnd) < greatestCount) :
    counted (min h rangeEnd) < counted (min h' rangeEnd) := by
  -- a count that is not the greatest is so far from the end of the range that nothing is cut off
  have counts_small : 2 * (greatestCount * unitsPerOne) ≤ rangeEnd := by decide +kernel
  have in_range := lt_of_counted_lt more
  have next : max (min h rangeEnd) unitsPerOne / unitsPerOne + 1 ≤
      max (min h' rangeEnd) unitsPerOne / unitsPerOne := by
    rw [← Nat.add_div_right _ unitsPerOne_pos]
    exact Nat.div_le_div_right (by omega)
  unfold counted at more ⊢
  omega

theorem unitsPerOne_le_wholeAbove {n : Nat} (pos : 0 < n) : unitsPerOne ≤ wholeAbove n := by
  have some_one : 1 ≤ (n + (unitsPerOne - 1)) / unitsPerOne :=
    (Nat.le_div_iff_mul_le unitsPerOne_pos).mpr (by omega)
  exact Nat.le_mul_of_pos_left _ some_one

/-- The next whole number is at most twice as high, so four times the height leaves twice that
number. -/
theorem two_mul_wholeAbove_le {n m : Nat} (whole : unitsPerOne ≤ n) (far : 4 * n ≤ m) :
    2 * wholeAbove n ≤ wholeAbove m := by
  have within : (n + (unitsPerOne - 1)) / unitsPerOne * unitsPerOne ≤ n + (unitsPerOne - 1) :=
    Nat.div_mul_le_self _ _
  have twice : 2 * ((n + (unitsPerOne - 1)) / unitsPerOne) ≤
      (m + (unitsPerOne - 1)) / unitsPerOne := by
    refine (Nat.le_div_iff_mul_le unitsPerOne_pos).mpr ?_
    rw [Nat.mul_assoc]
    omega
  calc 2 * wholeAbove n = 2 * ((n + (unitsPerOne - 1)) / unitsPerOne) * unitsPerOne :=
        (Nat.mul_assoc _ _ _).symm
    _ ≤ wholeAbove m := Nat.mul_le_mul_right _ twice

/-- What is four times as high comes to more milliseconds, if there are more. -/
theorem wholeMs_lt_wholeMs {n m : Nat} (whole : unitsPerOne ≤ n) (far : 4 * n ≤ m)
    (more : wholeMs n < greatestCount) : wholeMs n < wholeMs m := by
  have unit_large : significandBegin ≤ unitsPerOne := by decide +kernel
  have large : unitsPerOne ≤ wholeAbove n :=
    unitsPerOne_le_wholeAbove (Nat.lt_of_lt_of_le unitsPerOne_pos whole)
  have rounded : unitsPerOne ≤ nearest (wholeAbove n) 1 :=
    calc unitsPerOne = nearest unitsPerOne 1 := by decide +kernel
      _ ≤ nearest (wholeAbove n) 1 :=
        nearest_le_nearest Nat.one_pos Nat.one_pos (Nat.mul_le_mul_right 1 large)
  have doubled : 2 * nearest (wholeAbove n) 1 ≤ nearest (wholeAbove m) 1 :=
    calc 2 * nearest (wholeAbove n) 1 = nearest (2 * wholeAbove n) 1 :=
          (nearest_two_mul (by rw [Nat.div_one]; exact Nat.le_trans unit_large large)).symm
      _ ≤ nearest (wholeAbove m) 1 :=
        nearest_le_nearest Nat.one_pos Nat.one_pos
          (Nat.mul_le_mul_right 1 (two_mul_wholeAbove_le whole far))
  exact counted_lt_of_two_mul_le rounded doubled more

/-- Powers of ten grow tenfold, as far as they grow. -/
theorem growth_next {attempt : Attempt} (below : attempt.toNat < growthEnd) :
    growth attempt.next = 10 * growth attempt := by
  have number : min attempt.next.toNat growthEnd = attempt.toNat + 1 := by
    rw [Attempt.toNat_next]
    unfold growthEnd at *
    omega
  rw [growth, growth, number, Nat.min_eq_left (Nat.le_of_lt below), Nat.mul_comm]
  rfl

/-- The least of the next attempt's spread powers of ten is six times the greatest of this one's. -/
theorem growth_next_mul {attempt : Attempt} (below : attempt.toNat < growthEnd) :
    3 * growth attempt.next * quarter = 6 * (5 * growth attempt * quarter) := by
  rw [growth_next below]
  simp only [← Nat.mul_assoc]

theorem growth_le_of_below {attempt : Attempt} (below : attempt.toNat < growthEnd) :
    growth attempt ≤ Nat.pow 10 15 :=
  Nat.pow_le_pow_right (by decide) (by unfold growthEnd at *; omega)

/-- The longest delay of an attempt below the sixteenth, on scales up to ten thousand. -/
def longest : Nat := 5 * Nat.pow 10 19 * quarter

/-- How the heights that bound a band lie to each other. -/
structure BandBounds : Prop where
  wholeMs_longest : wholeMs longest = 12500000000000000000
  greatest_le : nearest (5 * Nat.pow 10 15 * quarter * (10000 * unitsPerOne)) unitsPerOne ≤ longest
  longest_le : 4 * longest ≤ rangeEnd
  scale_lt : 10000 * unitsPerOne < rangeEnd
  quarter_large : significandBegin ≤ quarter
  one_exact : nearest (unitsPerOne * unitsPerOne) unitsPerOne = unitsPerOne
  ten_thousand : (ofNat 10000).height = 10000 * unitsPerOne

/-- The numbers have hundreds of digits, so they are compared here, once for all bands. -/
theorem bandBounds : BandBounds := by constructor <;> decide +kernel

attribute [local irreducible] longest

section Band
variable {attempt : Attempt} (below : attempt.toNat < growthEnd) {scale : Nat}
  (least : unitsPerOne ≤ scale) (greatest : scale ≤ 10000 * unitsPerOne)
include below greatest

theorem nearest_le_longest :
    nearest (5 * growth attempt * quarter * scale) unitsPerOne ≤ longest := by
  have factors : 5 * growth attempt * quarter * scale ≤
      5 * Nat.pow 10 15 * quarter * (10000 * unitsPerOne) :=
    Nat.mul_le_mul (Nat.mul_le_mul_right _ (Nat.mul_le_mul_left 5 (growth_le_of_below below)))
      greatest
  calc nearest (5 * growth attempt * quarter * scale) unitsPerOne
      ≤ nearest (5 * Nat.pow 10 15 * quarter * (10000 * unitsPerOne)) unitsPerOne :=
        nearest_le_nearest unitsPerOne_pos unitsPerOne_pos (Nat.mul_le_mul_right _ factors)
    _ ≤ longest := bandBounds.greatest_le

theorem delayHeight_eq_nearest :
    delayHeight scale (5 * growth attempt * quarter) =
      nearest (5 * growth attempt * quarter * scale) unitsPerOne := by
  have scale_small : scale < rangeEnd := Nat.lt_of_le_of_lt greatest bandBounds.scale_lt
  rw [delayHeight, if_pos scale_small, roundedHeight, Nat.min_eq_left]
  have in_range := bandBounds.longest_le
  exact Nat.le_trans (nearest_le_longest below greatest) (by omega)

include least

/-- Six times the height leaves room for what rounding takes, so that four times is still there. -/
theorem four_mul_delayHeight_le :
    4 * delayHeight scale (5 * growth attempt * quarter) ≤
      delayHeight scale (3 * growth attempt.next * quarter) := by
  have large : significandBegin ≤ 5 * growth attempt * quarter * scale / unitsPerOne := by
    refine (Nat.le_div_iff_mul_le unitsPerOne_pos).mpr (Nat.mul_le_mul ?_ least)
    refine Nat.le_trans bandBounds.quarter_large (Nat.le_mul_of_pos_left _ ?_)
    exact Nat.mul_pos (by decide) (growth_pos attempt)
  have grown : 2 * (2 * (5 * growth attempt * quarter * scale)) ≤
      3 * growth attempt.next * quarter * scale := by
    rw [growth_next_mul below, Nat.mul_assoc 6, ← Nat.mul_assoc 2 2]
    exact Nat.mul_le_mul_right _ (by decide)
  have in_range : 4 * nearest (5 * growth attempt * quarter * scale) unitsPerOne ≤ rangeEnd :=
    Nat.le_trans (Nat.mul_le_mul_left 4 (nearest_le_longest below greatest)) bandBounds.longest_le
  have scale_small : scale < rangeEnd := Nat.lt_of_le_of_lt greatest bandBounds.scale_lt
  rw [delayHeight_eq_nearest below greatest, delayHeight, if_pos scale_small]
  exact Nat.le_min.mpr ⟨four_mul_nearest_le unitsPerOne_pos large grown, in_range⟩

theorem unitsPerOne_le_delayHeight :
    unitsPerOne ≤ delayHeight scale (5 * growth attempt * quarter) := by
  rw [delayHeight_eq_nearest below greatest]
  have some_growth : 4 ≤ 5 * growth attempt :=
    Nat.le_trans (by decide) (Nat.le_mul_of_pos_right 5 (growth_pos attempt))
  have least_growth : 4 * quarter ≤ 5 * growth attempt * quarter :=
    Nat.mul_le_mul_right _ some_growth
  calc unitsPerOne = nearest (unitsPerOne * unitsPerOne) unitsPerOne := bandBounds.one_exact.symm
    _ ≤ nearest (5 * growth attempt * quarter * scale) unitsPerOne := by
      refine nearest_le_nearest unitsPerOne_pos unitsPerOne_pos (Nat.mul_le_mul_right _ ?_)
      exact Nat.mul_le_mul (unitsPerOne_eq ▸ least_growth) least

/-- Whatever the draws, the delay of the next attempt is longer. -/
theorem wholeMs_lt_next (draw draw' : Nat) :
    wholeMs (delayHeight scale (spreadGrowth attempt draw)) <
      wholeMs (delayHeight scale (spreadGrowth attempt.next draw')) := by
  have longest_delay : delayHeight scale (5 * growth attempt * quarter) ≤ longest := by
    rw [delayHeight_eq_nearest below greatest]
    exact nearest_le_longest below greatest
  have short : wholeMs (delayHeight scale (5 * growth attempt * quarter)) < greatestCount :=
    calc wholeMs (delayHeight scale (5 * growth attempt * quarter))
        ≤ wholeMs longest := wholeMs_le_wholeMs longest_delay
      _ = 12500000000000000000 := bandBounds.wholeMs_longest
      _ < greatestCount := by decide
  calc wholeMs (delayHeight scale (spreadGrowth attempt draw))
      ≤ wholeMs (delayHeight scale (5 * growth attempt * quarter)) :=
        wholeMs_le_wholeMs
          (delayHeight_le_delayHeight (Nat.le_refl _) (spreadGrowth_bounds attempt draw).2)
    _ < wholeMs (delayHeight scale (3 * growth attempt.next * quarter)) :=
        wholeMs_lt_wholeMs (unitsPerOne_le_delayHeight below least greatest)
          (four_mul_delayHeight_le below least greatest) short
    _ ≤ wholeMs (delayHeight scale (spreadGrowth attempt.next draw')) :=
        wholeMs_le_wholeMs
          (delayHeight_le_delayHeight (Nat.le_refl _) (spreadGrowth_bounds attempt.next draw').1)

end Band

/-- A scale from one to ten thousand. -/
structure Scaled (policy : RetryPolicy) : Prop where
  least : Binary64.le .one policy.backoffScaleMs = true
  greatest : Binary64.le policy.backoffScaleMs (.ofNat 10000) = true

theorem backoffMs_lt_next {policy : RetryPolicy} (scaled : policy.Scaled) {attempt : Attempt}
    (below : attempt.toNat < growthEnd) {draw draw' : Binary64} (number : draw.isNaN = false)
    (number' : draw'.isNaN = false) :
    policy.backoffMs attempt draw < policy.backoffMs attempt.next draw' := by
  have least := height_le_height scaled.least
  have greatest := height_le_height scaled.greatest
  rw [height_one] at least
  rw [bandBounds.ten_thousand] at greatest
  rw [backoffMs_eq policy _ number, backoffMs_eq policy _ number']
  exact wholeMs_lt_next below least greatest _ _

/-- From the sixteenth attempt on delays do not grow any more. -/
theorem backoffMs_eq_growthEnd (policy : RetryPolicy) {attempt : Attempt}
    (past : 16 ≤ attempt.toNat) (draw : Binary64) :
    policy.backoffMs attempt draw = policy.backoffMs 16 draw := by
  unfold backoffMs
  rw [show min attempt.toNat growthEnd = min (16 : Attempt).toNat growthEnd from
    Nat.min_eq_right past]

end RetryPolicy

end CatalogClient
