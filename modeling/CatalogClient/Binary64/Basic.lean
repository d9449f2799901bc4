/-!
# Double-precision numbers

A finite double is a sign and a magnitude, and a magnitude is a whole number of units of
`2 ^ (-1074)`, the smallest positive double. Comparing magnitudes is then comparing natural
numbers, and every operation rounds once, by `nearest`, from an exact quotient of natural numbers.

`isMagnitude_nearest` says that what `nearest` yields is a double's magnitude whenever it stays
below the range's end.
-/

namespace CatalogClient

namespace Binary64

/-- The gap between neighbouring doubles around `n` units: one unit below `2 ^ 53` units, then
twice as much with every power of two. -/
def gap (n : Nat) : Nat := Nat.pow 2 (n.log2 - 52)

/-- The number one, in units. -/
def unitsPerOne : Nat := Nat.pow 2 1074

/-- The first magnitude past the finite doubles, `2 ^ 1024`, in units. -/
def rangeEnd : Nat := Nat.pow 2 2098

/-- The end of the significands, which have 53 bits. -/
def significandEnd : Nat := 9007199254740992

/-- `n` units are the magnitude of a finite double: a multiple of the gap around `n`, in range. -/
def IsMagnitude (n : Nat) : Prop := n < rangeEnd ∧ n % gap n = 0

instance (n : Nat) : Decidable (IsMagnitude n) := inferInstanceAs (Decidable (_ ∧ _))

/-- The whole number nearest to `num / den`, of two equally near ones the even one. -/
def divNearest (num den : Nat) : Nat :=
  let quotient := num / den
  let twice := 2 * (num % den)
  if twice < den then quotient
  else if den < twice then quotient + 1
  else if quotient % 2 = 0 then quotient else quotient + 1

/-- The double's magnitude nearest to `num / den` units, of two equally near ones the even one.
Past `rangeEnd` it goes on as if the exponents had no end. -/
def nearest (num den : Nat) : Nat :=
  let g := gap (num / den)
  divNearest num (den * g) * g

theorem divNearest_le (num den : Nat) : divNearest num den ≤ num / den + 1 := by
  unfold divNearest; dsimp only; split
  · omega
  · split
    · omega
    · split <;> omega

theorem le_divNearest (num den : Nat) : num / den ≤ divNearest num den := by
  unfold divNearest; dsimp only; split
  · omega
  · split
    · omega
    · split <;> omega

theorem mod_gap_eq_zero_of_le {n : Nat} (h : n ≤ significandEnd) : n % gap n = 0 := by
  change n ≤ 2 ^ 53 at h
  have hlog : n.log2 ≤ 53 := by
    by_cases hn : n = 0
    · simp [hn]
    · have := Nat.log2_self_le hn
      exact (Nat.pow_le_pow_iff_right (by decide)).mp (Nat.le_trans this h)
  rcases Nat.lt_or_ge n.log2 53 with hlt | hge
  · have : n.log2 - 52 = 0 := by omega
    simp [gap, this, Nat.mod_one]
  · have heq : n.log2 = 53 := by omega
    have hn : n ≠ 0 := by intro h0; simp [h0] at heq
    have hle := Nat.log2_self_le hn
    rw [heq] at hle
    have : n = 2 ^ 53 := Nat.le_antisymm h hle
    subst this
    decide

/-- A significand of at most 53 bits at any power of two is a multiple of the gap around it. -/
theorem mul_pow_mod_gap {m : Nat} (k : Nat) (h : m ≤ significandEnd) :
    (m * Nat.pow 2 k) % gap (m * Nat.pow 2 k) = 0 := by
  simp only [Nat.pow_eq]
  by_cases hm : m = 0
  · simp [hm]
  have hlog : (m * 2 ^ k).log2 = m.log2 + k := by
    have hpos : m * 2 ^ k ≠ 0 := Nat.mul_ne_zero hm (Nat.ne_of_gt (Nat.two_pow_pos k))
    have ⟨lower, upper⟩ := (Nat.log2_eq_iff hm).mp rfl
    rw [Nat.log2_eq_iff hpos, Nat.pow_add, Nat.add_right_comm, Nat.pow_add]
    exact ⟨Nat.mul_le_mul_right _ lower, Nat.mul_lt_mul_of_pos_right upper (Nat.two_pow_pos k)⟩
  have hsmall := mod_gap_eq_zero_of_le h
  unfold gap at hsmall ⊢
  rw [hlog]
  have hdvd : 2 ^ (m.log2 - 52) ∣ m := Nat.dvd_of_mod_eq_zero hsmall
  apply Nat.mod_eq_zero_of_dvd
  have hexp : m.log2 + k - 52 ≤ (m.log2 - 52) + k := by omega
  refine Nat.dvd_trans (Nat.pow_dvd_pow 2 hexp) ?_
  rw [Nat.pow_add]
  exact Nat.mul_dvd_mul_right hdvd _

theorem quotient_lt_of_gap (q : Nat) : q / gap q < significandEnd := by
  change q / 2 ^ (q.log2 - 52) < 2 ^ 53
  rw [Nat.div_lt_iff_lt_mul (Nat.two_pow_pos _), ← Nat.pow_add]
  exact Nat.lt_of_lt_of_le Nat.lt_log2_self (Nat.pow_le_pow_right (by decide) (by omega))

theorem rangeEnd_pos : 0 < rangeEnd := by decide +kernel

theorem isMagnitude_zero : IsMagnitude 0 := ⟨rangeEnd_pos, Nat.zero_mod _⟩

/-- Rounding lands on a double, as long as it stays in range. -/
theorem isMagnitude_nearest {num den : Nat} (h : nearest num den < rangeEnd) :
    IsMagnitude (nearest num den) := by
  refine ⟨h, ?_⟩
  unfold nearest
  dsimp only
  have hq := quotient_lt_of_gap (num / den)
  have hle := divNearest_le num (den * gap (num / den))
  rw [← Nat.div_div_eq_div_mul] at hle
  generalize hd : divNearest num (den * gap (num / den)) = d at *
  have hd53 : d ≤ significandEnd := by omega
  exact mul_pow_mod_gap _ hd53

end Binary64

/-- A finite double: its sign, and its magnitude in units of `2 ^ (-1074)`. Zero has both signs. -/
structure FiniteDouble where
  negative : Bool
  units : Nat
  isMagnitude : Binary64.IsMagnitude units
deriving DecidableEq

/-- A double-precision number. -/
inductive Binary64
  | nan
  | infinity (negative : Bool)
  | finite (x : FiniteDouble)
deriving DecidableEq

namespace FiniteDouble

/-- The value in units, with its sign. -/
def signedUnits (x : FiniteDouble) : Int := if x.negative then -(x.units : Int) else x.units

def zero : FiniteDouble := ⟨false, 0, Binary64.isMagnitude_zero⟩

instance : Inhabited FiniteDouble := ⟨zero⟩

end FiniteDouble

namespace Binary64

instance : Inhabited Binary64 := ⟨.finite .zero⟩

/-- The double nearest to `num / den` units with the sign given; infinity past the range. -/
def round (negative : Bool) (num den : Nat) : Binary64 :=
  if h : nearest num den < rangeEnd then .finite ⟨negative, nearest num den, isMagnitude_nearest h⟩
  else .infinity negative

/-- The double nearest to a whole number. -/
def ofNat (n : Nat) : Binary64 := round false (n * unitsPerOne) 1

/-- The double nearest to a signed whole number. -/
def ofInt (i : Int) : Binary64 := round (decide (i < 0)) (i.natAbs * unitsPerOne) 1

end Binary64

end CatalogClient
