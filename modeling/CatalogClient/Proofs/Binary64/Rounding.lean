import CatalogClient.Binary64.Arithmetic

/-!
# Rounding

What is used of rounding wherever doubles are compared: it keeps order (`nearest_le_nearest`), it
leaves magnitudes of doubles as they are (`nearest_mul_of_mod_gap`), and what is twice as much is
rounded to twice as much, unless it is among the smallest doubles (`nearest_two_mul`).
-/

namespace CatalogClient

namespace Binary64

/-! ## To the nearest whole number -/

/-- Down if less than half is left, up if more than half is. -/
theorem divNearest_cases (num den : Nat) :
    (divNearest num den = num / den ∧ 2 * (num % den) ≤ den) ∨
      (divNearest num den = num / den + 1 ∧ den ≤ 2 * (num % den)) := by
  unfold divNearest
  dsimp only
  split
  · exact .inl ⟨rfl, by omega⟩
  · split
    · exact .inr ⟨rfl, by omega⟩
    · split
      · exact .inl ⟨rfl, by omega⟩
      · exact .inr ⟨rfl, by omega⟩

theorem divNearest_le_divNearest {a b den : Nat} (le : a ≤ b) :
    divNearest a den ≤ divNearest b den := by
  rcases Nat.lt_or_ge (a / den) (b / den) with apart | close
  · exact Nat.le_trans (divNearest_le a den) (Nat.le_trans apart (le_divNearest b den))
  · have whole_a := Nat.div_add_mod a den
    have whole_b := Nat.div_add_mod b den
    have same : a / den = b / den := Nat.le_antisymm (Nat.div_le_div_right le) close
    rw [same] at whole_a
    rcases divNearest_cases a den with ⟨down, -⟩ | ⟨up, half⟩
    · rw [down, same]
      exact le_divNearest b den
    · rcases divNearest_cases b den with ⟨down, half'⟩ | ⟨up', -⟩
      · -- half of the divisor is left of both, so they are one number
        have equal : a = b := by omega
        exact Nat.le_of_eq (congrArg (divNearest · den) equal)
      · exact Nat.le_of_eq (by rw [up, up', same])

theorem divNearest_mul_left {c : Nat} (pos : 0 < c) (num den : Nat) :
    divNearest (c * num) (c * den) = divNearest num den := by
  have below : 2 * (c * (num % den)) < c * den ↔ 2 * (num % den) < den := by
    rw [Nat.mul_left_comm, Nat.mul_lt_mul_left pos]
  have above : c * den < 2 * (c * (num % den)) ↔ den < 2 * (num % den) := by
    rw [Nat.mul_left_comm, Nat.mul_lt_mul_left pos]
  unfold divNearest
  simp only [Nat.mul_div_mul_left _ _ pos, Nat.mul_mod_mul_left, below, above]

theorem divNearest_mul_self {den : Nat} (pos : 0 < den) (n : Nat) :
    divNearest (n * den) den = n := by
  unfold divNearest
  simp [Nat.mul_div_cancel n pos, pos]

/-- Quotients keep their order when they are rounded. -/
theorem divNearest_le_of_mul_le {a b c d : Nat} (pos : 0 < b) (pos' : 0 < d) (le : a * d ≤ c * b) :
    divNearest a b ≤ divNearest c d := by
  rw [← divNearest_mul_left pos' a b, ← divNearest_mul_left pos c d, Nat.mul_comm b d]
  exact divNearest_le_divNearest (by rwa [Nat.mul_comm d a, Nat.mul_comm b c])

/-! ## Gaps -/

theorem unitsPerOne_pos : 0 < unitsPerOne := by decide +kernel

theorem gap_pos (n : Nat) : 0 < gap n := Nat.two_pow_pos _

theorem log2_le_log2 {m n : Nat} (le : m ≤ n) : m.log2 ≤ n.log2 := by
  rcases Nat.eq_zero_or_pos m with rfl | pos
  · simp
  · have m_pos : m ≠ 0 := Nat.ne_of_gt pos
    exact (Nat.le_log2 (by omega)).mpr (Nat.le_trans (Nat.log2_self_le m_pos) le)

theorem gap_le_gap {m n : Nat} (le : m ≤ n) : gap m ≤ gap n :=
  Nat.pow_le_pow_right (by decide) (Nat.sub_le_sub_right (log2_le_log2 le) 52)

/-- Where gaps are wider they are at least twice as wide. -/
theorem two_mul_gap_le_of_lt {m n : Nat} (wider : gap m < gap n) : 2 * gap m ≤ gap n := by
  have exponents : m.log2 - 52 < n.log2 - 52 := (Nat.pow_lt_pow_iff_right (by decide)).mp wider
  have next : 2 ^ (m.log2 - 52 + 1) ≤ 2 ^ (n.log2 - 52) :=
    Nat.pow_le_pow_right (by decide) exponents
  rwa [Nat.pow_succ, Nat.mul_comm] at next

/-- The least significand of 53 bits. -/
def significandBegin : Nat := 4503599627370496

theorem significandEnd_eq : significandEnd = significandBegin * 2 := rfl

theorem le_log2 {n : Nat} (large : significandBegin ≤ n) : n ≠ 0 ∧ 52 ≤ n.log2 := by
  have nonzero : n ≠ 0 := Nat.ne_of_gt (Nat.lt_of_lt_of_le (by decide) large)
  exact ⟨nonzero, (Nat.le_log2 nonzero).mpr large⟩

/-- Above the smallest doubles all significands have 53 bits. -/
theorem le_div_gap {n : Nat} (large : significandBegin ≤ n) : significandBegin ≤ n / gap n := by
  obtain ⟨nonzero, log⟩ := le_log2 large
  rw [Nat.le_div_iff_mul_le (gap_pos n)]
  show 2 ^ 52 * 2 ^ (n.log2 - 52) ≤ n
  rw [← Nat.pow_add, Nat.add_sub_cancel' log]
  exact Nat.log2_self_le nonzero

theorem gap_two_mul {n : Nat} (large : significandBegin ≤ n) {m : Nat} (twice : m / 2 = n) :
    gap m = 2 * gap n := by
  obtain ⟨nonzero, log⟩ := le_log2 large
  have next : m.log2 = n.log2 + 1 := by
    rw [Nat.log2_def, if_pos (by omega), twice]
  show 2 ^ (m.log2 - 52) = 2 * 2 ^ (n.log2 - 52)
  rw [next, Nat.sub_add_comm log, Nat.pow_succ, Nat.mul_comm]

/-! ## To the nearest double -/

/-- A significand of 53 bits may be rounded up to the first one of 54. -/
theorem nearest_le (num den : Nat) :
    nearest num den ≤ significandEnd * gap (num / den) := by
  have few := quotient_lt_of_gap (num / den)
  have near := divNearest_le num (den * gap (num / den))
  rw [← Nat.div_div_eq_div_mul] at near
  exact Nat.mul_le_mul_right _ (by omega)

theorem le_nearest {num den : Nat} (large : significandBegin ≤ num / den) :
    significandBegin * gap (num / den) ≤ nearest num den := by
  have near := le_divNearest num (den * gap (num / den))
  rw [← Nat.div_div_eq_div_mul] at near
  exact Nat.mul_le_mul_right _ (Nat.le_trans (le_div_gap large) near)

/-- **Rounding keeps order.** -/
theorem nearest_le_nearest {a b c d : Nat} (pos : 0 < b) (pos' : 0 < d) (le : a * d ≤ c * b) :
    nearest a b ≤ nearest c d := by
  have quotients : a / b ≤ c / d := by
    rw [Nat.le_div_iff_mul_le pos']
    refine Nat.le_of_mul_le_mul_right ?_ pos
    calc a / b * d * b = a / b * b * d := Nat.mul_right_comm _ _ _
      _ ≤ a * d := Nat.mul_le_mul_right d (Nat.div_mul_le_self a b)
      _ ≤ c * b := le
  rcases Nat.lt_or_ge (gap (a / b)) (gap (c / d)) with wider | same
  · -- the greater one is among doubles of a higher power of two
    have large : significandBegin ≤ c / d := by
      refine Nat.le_of_not_lt fun small => Nat.lt_irrefl 1 ?_
      have one : gap (c / d) = 1 := by
        have log : (c / d).log2 ≤ 52 := Nat.le_trans (log2_le_log2 (Nat.le_of_lt small)) (by decide)
        show 2 ^ ((c / d).log2 - 52) = 1
        rw [Nat.sub_eq_zero_of_le log, Nat.pow_zero]
      calc 1 ≤ gap (a / b) := gap_pos _
        _ < gap (c / d) := wider
        _ = 1 := one
    calc nearest a b ≤ significandEnd * gap (a / b) := nearest_le a b
      _ = significandBegin * (2 * gap (a / b)) := by rw [significandEnd_eq, Nat.mul_assoc]
      _ ≤ significandBegin * gap (c / d) := Nat.mul_le_mul_left _ (two_mul_gap_le_of_lt wider)
      _ ≤ nearest c d := le_nearest large
  · have gaps : gap (a / b) = gap (c / d) := Nat.le_antisymm (gap_le_gap quotients) same
    unfold nearest
    rw [gaps]
    refine Nat.mul_le_mul_right _ (divNearest_le_of_mul_le ?_ ?_ ?_)
    · exact Nat.mul_pos pos (gap_pos _)
    · exact Nat.mul_pos pos' (gap_pos _)
    · rw [← Nat.mul_assoc, ← Nat.mul_assoc]
      exact Nat.mul_le_mul_right _ le

/-- A magnitude of a double is left as it is. -/
theorem nearest_mul_of_mod_gap {n den : Nat} (pos : 0 < den) (whole : n % gap n = 0) :
    nearest (n * den) den = n := by
  have parts : n / gap n * gap n = n := Nat.div_mul_cancel (Nat.dvd_of_mod_eq_zero whole)
  unfold nearest
  simp only [Nat.mul_div_cancel n pos]
  have grouped : n * den = n / gap n * (den * gap n) := by
    rw [Nat.mul_left_comm, parts, Nat.mul_comm]
  rw [grouped, divNearest_mul_self (Nat.mul_pos pos (gap_pos n)), parts]

/-- **What is twice as much is rounded to twice as much**, above the smallest doubles. -/
theorem nearest_two_mul {num den : Nat} (large : significandBegin ≤ num / den) :
    nearest (2 * num) den = 2 * nearest num den := by
  have halved : 2 * num / den / 2 = num / den := by
    rw [Nat.div_div_eq_div_mul, Nat.mul_comm den 2, Nat.mul_div_mul_left num den (by decide)]
  unfold nearest
  simp only [gap_two_mul large halved]
  rw [Nat.mul_left_comm den 2, divNearest_mul_left (by decide)]
  ac_rfl

theorem four_mul_nearest_le {num num' den : Nat} (pos : 0 < den)
    (large : significandBegin ≤ num / den) (far : 2 * (2 * num) ≤ num') :
    4 * nearest num den ≤ nearest num' den := by
  have twice_large : significandBegin ≤ 2 * num / den :=
    Nat.le_trans large (Nat.div_le_div_right (Nat.le_mul_of_pos_left _ (by decide)))
  calc 4 * nearest num den = 2 * (2 * nearest num den) := by omega
    _ = nearest (2 * (2 * num)) den := by rw [nearest_two_mul twice_large, nearest_two_mul large]
    _ ≤ nearest num' den := nearest_le_nearest pos pos (Nat.mul_le_mul_right den far)

/-- The odd part of a power of ten is a power of five, so it has fewer bits than the power itself. -/
theorem powerOfTen_mul_powerOfTwo (n k : Nat) :
    Nat.pow 10 n * Nat.pow 2 k = Nat.pow 5 n * Nat.pow 2 (n + k) := by
  show (5 * 2) ^ n * 2 ^ k = 5 ^ n * 2 ^ (n + k)
  rw [Nat.mul_pow, Nat.pow_add, Nat.mul_assoc]

end Binary64

end CatalogClient
