import Mathlib.Tactic
import EntityQuery.Double

/-!
# Rounding to doubles

What is rounded down to a rank or less comes to that rank at most, and what is not far below 1 is
off by at most one part in `2 ^ 53`. So a quotient of doubles by one that is 1 or more is a double,
and a product is one if it is not larger than the largest.

* `Double.rankNear_le`, `Double.units_rankNear_le`, `Double.unitsPerOne_le_units_rankNear`: bounds
  on the rounded magnitude;
* `Double.isSome_ofInt?`, `Double.isSome_div?`, `Double.isSome_mul?`: what is finite.
-/

namespace EntityQuery.Double

variable {num den n r t k scale : Nat} {a b : Double}

/-! ## Whole numbers -/

theorem unitsAt_mono (h : n ≤ r) : unitsAt n ≤ unitsAt r := by
  rcases Nat.lt_or_eq_of_le h with h | rfl
  · exact (unitsAt_strictMono h).le
  · exact le_rfl

/-- The magnitude of a rank that is given by its binade and its place there. -/
theorem unitsAt_add (ht : t ≤ 2 * binade) (h : scale = 0 ∨ binade ≤ t) :
    unitsAt (scale * binade + t) = t * 2 ^ scale := by
  have hpos : 0 < binade := by decide
  rcases Nat.lt_or_ge t binade with hlt | hge
  · obtain rfl : scale = 0 := h.resolve_right (Nat.not_le.2 hlt)
    rw [Nat.zero_mul, Nat.zero_add, unitsAt, if_pos hlt, Nat.pow_zero, Nat.mul_one]
  · have hrank : ¬ scale * binade + t < binade := by omega
    rw [unitsAt, if_neg hrank, Nat.mul_comm scale, Nat.mul_add_mod, Nat.mul_add_div hpos]
    rcases Nat.lt_or_eq_of_le ht with hlt | rfl
    · have hdiv : t / binade = 1 := Nat.div_eq_of_lt_le (by omega) (by omega)
      have hmod : t % binade = t - binade := by
        rw [Nat.mod_eq_sub_mod hge, Nat.mod_eq_of_lt (by omega)]
      rw [hdiv, hmod, Nat.add_sub_cancel' hge, Nat.add_sub_cancel]
      rfl
    · have hdiv : 2 * binade / binade = 2 := Nat.mul_div_cancel 2 hpos
      have hmod : 2 * binade % binade = 0 := Nat.mul_mod_left 2 binade
      rw [hdiv, hmod, Nat.add_zero]
      show binade * 2 ^ (scale + 1) = 2 * binade * 2 ^ scale
      ring

theorem le_divRound (num den : Nat) : num / den ≤ divRound num den := by
  simp only [divRound]
  split_ifs <;> omega

theorem divRound_le (hden : 0 < den) (h : num ≤ k * den) : divRound num den ≤ k := by
  have hle : num / den ≤ k := Nat.div_le_of_le_mul (by rw [Nat.mul_comm]; exact h)
  rcases Nat.lt_or_eq_of_le hle with hlt | heq
  · simp only [divRound]
    split_ifs <;> omega
  · -- the quotient is exact
    have hmod : num % den = 0 := by
      have hsplit := Nat.div_add_mod num den
      rw [heq, Nat.mul_comm] at hsplit
      omega
    simp only [divRound, hmod, heq]
    rw [if_pos (by omega)]

theorem two_mul_divRound_le (num : Nat) (hden : 0 < den) :
    2 * (den * divRound num den) ≤ 2 * num + den := by
  have hsplit := Nat.div_add_mod num den
  have hmod := Nat.mod_lt num hden
  simp only [divRound]
  split_ifs with hlow hhigh
  · omega
  · rw [Nat.mul_add, Nat.mul_one]
    omega
  · have hstep : den * (num / den + num / den % 2) ≤ den * (num / den) + den := by
      rw [Nat.mul_add]
      have hle : num / den % 2 ≤ 1 := by omega
      have := Nat.mul_le_mul_left den hle
      omega
    omega

/-! ## Rounding -/

/-- The power of two by which a quotient is scaled down before it is rounded to a whole number. -/
def shift (num den : Nat) : Nat := (num * unitsPerOne / den).log2 - 52

theorem rankNear_eq (num den : Nat) : rankNear num den =
    shift num den * binade + divRound (num * unitsPerOne) (den * 2 ^ shift num den) := rfl

theorem binade_eq : binade = 2 ^ 52 := rfl

/-- A quotient that is scaled down is at least one binade. -/
theorem le_of_shift (h : shift num den ≠ 0) :
    binade * (den * 2 ^ shift num den) ≤ num * unitsPerOne := by
  have hne : num * unitsPerOne / den ≠ 0 := by
    intro hzero
    rw [shift, hzero] at h
    exact h (by decide)
  have hlog : (num * unitsPerOne / den).log2 = 52 + shift num den := by
    unfold shift at h ⊢
    omega
  have hpow : 2 ^ (52 + shift num den) ≤ num * unitsPerOne / den := by
    rw [← hlog]
    exact Nat.log2_self_le hne
  calc binade * (den * 2 ^ shift num den) = 2 ^ (52 + shift num den) * den := by
        rw [binade_eq, Nat.pow_add]; ring
    _ ≤ num * unitsPerOne / den * den := Nat.mul_le_mul_right den hpow
    _ ≤ num * unitsPerOne := Nat.div_mul_le_self _ _

theorem divRound_shift_le (num : Nat) (hden : 0 < den) :
    divRound (num * unitsPerOne) (den * 2 ^ shift num den) ≤ 2 * binade := by
  have hlt : num * unitsPerOne / den < 2 ^ (53 + shift num den) := by
    refine lt_of_lt_of_le Nat.lt_log2_self (Nat.pow_le_pow_right (by decide) ?_)
    unfold shift
    omega
  refine divRound_le (by positivity) ?_
  rw [Nat.div_lt_iff_lt_mul hden] at hlt
  refine hlt.le.trans (le_of_eq ?_)
  rw [binade_eq, Nat.pow_add]
  ring

theorem shift_eq_zero_or (num : Nat) (hden : 0 < den) : shift num den = 0 ∨
    binade ≤ divRound (num * unitsPerOne) (den * 2 ^ shift num den) := by
  refine or_iff_not_imp_left.2 fun h => le_trans ?_ (le_divRound _ _)
  rw [Nat.le_div_iff_mul_le (by positivity)]
  exact le_of_shift h

theorem units_rankNear (num : Nat) (hden : 0 < den) : unitsAt (rankNear num den) =
    divRound (num * unitsPerOne) (den * 2 ^ shift num den) * 2 ^ shift num den :=
  unitsAt_add (divRound_shift_le num hden) (shift_eq_zero_or num hden)

/-- **What is not above the magnitude of a rank is not rounded above it.** -/
theorem rankNear_le (hden : 0 < den) (h : num * unitsPerOne ≤ unitsAt r * den) :
    rankNear num den ≤ r := by
  by_contra hlt
  rw [Nat.not_le] at hlt
  have hunits := units_rankNear num hden
  have hle := divRound_shift_le num hden
  have hcases := shift_eq_zero_or num hden
  have hfull : shift num den ≠ 0 → _ := le_of_shift
  have hdown : ∀ k, num * unitsPerOne ≤ k * (den * 2 ^ shift num den) → _ ≤ k := fun k =>
    divRound_le (by positivity)
  rw [rankNear_eq] at hlt hunits
  generalize shift num den = scale at *
  generalize divRound (num * unitsPerOne) (den * 2 ^ scale) = t at *
  by_cases hprev : scale = 0 ∨ binade + 1 ≤ t
  · -- the rank below is a step of the same size away
    have ht : 1 ≤ t := by
      rcases hprev with rfl | ht
      · omega
      · omega
    have hprevUnits : unitsAt (scale * binade + (t - 1)) = (t - 1) * 2 ^ scale :=
      unitsAt_add (by omega) (by omega)
    have hmono : unitsAt r ≤ (t - 1) * 2 ^ scale := by
      rw [← hprevUnits]
      exact unitsAt_mono (by omega)
    have hbelow : num * unitsPerOne ≤ (t - 1) * (den * 2 ^ scale) :=
      calc num * unitsPerOne ≤ unitsAt r * den := h
        _ ≤ (t - 1) * 2 ^ scale * den := Nat.mul_le_mul_right den hmono
        _ = (t - 1) * (den * 2 ^ scale) := by ring
    have := hdown _ hbelow
    omega
  · -- the rank is the first of its binade, and nothing is rounded up to it
    have hscale : scale ≠ 0 := fun hzero => hprev (.inl hzero)
    have ht : t = binade := by omega
    have hbelow : unitsAt r * den < binade * 2 ^ scale * den := by
      rw [ht] at hunits hlt
      rw [← hunits]
      exact Nat.mul_lt_mul_of_pos_right (unitsAt_strictMono hlt) hden
    have := hfull hscale
    have hsame : binade * (den * 2 ^ scale) = binade * 2 ^ scale * den := by ring
    omega

/-- **What is rounded up grows by one part in `2 ^ 53` at most**, but for the smallest doubles. -/
theorem units_rankNear_le (hden : 0 < den) (h : binade * den ≤ num * unitsPerOne) :
    unitsAt (rankNear num den) * den * 2 ^ 53 ≤ num * unitsPerOne * (2 ^ 53 + 1) := by
  have hstep : binade * (den * 2 ^ shift num den) ≤ num * unitsPerOne := by
    by_cases hshift : shift num den = 0
    · rw [hshift, Nat.pow_zero, Nat.mul_one]
      exact h
    · exact le_of_shift hshift
  have hscaled : 0 < den * 2 ^ shift num den := by positivity
  have hround := two_mul_divRound_le (num * unitsPerOne) hscaled
  have hunits : unitsAt (rankNear num den) * den =
      den * 2 ^ shift num den *
        divRound (num * unitsPerOne) (den * 2 ^ shift num den) := by
    rw [units_rankNear num hden]
    ring
  rw [hunits]
  rw [binade_eq] at hstep
  generalize den * 2 ^ shift num den * divRound _ _ = rounded at *
  generalize den * 2 ^ shift num den = step at *
  generalize num * unitsPerOne = exact at *
  omega

theorem units_rankNear_whole_le (h : n ≠ 0) :
    unitsAt (rankNear n 1) * 2 ^ 53 ≤ n * unitsPerOne * (2 ^ 53 + 1) := by
  have hsmallest : binade * 1 ≤ unitsPerOne := by decide +kernel
  have hround := units_rankNear_le Nat.one_pos
    (hsmallest.trans (Nat.le_mul_of_pos_left _ (Nat.pos_of_ne_zero h)))
  rwa [Nat.mul_one] at hround

/-- What is 1 or more is not rounded below 1. -/
theorem unitsPerOne_le_units_rankNear (hden : 0 < den) (h : den ≤ num) :
    unitsPerOne ≤ unitsAt (rankNear num den) := by
  obtain ⟨places, hone⟩ : ∃ places, unitsPerOne = 2 ^ places :=
    ⟨1074, by decide +kernel⟩
  rw [units_rankNear num hden]
  rcases Nat.lt_or_ge places (shift num den) with hlarge | hsmall
  · -- a whole binade of such steps is more than 1
    have hfull := (shift_eq_zero_or num hden).resolve_left (by omega)
    have hpos : 1 ≤ binade := by decide
    calc unitsPerOne = 1 * 2 ^ places := by rw [hone, Nat.one_mul]
      _ ≤ divRound (num * unitsPerOne) (den * 2 ^ shift num den) * 2 ^ shift num den :=
        Nat.mul_le_mul (hpos.trans hfull) (Nat.pow_le_pow_right (by decide) hlarge.le)
  · -- 1 is a whole number of steps
    have hsplit : 2 ^ places = 2 ^ (places - shift num den) * 2 ^ shift num den := by
      rw [← Nat.pow_add, Nat.sub_add_cancel hsmall]
    have hquotient : 2 ^ (places - shift num den) ≤
        num * unitsPerOne / (den * 2 ^ shift num den) := by
      rw [Nat.le_div_iff_mul_le (by positivity)]
      calc 2 ^ (places - shift num den) * (den * 2 ^ shift num den) = den * 2 ^ places := by
            rw [hsplit]; ring
        _ ≤ num * unitsPerOne := by rw [hone]; exact Nat.mul_le_mul_right _ h
    calc unitsPerOne = 2 ^ (places - shift num den) * 2 ^ shift num den := hone.trans hsplit
      _ ≤ divRound (num * unitsPerOne) (den * 2 ^ shift num den) * 2 ^ shift num den :=
        Nat.mul_le_mul_right _ (hquotient.trans (le_divRound _ _))

/-! ## Finite results -/

/-- The magnitude of the largest double. -/
def maxUnits : Nat := unitsAt (rankBound - 1)

theorem units_le_maxUnits (a : Double) : a.units ≤ maxUnits := by
  have := a.rank_lt
  exact unitsAt_mono (by omega)

theorem units_of_round? {negative : Bool} (h : round? negative num den = some a) :
    a.units = unitsAt (rankNear num den) := by
  rw [round?] at h
  split_ifs at h
  cases h
  rfl

theorem isSome_round? {negative : Bool} (hden : 0 < den)
    (h : num * unitsPerOne ≤ maxUnits * den) : (round? negative num den).isSome = true := by
  have hrank : rankNear num den < rankBound := by
    have hpos : 0 < rankBound := by decide
    have := rankNear_le hden h
    omega
  rw [round?, dif_pos hrank]
  rfl

theorem unitsPerOne_pos : 0 < unitsPerOne := by decide +kernel

/-- A whole number that fits a word of 64 bits is rounded to a double. -/
theorem isSome_ofInt? (h : n ≤ 18446744073709551615) : (ofInt? n).isSome = true := by
  have hmax : 18446744073709551615 * unitsPerOne ≤ maxUnits := by decide +kernel
  refine isSome_round? Nat.one_pos ?_
  rw [Nat.mul_one, Int.natAbs_natCast]
  exact (Nat.mul_le_mul_right unitsPerOne h).trans hmax

theorem isSome_div? (h : unitsPerOne ≤ b.units) : (a.div? b).isSome = true := by
  have hpos : 0 < b.units := unitsPerOne_pos.trans_le h
  rw [div?, if_neg hpos.ne']
  exact isSome_round? hpos (Nat.mul_le_mul (units_le_maxUnits a) h)

theorem isSome_mul? (h : a.units * b.units ≤ maxUnits * unitsPerOne) :
    (a.mul? b).isSome = true := by
  refine isSome_round? (Nat.mul_pos unitsPerOne_pos unitsPerOne_pos) ?_
  rw [← Nat.mul_assoc]
  exact Nat.mul_le_mul_right unitsPerOne h

end EntityQuery.Double
