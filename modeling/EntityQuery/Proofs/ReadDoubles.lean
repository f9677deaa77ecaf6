import Mathlib.Tactic
import EntityQuery.Proofs.PrintedNumbers

/-!
# Doubles read from their digits

The shortest decimal of a double lies within half a step of it. The reader works with rounded
numbers, but what it finds for such a decimal is a double again: it drops digits only, and what
rounding adds is too little to pass the largest double.

* `Scientific.value`: the number that digits and a power of ten write;
* `Double.value_shortest_le`: the shortest decimal is not above half a step;
* `Json.Numeral.magnitude`, `Scientific.magnitude_numeral`: the number that a numeral writes;
* `Json.Numeral.isSome_double?`: the numerals that are read as doubles;
* **`Double.isSome_double?`**: every double is read as a double.
-/

namespace EntityQuery

/-! ## Digits -/

namespace Text

theorem foldl_digits (s : Nat) (ds : List Nat) :
    ds.foldl (fun n d => n * 10 + d) s = s * 10 ^ ds.length + ofDigits ds := by
  induction ds generalizing s with
  | nil => simp [ofDigits]
  | cons d ds ih =>
    rw [ofDigits, List.foldl_cons, List.foldl_cons, ih, ih, List.length_cons, Nat.pow_succ]
    ring

theorem ofDigits_cons (d : Nat) (ds : List Nat) :
    ofDigits (d :: ds) = d * 10 ^ ds.length + ofDigits ds := by
  rw [ofDigits, List.foldl_cons, foldl_digits, Nat.zero_mul, Nat.zero_add]

theorem ofDigits_append (ds es : List Nat) :
    ofDigits (ds ++ es) = ofDigits ds * 10 ^ es.length + ofDigits es := by
  rw [ofDigits, List.foldl_append, foldl_digits]
  rfl

theorem ofDigits_zeros (n : Nat) : ofDigits (List.replicate n 0) = 0 := by
  induction n with
  | zero => rfl
  | succ n ih => rw [List.replicate_succ, ofDigits_cons, ih, Nat.zero_mul]

theorem ofDigits_lt {ds : List Nat} (h : ∀ d ∈ ds, d < 10) : ofDigits ds < 10 ^ ds.length := by
  induction ds with
  | nil => decide
  | cons d ds ih =>
    obtain ⟨hd, hds⟩ := List.forall_mem_cons.1 h
    have := ih hds
    rw [ofDigits_cons, List.length_cons, Nat.pow_succ]
    calc d * 10 ^ ds.length + ofDigits ds < d * 10 ^ ds.length + 10 ^ ds.length := by omega
      _ = (d + 1) * 10 ^ ds.length := by ring
      _ ≤ 10 * 10 ^ ds.length := Nat.mul_le_mul_right _ hd
      _ = 10 ^ ds.length * 10 := by ring

end Text

/-! ## Shortest decimals -/

/-- The number that digits with a point after the first one and a power of ten write. -/
def Scientific.value (s : Scientific) : ℚ :=
  Text.ofDigits s.digits * 10 ^ (s.exponent + 1 - s.digits.length)

namespace Double

variable {rank x den scale n : Nat} {lead last : Int}

theorem rtakeWhile_zeros (cs : List Char) :
    cs.rtakeWhile (· == '0') = List.replicate (cs.rtakeWhile (· == '0')).length '0' := by
  refine List.eq_replicate_iff.2 ⟨rfl, fun c hc => ?_⟩
  simpa using List.mem_rtakeWhile_imp hc

/-- The digits of a number are its significant ones and zeros. -/
theorem exists_digitsOf_eq (x : Nat) :
    ∃ zeros, Text.digitsOf x = significantDigits x ++ List.replicate zeros 0 := by
  refine ⟨((Nat.toDigits 10 x).rtakeWhile (· == '0')).length, ?_⟩
  have hsplit : Nat.toDigits 10 x = (Nat.toDigits 10 x).rdropWhile (· == '0') ++
      (Nat.toDigits 10 x).rtakeWhile (· == '0') := List.rdropWhile_append_rtakeWhile.symm
  have hzeros : ((Nat.toDigits 10 x).rtakeWhile (· == '0')).map (fun c => c.toNat - '0'.toNat) =
      List.replicate ((Nat.toDigits 10 x).rtakeWhile (· == '0')).length 0 := by
    rw [rtakeWhile_zeros, List.map_replicate, List.length_replicate]
    rfl
  rw [← hzeros, significantDigits_eq, ← List.map_append, ← hsplit]
  rfl

/-- Without the zeros at the end, digits mean the same with a greater power of ten. -/
theorem value_significantDigits (x : Nat) (last : Int) :
    Scientific.value ⟨significantDigits x, last + width x - 1⟩ = x * 10 ^ last := by
  obtain ⟨zeros, hzeros⟩ := exists_digitsOf_eq x
  have hx : (x : ℚ) = Text.ofDigits (significantDigits x) * 10 ^ zeros := by
    have h := congrArg Text.ofDigits hzeros
    rw [Text.ofDigits_digitsOf, Text.ofDigits_append, Text.ofDigits_zeros, List.length_replicate,
      Nat.add_zero] at h
    exact_mod_cast h
  have hwidth : width x = (significantDigits x).length + zeros := by
    have h := congrArg List.length hzeros
    rw [List.length_append, List.length_replicate, Text.digitsOf, List.length_map] at h
    exact h
  have hexponent : last + (width x : Int) - 1 + 1 - (significantDigits x).length =
      zeros + last := by
    rw [hwidth]
    push_cast
    ring
  rw [Scientific.value, hexponent, hx, zpow_add₀ (by norm_num), zpow_natCast, mul_assoc]

theorem divRound_le_succ (num : Nat) (hden : 0 < den) : divRound num den ≤ num / den + 1 := by
  refine divRound_le hden ?_
  have := Nat.div_add_mod num den
  have := Nat.mod_lt num hden
  rw [Nat.add_mul, Nat.mul_comm (num / den)]
  omega

theorem roundsTo_of_onGrid? (hden : 0 < den) (h : onGrid? rank den scale = some x) :
    roundsTo rank x den scale = true := by
  have hlow := le_divRound (unitsAt rank * scale) den
  have hhigh := divRound_le_succ (unitsAt rank * scale) hden
  simp only [onGrid?] at h
  split at h
  case h_1 hdown hup =>
    cases h
    -- the nearer of two is one of the two
    rcases Nat.eq_or_lt_of_le hlow with heq | hlt
    · rwa [← heq]
    · rwa [Nat.le_antisymm hhigh hlt]
  case h_2 hdown hup =>
    cases h
    exact hdown
  case h_3 hdown hup =>
    cases h
    exact hup
  case h_4 => cases h

theorem two_mul_le_of_roundsTo (h : roundsTo rank x den scale = true) :
    2 * x * den ≤ (unitsAt rank + unitsAt (rank + 1)) * scale := by
  simp only [roundsTo] at h
  split_ifs at h
  · rw [Bool.and_eq_true, decide_eq_true_eq, decide_eq_true_eq] at h
    exact h.2
  · rw [Bool.and_eq_true, decide_eq_true_eq, decide_eq_true_eq] at h
    exact h.2.le

theorem value_le_of_ofWidth? (h : ofWidth? rank lead n = some (x, last)) :
    2 * (x * 10 ^ last * unitsPerOne : ℚ) ≤ unitsAt rank + unitsAt (rank + 1) := by
  simp only [ofWidth?] at h
  split_ifs at h with hlast
  all_goals
    obtain ⟨y, hx, heq⟩ := Option.map_eq_some_iff.1 h
    cases heq
  · have hle := two_mul_le_of_roundsTo (roundsTo_of_onGrid? unitsPerOne_pos hx)
    have hpower : (10 : ℚ) ^ (lead - n + 1) = (10 ^ (lead - n + 1).natAbs)⁻¹ := by
      rw [← zpow_natCast, ← zpow_neg]
      congr 1
      omega
    rw [Nat.pow_eq] at hle
    rw [hpower]
    generalize (lead - n + 1).natAbs = k at hle ⊢
    have hcast : (2 * x * unitsPerOne : ℚ) ≤ (unitsAt rank + unitsAt (rank + 1)) * 10 ^ k := by
      exact_mod_cast hle
    calc 2 * (x * (10 ^ k)⁻¹ * unitsPerOne : ℚ) = 2 * x * unitsPerOne * (10 ^ k)⁻¹ := by ring
      _ ≤ (unitsAt rank + unitsAt (rank + 1)) * 10 ^ k * (10 ^ k)⁻¹ := by gcongr
      _ = unitsAt rank + unitsAt (rank + 1) := mul_inv_cancel_right₀ (by positivity) _
  · have hle := two_mul_le_of_roundsTo (roundsTo_of_onGrid?
      (Nat.mul_pos unitsPerOne_pos (Nat.pow_pos (by decide))) hx)
    have hpower : (10 : ℚ) ^ (lead - n + 1) = 10 ^ (lead - n + 1).natAbs := by
      rw [← zpow_natCast]
      congr 1
      omega
    rw [Nat.mul_one] at hle
    rw [hpower]
    generalize (lead - n + 1).natAbs = k at hle ⊢
    have hcast : (2 * x * (unitsPerOne * 10 ^ k) : ℚ) ≤ unitsAt rank + unitsAt (rank + 1) := by
      exact_mod_cast hle
    refine le_trans (le_of_eq ?_) hcast
    ring

/-- **The shortest decimal is not above half a step.** -/
theorem value_shortest_le (d : Double) :
    2 * (d.shortest.value * unitsPerOne) ≤ unitsAt d.rank + unitsAt (d.rank + 1) := by
  have hzero : 2 * (Scientific.value ⟨[0], 0⟩ * unitsPerOne) ≤
      (unitsAt d.rank + unitsAt (d.rank + 1) : ℚ) := by
    have hvalue : Scientific.value ⟨[0], 0⟩ = 0 := by simp [Scientific.value, Text.ofDigits]
    rw [hvalue, zero_mul, mul_zero]
    positivity
  simp only [shortest]
  split_ifs with hd
  · exact hzero
  · split
    · rename_i x last h
      obtain ⟨n, -, hn⟩ := List.exists_of_findSome?_eq_some h
      rw [value_significantDigits]
      exact value_le_of_ofWidth? hn
    · exact hzero

end Double

/-! ## Reading -/

namespace Json.Numeral

variable {s s' : Nat} {e e' : Int} {ds : List Nat}

theorem isUnsigned_natCast {n : Nat} :
    isUnsigned (n : Int) = true ↔ n ≤ 18446744073709551615 := by
  have hmax : unsignedMax = 18446744073709551615 := rfl
  rw [isUnsigned, Bool.and_eq_true, decide_eq_true_eq, decide_eq_true_eq, hmax]
  omega

/-- Digits that fit a word are all taken. -/
theorem leading_eq (h : s * 10 ^ ds.length + Text.ofDigits ds ≤ 18446744073709551615) :
    leading s ds = (s * 10 ^ ds.length + Text.ofDigits ds, 0) := by
  induction ds generalizing s with
  | nil => simp [leading, Text.ofDigits]
  | cons d ds ih =>
    have hstep : s * 10 ^ (d :: ds).length + Text.ofDigits (d :: ds) =
        (s * 10 + d) * 10 ^ ds.length + Text.ofDigits ds := by
      rw [Text.ofDigits_cons, List.length_cons, Nat.pow_succ]
      ring
    rw [hstep] at h ⊢
    have hfits : s * 10 + d ≤ 18446744073709551615 :=
      (Nat.le_mul_of_pos_right _ (by positivity)).trans ((Nat.le_add_right _ _).trans h)
    rw [leading, if_pos (isUnsigned_natCast.2 hfits), ih h]

theorem trailing_le (h : trailing s e ds = (s', e')) : (s' * 10 ^ e' : ℚ) ≤
    (s * 10 ^ ds.length + Text.ofDigits ds : Nat) * 10 ^ (e - ds.length) := by
  induction ds generalizing s e with
  | nil =>
    cases h
    simp [Text.ofDigits]
  | cons d ds ih =>
    have hstep : s * 10 ^ (d :: ds).length + Text.ofDigits (d :: ds) =
        (s * 10 + d) * 10 ^ ds.length + Text.ofDigits ds := by
      rw [Text.ofDigits_cons, List.length_cons, Nat.pow_succ]
      ring
    have hlast : e - ((d :: ds).length : Int) = e - 1 - ds.length := by
      rw [List.length_cons]
      push_cast
      ring
    rw [trailing] at h
    split_ifs at h with hfits
    · rw [hstep, hlast]
      exact ih h
    · cases h
      -- the digits that are dropped add to the number only
      have hpower : (10 : ℚ) ^ (e' - ((d :: ds).length : Int)) * 10 ^ (d :: ds).length =
          10 ^ e' := by
        rw [← zpow_natCast, ← zpow_add₀ (by norm_num), sub_add_cancel]
      have hle : (s' * 10 ^ (d :: ds).length : ℚ) ≤
          (s' * 10 ^ (d :: ds).length + Text.ofDigits (d :: ds) : Nat) := by
        push_cast
        exact le_add_of_nonneg_right (Nat.cast_nonneg _)
      calc (s' * 10 ^ e' : ℚ) =
            s' * 10 ^ (d :: ds).length * 10 ^ (e' - ((d :: ds).length : Int)) := by
            rw [← hpower]; ring
        _ ≤ _ := mul_le_mul_of_nonneg_right hle (by positivity)

theorem trailing_fits (hs : s ≤ 18446744073709551615) (h : trailing s e ds = (s', e')) :
    s' ≤ 18446744073709551615 := by
  induction ds generalizing s e with
  | nil =>
    cases h
    exact hs
  | cons d ds ih =>
    rw [trailing] at h
    split_ifs at h with hfits
    · exact ih (isUnsigned_natCast.1 hfits) h
    · cases h
      exact hs

end Json.Numeral

namespace Double

variable {n k : Nat} {e : Int} {d : Double}

theorem units_of_ofInt? (h : ofInt? n = some d) : d.units = unitsAt (rankNear n 1) := by
  rw [units_of_round? h, Int.natAbs_natCast]

/-- The powers of ten up to `10 ^ 308` are rounded by one part in `2 ^ 53` at most. -/
theorem exists_powerOfTen? (h : k ≤ 308) : ∃ p, powerOfTen? k = some p ∧
    unitsPerOne ≤ p.units ∧ p.units * 2 ^ 53 ≤ 10 ^ k * unitsPerOne * (2 ^ 53 + 1) := by
  obtain ⟨m, hm, hgreatest⟩ : ∃ m, m = 308 ∧ 10 ^ m * unitsPerOne ≤ maxUnits :=
    ⟨_, rfl, by decide +kernel⟩
  have hle : 10 ^ k * unitsPerOne ≤ maxUnits * 1 := by
    rw [Nat.mul_one]
    exact (Nat.mul_le_mul_right _ (Nat.pow_le_pow_right (by decide) (hm ▸ h))).trans hgreatest
  obtain ⟨p, hp⟩ : ∃ p, powerOfTen? k = some p :=
    Option.isSome_iff_exists.1 (isSome_round? Nat.one_pos hle)
  have hunits : p.units = unitsAt (rankNear (10 ^ k) 1) := units_of_round? hp
  have hpos : 0 < 10 ^ k := Nat.pow_pos (by decide)
  refine ⟨p, hp, ?_, ?_⟩
  · rw [hunits]
    exact unitsPerOne_le_units_rankNear Nat.one_pos hpos
  · rw [hunits]
    exact units_rankNear_whole_le hpos.ne'

/-- A whole number times a power of ten that stays two steps below the largest double does not pass
it by rounding. -/
theorem isSome_mul?_powerOfTen {p : Double} (hn : n ≠ 0) (hd : ofInt? n = some d)
    (hp : p.units * 2 ^ 53 ≤ 10 ^ k * unitsPerOne * (2 ^ 53 + 1))
    (h : n * 10 ^ k * unitsPerOne ≤ unitsAt (rankBound - 3)) : (d.mul? p).isSome = true := by
  have hmargin : unitsAt (rankBound - 3) * (2 ^ 53 + 1) ^ 2 ≤ maxUnits * 2 ^ 106 := by
    decide +kernel
  have hround := units_rankNear_whole_le hn
  rw [← units_of_ofInt? hd] at hround
  refine isSome_mul? ?_
  generalize unitsAt (rankBound - 3) = bound at *
  generalize maxUnits = greatest at *
  generalize unitsPerOne = one at *
  refine Nat.le_of_mul_le_mul_right ?_ (show 0 < 2 ^ 106 by decide)
  calc d.units * p.units * 2 ^ 106 = d.units * 2 ^ 53 * (p.units * 2 ^ 53) := by ring
    _ ≤ n * one * (2 ^ 53 + 1) * (10 ^ k * one * (2 ^ 53 + 1)) := Nat.mul_le_mul hround hp
    _ = n * 10 ^ k * one * (2 ^ 53 + 1) ^ 2 * one := by ring
    _ ≤ bound * (2 ^ 53 + 1) ^ 2 * one := by gcongr
    _ ≤ greatest * 2 ^ 106 * one := Nat.mul_le_mul_right one hmargin
    _ = greatest * one * 2 ^ 106 := by ring

theorem isZero_of_ofInt? (h : ofInt? (0 : Nat) = some d) : d.isZero = true := by
  have hzero : ofInt? (0 : Nat) = some zero := by decide +kernel
  rw [← Option.some.inj (hzero.symm.trans h)]
  rfl

theorem le_of_power_le (hn : n ≠ 0) (h : n * 10 ^ k * unitsPerOne ≤ unitsAt (rankBound - 3)) :
    k ≤ 308 := by
  obtain ⟨m, hm, hlarge⟩ : ∃ m, m = 308 + 1 ∧ unitsAt (rankBound - 3) < 10 ^ m * unitsPerOne :=
    ⟨_, rfl, by decide +kernel⟩
  generalize unitsAt (rankBound - 3) = bound at *
  generalize unitsPerOne = one at *
  by_contra hk
  have hpower : 10 ^ m ≤ n * 10 ^ k :=
    (Nat.pow_le_pow_right (by decide) (by omega)).trans
      (Nat.le_mul_of_pos_left _ (Nat.pos_of_ne_zero hn))
  exact (hlarge.trans_le (Nat.mul_le_mul_right one hpower)).not_ge h

theorem isSome_div?_powerOfTen (hk : k ≤ 308) :
    ((powerOfTen? k).bind (d.div? ·)).isSome = true := by
  obtain ⟨p, hp, hone, -⟩ := exists_powerOfTen? hk
  rw [hp]
  exact isSome_div? hone

theorem isSome_scale?_neg (h : e < 0) : (Json.Numeral.scale? d e).isSome = true := by
  rw [Json.Numeral.scale?]
  have hlarge : ¬ 308 < e := by omega
  have hpositive : ¬ 0 ≤ e := by omega
  rw [if_neg hlarge, if_neg hpositive]
  split_ifs with hzero hone htwo
  · rfl
  · exact isSome_div?_powerOfTen (by omega)
  · obtain ⟨p, hp, hle, -⟩ := exists_powerOfTen? le_rfl
    obtain ⟨q, hq⟩ := Option.isSome_iff_exists.1 (isSome_div? (a := d) hle)
    rw [hp, Option.bind_eq_bind, Option.bind_some, hq, Option.bind_some]
    exact isSome_div?_powerOfTen (by omega)
  · rfl

theorem isSome_scale?_natCast (hd : ofInt? n = some d)
    (h : n * 10 ^ k * unitsPerOne ≤ unitsAt (rankBound - 3)) :
    (Json.Numeral.scale? d k).isSome = true := by
  rw [Json.Numeral.scale?]
  by_cases hzero : d.isZero = true
  · rw [if_pos hzero]
    rfl
  have hn : n ≠ 0 := by
    rintro rfl
    exact hzero (isZero_of_ofInt? hd)
  have hk := le_of_power_le hn h
  obtain ⟨p, hp, -, hround⟩ := exists_powerOfTen? hk
  have hlarge : ¬ 308 < (k : Int) := by omega
  rw [if_neg hzero, if_neg hlarge, if_pos (Int.natCast_nonneg k), Int.natAbs_natCast, hp,
    Option.bind_eq_bind, Option.bind_some]
  exact isSome_mul?_powerOfTen hn hd hround h

theorem isSome_scale? (hd : ofInt? n = some d)
    (h : (n * 10 ^ e * unitsPerOne : ℚ) ≤ unitsAt (rankBound - 3)) :
    (Json.Numeral.scale? d e).isSome = true := by
  rcases Int.lt_or_le e 0 with hneg | hnonneg
  · exact isSome_scale?_neg hneg
  · obtain ⟨k, rfl⟩ := Int.eq_ofNat_of_zero_le hnonneg
    rw [zpow_natCast] at h
    exact isSome_scale?_natCast hd (by exact_mod_cast h)

end Double

namespace Json.Numeral

variable {n : Numeral}

/-- The number that a numeral writes after its sign. -/
def magnitude (n : Numeral) : ℚ := Text.ofDigits (n.whole ++ n.fraction.getD []) *
  10 ^ (n.exponent.getD 0 - (n.fraction.getD []).length)

/-- A numeral with not too many digits before its point is read if what it writes stays two steps
below the largest double. -/
theorem isSome_double? (hwhole : Text.ofDigits n.whole ≤ 18446744073709551615)
    (h : n.magnitude * Double.unitsPerOne ≤ Double.unitsAt (rankBound - 3)) :
    n.double?.isSome = true := by
  have hleading : leading 0 n.whole = (Text.ofDigits n.whole, 0) := by
    have hfits : 0 * 10 ^ n.whole.length + Text.ofDigits n.whole ≤ 18446744073709551615 := by
      rwa [Nat.zero_mul, Nat.zero_add]
    rw [leading_eq hfits, Nat.zero_mul, Nat.zero_add]
  cases htrailing : trailing (Text.ofDigits n.whole) 0 (n.fraction.getD []) with | mk s e
  have hsignificand : n.significand = (s, e + n.exponent.getD 0) := by
    rw [significand, hleading]
    simp only [htrailing]
  have hle : (s * 10 ^ (e + n.exponent.getD 0) : ℚ) ≤ n.magnitude := by
    have htaken := trailing_le htrailing
    rw [← Text.ofDigits_append, zero_sub] at htaken
    rw [magnitude, sub_eq_add_neg, add_comm (n.exponent.getD 0), zpow_add₀ (by norm_num),
      zpow_add₀ (by norm_num), ← mul_assoc, ← mul_assoc]
    gcongr
  obtain ⟨d, hd⟩ := Option.isSome_iff_exists.1
    (Double.isSome_ofInt? (trailing_fits hwhole htrailing))
  obtain ⟨d', hd'⟩ := Option.isSome_iff_exists.1 (Double.isSome_scale? hd
    ((mul_le_mul_of_nonneg_right hle (Nat.cast_nonneg _)).trans h))
  rw [double?, hsignificand]
  simp only [hd, hd', Option.bind_eq_bind, Option.bind_some, Option.pure_def, Option.isSome_some]

end Json.Numeral

namespace Scientific

variable {s : Scientific} {negative : Bool}

/-- **The numeral of the digits writes the number that they write.** -/
theorem magnitude_numeral (h : s.Normal) : (s.numeral negative).magnitude = s.value := by
  have hlength := List.length_pos_iff.2 h.ne_nil
  unfold numeral
  split_ifs with hpositional hneg
  · have hlast : (0 : Int) - ((List.replicate (s.exponent.natAbs - 1) 0 ++ s.digits).length : Nat) =
        s.exponent + 1 - s.digits.length := by
      rw [List.length_append, List.length_replicate]
      omega
    have hdigits : Text.ofDigits ([0] ++ (List.replicate (s.exponent.natAbs - 1) 0 ++ s.digits)) =
        Text.ofDigits s.digits := by
      rw [Text.ofDigits_append, Text.ofDigits_append, Text.ofDigits_zeros]
      simp [Text.ofDigits]
    simp only [Json.Numeral.magnitude, Option.getD_some, Option.getD_none, hlast, hdigits, value]
  · simp only [Json.Numeral.magnitude, Option.getD_some, Option.getD_none, value]
    rcases Nat.lt_or_ge (s.exponent.natAbs + 1) s.digits.length with hpoint | hpoint
    · have hdrop : (s.digits.drop (s.exponent.natAbs + 1)).isEmpty = false := by
        simpa using hpoint
      have hlast : (0 : Int) - ((s.digits.drop (s.exponent.natAbs + 1)).length : Nat) =
          s.exponent + 1 - s.digits.length := by
        rw [List.length_drop]
        omega
      rw [hdrop, if_neg Bool.false_ne_true, hlast, Nat.sub_eq_zero_of_le hpoint.le,
        List.replicate_zero, List.append_nil, List.take_append_drop]
    · have hdrop : s.digits.drop (s.exponent.natAbs + 1) = [] := List.drop_of_length_le hpoint
      have hlast : s.exponent + 1 - s.digits.length =
          ((s.exponent.natAbs + 1 - s.digits.length : Nat) : Int) := by
        omega
      rw [hdrop, if_pos List.isEmpty_nil, List.take_of_length_le hpoint, hlast, zpow_natCast,
        Text.ofDigits_append, Text.ofDigits_append, Text.ofDigits_zeros, List.length_replicate]
      simp [Text.ofDigits]
  · simp only [Json.Numeral.magnitude, Option.getD_some, value]
    have htail : (if (s.digits.drop 1).isEmpty = true then none
        else some (s.digits.drop 1)).getD [] = s.digits.drop 1 := by
      split_ifs with hempty
      · exact (List.isEmpty_iff.1 hempty).symm
      · rfl
    have hlast : s.exponent - ((s.digits.drop 1).length : Nat) =
        s.exponent + 1 - s.digits.length := by
      rw [List.length_drop]
      omega
    rw [htail, List.take_append_drop, hlast]

/-- At most sixteen digits stand before the point. -/
theorem ofDigits_whole_le (h : s.Normal) :
    Text.ofDigits (s.numeral negative).whole ≤ 18446744073709551615 := by
  have hformed : (s.numeral negative).WellFormed := wellFormed_numeral h
  have hlt := Text.ofDigits_lt hformed.lt_ten
  have hlength : (s.numeral negative).whole.length ≤ 16 := by
    unfold numeral
    split_ifs with hpositional hneg
    · exact Nat.le_add_left 1 15
    · rw [Json.isPositional, Bool.and_eq_true, decide_eq_true_eq, decide_eq_true_eq] at hpositional
      show List.length (_ ++ _) ≤ 16
      rw [List.length_append, List.length_take, List.length_replicate]
      omega
    · exact (List.length_take_le 1 s.digits).trans (by decide)
  exact hlt.le.trans ((Nat.pow_le_pow_right (by decide) hlength).trans (by decide))

end Scientific

namespace Double

/-- **Every double is read as a double** from its digits. -/
theorem isSome_double? (d : Double) : d.numeral.double?.isSome = true := by
  by_cases htop : d.rank + 3 < rankBound
  · refine Json.Numeral.isSome_double? (Scientific.ofDigits_whole_le d.normal_shortest) ?_
    rw [numeral, Scientific.magnitude_numeral d.normal_shortest]
    have hvalue := d.value_shortest_le
    have hstep : (unitsAt d.rank + unitsAt (d.rank + 1) : ℚ) ≤ 2 * unitsAt (rankBound - 3) := by
      have hlow : unitsAt d.rank ≤ unitsAt (rankBound - 3) := unitsAt_mono (by omega)
      have hhigh : unitsAt (d.rank + 1) ≤ unitsAt (rankBound - 3) := unitsAt_mono (by omega)
      exact_mod_cast (by omega : unitsAt d.rank + unitsAt (d.rank + 1) ≤
        2 * unitsAt (rankBound - 3))
    linarith
  · -- the decimals of the three largest are found one by one
    have htopmost : ∀ i < 3, ∀ negative, ∀ h : rankBound - 1 - i < rankBound,
        (Double.mk negative (rankBound - 1 - i) h).numeral.double?.isSome = true := by
      decide +kernel
    obtain ⟨negative, rank, hrank⟩ := d
    have hlarge : rankBound ≤ rank + 3 := Nat.not_lt.1 htop
    obtain ⟨i, hi, rfl⟩ : ∃ i < 3, rank = rankBound - 1 - i :=
      ⟨rankBound - 1 - rank, by omega, by omega⟩
    exact htopmost i hi negative hrank

end Double

end EntityQuery
