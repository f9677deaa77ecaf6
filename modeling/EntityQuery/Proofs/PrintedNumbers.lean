import Mathlib.Tactic
import Mathlib.Data.List.DropRight
import EntityQuery.Json.Printer
import EntityQuery.Json.Reader
import EntityQuery.Proofs.Numeral
import EntityQuery.Proofs.Rounding

/-!
# Printed numbers

The text of a number is a numeral: digits without a leading zero, and perhaps digits after a point
and a power of ten. The reader finds that numeral in it again.

* `Text.digitsOf`: the decimal digits of a number;
* `Json.Numeral.spelled`, `Json.Numeral.WellFormed`: how a numeral is written;
* `Json.Written.numeral?_unsigned`: a numeral is read back;
* `Json.ofInt`, `Json.toJson?_ofInt`: the numeral of an integer means that integer;
* `Double.normal_shortest`, `Json.ofDouble`: the numeral of a double.
-/

namespace EntityQuery

/-! ## Decimal digits -/

namespace Text

variable {c : Char} {cs : List Char} {n d : Nat}

/-- The decimal digits of a number, the first one counting most. -/
def digitsOf (n : Nat) : List Nat := (Nat.toDigits 10 n).map fun c => c.toNat - '0'.toNat

theorem digitChar_of_isDigit (h : c.isDigit = true) : Nat.digitChar (c.toNat - '0'.toNat) = c := by
  have hc : '0'.toNat ≤ c.toNat ∧ c.toNat ≤ '9'.toNat := Char.isDigit_iff_toNat.1 h
  have h0 : '0'.toNat = 48 := rfl
  have h9 : '9'.toNat = 57 := rfl
  apply Char.toNat_inj.1
  rw [Nat.toNat_digitChar_of_lt_ten (by omega)]
  omega

theorem map_digitChar_digitsOf : (digitsOf n).map Nat.digitChar = Nat.toDigits 10 n := by
  rw [digitsOf, List.map_map]
  refine (List.map_congr_left fun c hc => ?_).trans (List.map_id _)
  exact digitChar_of_isDigit (Nat.isDigit_of_mem_toDigits (by decide) (by decide) hc)

theorem lt_ten_of_mem_digitsOf (h : d ∈ digitsOf n) : d < 10 := by
  obtain ⟨c, hc, rfl⟩ := List.mem_map.1 h
  have hdigit := Nat.isDigit_of_mem_toDigits (by decide) (by decide) hc
  have h9 : c.toNat ≤ '9'.toNat := (Char.isDigit_iff_toNat.1 hdigit).2
  have : '9'.toNat = 57 := rfl
  have : '0'.toNat = 48 := rfl
  omega

theorem digitsOf_ne_nil : digitsOf n ≠ [] := by
  rw [digitsOf, Ne, List.map_eq_nil_iff]
  exact Nat.toDigits_ne_nil

theorem ofDigits_digitsOf : ofDigits (digitsOf n) = n := by
  have h : Nat.ofDigitChars 10 (Nat.toDigits 10 n) 0 = n := Nat.ofDigitChars_ten_toDigits
  rw [Nat.ofDigitChars_eq_foldl] at h
  rw [ofDigits, digitsOf, List.foldl_map]
  simpa only [Nat.mul_comm] using h

/-- A number other than zero has no leading zero. -/
theorem head?_toDigits (h : n ≠ 0) : (Nat.toDigits 10 n).head? ≠ some '0' := by
  induction n using Nat.strong_induction_on with
  | _ n ih =>
    by_cases hn : n < 10
    · rw [Nat.toDigits_of_lt_base hn, List.head?_cons, Ne, Option.some.injEq,
        Nat.digitChar_eq_zero]
      exact h
    · rw [Nat.toDigits_of_base_le (by decide) (by omega), List.head?_append_of_ne_nil _
        Nat.toDigits_ne_nil]
      exact ih (n / 10) (by omega) (by omega)

theorem head?_digitsOf (h : n ≠ 0) : (digitsOf n).head? ≠ some 0 := by
  rw [digitsOf, List.head?_map, Ne, Option.map_eq_some_iff]
  rintro ⟨c, hc, h0⟩
  have hdigit := Nat.isDigit_of_mem_toDigits (by decide) (by decide)
    (List.mem_of_mem_head? hc)
  have hchar : '0' = c := by
    rw [← digitChar_of_isDigit hdigit, h0]
    rfl
  exact head?_toDigits h (hchar.symm ▸ hc)

end Text

namespace Json

/-! ## Numerals -/

/-- What may follow a printed value: nothing, a comma or a closing bracket. -/
def Ends (cs : List Char) : Prop := ∀ c ∈ cs.head?, c = ',' ∨ c = ']' ∨ c = '\x7d'

theorem Written.digits_append {ds : List Nat} {rest : List Char} (hds : ∀ d ∈ ds, d < 10)
    (hrest : ∀ c ∈ rest.head?, c.isDigit = false) :
    digits (ds.map Nat.digitChar ++ rest) = (ds, rest) := by
  have hdigit : ∀ c ∈ ds.map Nat.digitChar, c.isDigit = true := by
    intro c hc
    obtain ⟨d, hd, rfl⟩ := List.mem_map.1 hc
    rw [Nat.isDigit_digitChar]
    exact decide_eq_true (hds d hd)
  have htake : rest.takeWhile Char.isDigit = [] := by
    cases rest with
    | nil => rfl
    | cons c rest => exact List.takeWhile_cons_of_neg (by simp [hrest c rfl])
  have hdrop : rest.dropWhile Char.isDigit = rest := by
    cases rest with
    | nil => rfl
    | cons c rest => exact List.dropWhile_cons_of_neg (by simp [hrest c rfl])
  rw [digits, List.takeWhile_append_of_pos hdigit, List.dropWhile_append_of_pos hdigit, htake,
    hdrop, List.append_nil, List.map_map]
  refine Prod.ext ((List.map_congr_left fun d hd => ?_).trans (List.map_id _)) rfl
  rw [Function.comp_apply, Nat.toNat_digitChar_of_lt_ten (hds d hd), id]
  exact Nat.add_sub_cancel_left 48 d

namespace Numeral

variable {n : Numeral} {rest : List Char}

/-- The digits of the power of ten with its sign. -/
def spelledPower (e : Int) : List Char :=
  'e' :: (if e < 0 then '-' else '+') :: Nat.toDigits 10 e.natAbs

/-- The number without its minus sign. -/
def unsigned (n : Numeral) : List Char :=
  n.whole.map Nat.digitChar ++ ((n.fraction.elim [] fun ds => '.' :: ds.map Nat.digitChar) ++
    n.exponent.elim [] spelledPower)

/-- The number as it is written. -/
def spelled (n : Numeral) : List Char := (if n.negative then ['-'] else []) ++ n.unsigned

/-- There are digits before the point, with no zero before others, and after it, if it is there. -/
structure WellFormed (n : Numeral) : Prop where
  ne_nil : n.whole ≠ []
  lt_ten : ∀ d ∈ n.whole, d < 10
  leading : n.whole.head? = some 0 → n.whole = [0]
  fraction : ∀ ds ∈ n.fraction, ds ≠ [] ∧ ∀ d ∈ ds, d < 10

end Numeral

namespace Written

variable {rest : List Char}

theorem isDigit_of_ends (h : Ends rest) : ∀ c ∈ rest.head?, c.isDigit = false := by
  intro c hc
  rcases h c hc with rfl | rfl | rfl <;> rfl

theorem power?_append (h : Ends rest) (k : Nat) (negative : Bool) :
    power? negative (Nat.toDigits 10 k ++ rest) =
      some (some (if negative then -(k : Int) else k), rest) := by
  have hdigits : digits (Nat.toDigits 10 k ++ rest) = (Text.digitsOf k, rest) := by
    rw [← Text.map_digitChar_digitsOf]
    exact digits_append (fun d => Text.lt_ten_of_mem_digitsOf) (isDigit_of_ends h)
  have hne : (Text.digitsOf k).isEmpty = false := by
    rw [List.isEmpty_eq_false_iff]
    exact Text.digitsOf_ne_nil
  rw [power?, someDigits?, hdigits, hne, if_neg Bool.false_ne_true, Option.map_some]
  simp only [Text.ofDigits_digitsOf]

theorem exponent?_append (h : Ends rest) (e : Option Int) :
    exponent? (e.elim [] Numeral.spelledPower ++ rest) = some (e, rest) := by
  cases e with
  | none =>
    cases rest with
    | nil => rfl
    | cons c rest => rcases h c rfl with rfl | rfl | rfl <;> rfl
  | some e =>
    show exponent? ('e' :: (if e < 0 then '-' else '+') :: (Nat.toDigits 10 e.natAbs ++ rest)) = _
    split_ifs with he
    · show power? true _ = _
      rw [power?_append h, if_pos rfl]
      have : -(e.natAbs : Int) = e := by omega
      rw [this]
    · show power? false _ = _
      rw [power?_append h, if_neg Bool.false_ne_true]
      have : (e.natAbs : Int) = e := by omega
      rw [this]

theorem head?_power (h : Ends rest) (e : Option Int) :
    ∀ c ∈ (e.elim [] Numeral.spelledPower ++ rest).head?, c ≠ '.' ∧ c.isDigit = false := by
  intro c hc
  cases e with
  | none => rcases h c hc with rfl | rfl | rfl <;> exact ⟨by decide, rfl⟩
  | some e =>
    cases hc
    exact ⟨by decide, rfl⟩

theorem fraction?_append {fraction : Option (List Nat)}
    (hfraction : ∀ ds ∈ fraction, ds ≠ [] ∧ ∀ d ∈ ds, d < 10)
    (hrest : ∀ c ∈ rest.head?, c ≠ '.' ∧ c.isDigit = false) :
    fraction? ((fraction.elim [] fun ds => '.' :: ds.map Nat.digitChar) ++ rest) =
      some (fraction, rest) := by
  cases fraction with
  | none =>
    cases rest with
    | nil => rfl
    | cons c rest =>
      rw [Option.elim_none, List.nil_append, fraction?]
      rintro _ heq
      exact (hrest c rfl).1 (List.cons.inj heq).1
  | some ds =>
    obtain ⟨hne, hds⟩ := hfraction ds rfl
    have hempty : ds.isEmpty = false := by simpa using hne
    show (someDigits? (ds.map Nat.digitChar ++ rest)).map _ = _
    rw [someDigits?, digits_append hds fun c hc => (hrest c hc).2, hempty,
      if_neg Bool.false_ne_true]
    rfl

theorem wholeDigits?_append {ds : List Nat} (hne : ds ≠ []) (hds : ∀ d ∈ ds, d < 10)
    (hzero : ds.head? = some 0 → ds = [0]) (hrest : ∀ c ∈ rest.head?, c.isDigit = false) :
    wholeDigits? (ds.map Nat.digitChar ++ rest) = some (ds, rest) := by
  rw [wholeDigits?, digits_append hds hrest]
  match ds, hne with
  | [0], _ => rfl
  | [d + 1], _ => rfl
  | (d + 1) :: _ :: _, _ => rfl
  | 0 :: d :: ds, _ => cases hzero rfl

/-- **A numeral is read back** before whatever may follow a value. -/
theorem numeral?_unsigned {n : Numeral} (hn : n.WellFormed) (h : Ends rest) :
    numeral? n.negative (n.unsigned ++ rest) = some (.number n, rest) := by
  have hpower := head?_power h n.exponent
  have hwhole : ∀ c ∈ ((n.fraction.elim [] fun ds => '.' :: ds.map Nat.digitChar) ++
      (n.exponent.elim [] Numeral.spelledPower ++ rest)).head?, c.isDigit = false := by
    cases n.fraction with
    | none => exact fun c hc => (hpower c hc).2
    | some ds =>
      intro c hc
      cases hc
      rfl
  rw [numeral?, Numeral.unsigned, List.append_assoc, List.append_assoc,
    wholeDigits?_append hn.ne_nil hn.lt_ten hn.leading hwhole]
  show (fraction? _).bind _ = _
  rw [fraction?_append hn.fraction hpower, Option.bind_some]
  show (exponent? _).bind _ = _
  rw [exponent?_append h]
  rfl

end Written

/-! ## Integers -/

/-- The numeral of an integer. -/
def ofInt (n : Int) : Numeral := ⟨decide (n < 0), Text.digitsOf n.natAbs, none, none⟩

theorem leading_digitsOf {n : Nat} (h : (Text.digitsOf n).head? = some 0) :
    Text.digitsOf n = [0] := by
  by_cases hn : n = 0
  · subst hn
    rfl
  · exact absurd h (Text.head?_digitsOf hn)

theorem wellFormed_ofInt (n : Int) : (ofInt n).WellFormed where
  ne_nil := Text.digitsOf_ne_nil
  lt_ten _ := Text.lt_ten_of_mem_digitsOf
  leading := leading_digitsOf
  fraction _ h := nomatch h

theorem toList_intText (n : Int) : (intText n).toList = (ofInt n).spelled := by
  have hspelled : (ofInt n).spelled =
      (if decide (n < 0) = true then ['-'] else []) ++ Nat.toDigits 10 n.natAbs := by
    show _ ++ ((Text.digitsOf n.natAbs).map Nat.digitChar ++ []) = _
    rw [List.append_nil, Text.map_digitChar_digitsOf]
    rfl
  rw [hspelled, intText]
  cases n with
  | ofNat n =>
    show (Nat.repr n).toList = _
    rw [Nat.repr_eq_ofList_toDigits, String.toList_ofList]
    rfl
  | negSucc n =>
    show ("-" ++ Nat.repr (n + 1)).toList = _
    rw [String.toList_append, Nat.repr_eq_ofList_toDigits, String.toList_ofList,
      String.toList_ofList, if_pos (decide_eq_true (Int.negSucc_lt_zero n))]
    rfl

/-- **The numeral of an integer of 64 bits means that integer.** -/
theorem toJson?_ofInt {n : Int} (h : (isSigned n || isUnsigned n) = true) :
    (ofInt n).toJson? = some (.int n) := by
  have hinteger : (ofInt n).integer = n := by
    show (if decide (n < 0) = true then -(Text.ofDigits (Text.digitsOf n.natAbs) : Int)
      else Text.ofDigits (Text.digitsOf n.natAbs)) = n
    rw [Text.ofDigits_digitsOf]
    by_cases hn : n < 0
    · rw [if_pos (decide_eq_true hn)]
      omega
    · rw [if_neg (by simpa using hn)]
      omega
  have hzero : (ofInt n).isNegativeZero = false := by
    show (decide (n < 0) && Text.ofDigits (Text.digitsOf n.natAbs) == 0) = false
    rw [Text.ofDigits_digitsOf, Bool.and_eq_false_iff, decide_eq_false_iff_not, beq_eq_false_iff_ne]
    omega
  have hisInteger : (ofInt n).isInteger = true := by
    show (!(ofInt n).isNegativeZero &&
      (isSigned (ofInt n).integer || isUnsigned (ofInt n).integer)) = true
    rw [hzero, hinteger, h]
    rfl
  rw [Numeral.toJson?, if_pos hisInteger, hinteger]

end Json

/-! ## Doubles -/

/-- There are digits, with no zero before others, and zero itself is one digit. -/
structure Scientific.Normal (s : Scientific) : Prop where
  ne_nil : s.digits ≠ []
  lt_ten : ∀ d ∈ s.digits, d < 10
  leading : s.digits.head? = some 0 → s = ⟨[0], 0⟩

/-- The numeral with these digits. -/
def Scientific.numeral (s : Scientific) (negative : Bool) : Json.Numeral :=
  if Json.isPositional s then
    if s.exponent < 0 then
      ⟨negative, [0], some (List.replicate (s.exponent.natAbs - 1) 0 ++ s.digits), none⟩
    else
      let n := s.exponent.natAbs + 1
      let part := s.digits.drop n
      ⟨negative, s.digits.take n ++ List.replicate (n - s.digits.length) 0,
        some (if part.isEmpty then [0] else part), none⟩
  else
    let tail := s.digits.drop 1
    ⟨negative, s.digits.take 1, if tail.isEmpty then none else some tail, some s.exponent⟩

namespace Scientific

variable {s : Scientific} {negative : Bool}

theorem wellFormed_numeral (h : s.Normal) : (s.numeral negative).WellFormed := by
  have hzeros : ∀ n, ∀ d ∈ List.replicate n 0, d < 10 := by
    intro n d hd
    rw [List.eq_of_mem_replicate hd]
    decide
  obtain ⟨_ | ⟨d, ds⟩, e⟩ := s
  · exact absurd rfl h.ne_nil
  · unfold numeral
    split_ifs with hpositional hnegative
    · refine ⟨by simp, by simp, fun _ => rfl, fun _ hds => ?_⟩
      cases hds
      refine ⟨by simp, fun d' hd => ?_⟩
      exact (List.mem_append.1 hd).elim (hzeros _ d') (h.lt_ten d')
    · refine ⟨by simp, fun d' hd => ?_, fun hhead => ?_, fun _ hds => ?_⟩
      · exact (List.mem_append.1 hd).elim (fun hd => h.lt_ten d' (List.mem_of_mem_take hd))
          (hzeros _ d')
      · cases h.leading hhead
        rfl
      · cases hds
        split_ifs with hempty
        · simp
        · exact ⟨by simpa using hempty, fun d' hd => h.lt_ten d' (List.mem_of_mem_drop hd)⟩
    · refine ⟨by simp, fun d' hd => h.lt_ten d' (List.mem_of_mem_take hd), fun hhead => ?_,
        fun tail htail => ?_⟩
      · cases hhead
        rfl
      · have hsome : (if ds.isEmpty then none else some ds) = some tail := htail
        split_ifs at hsome with hempty
        cases hsome
        exact ⟨by simpa using hempty, fun d' hd => h.lt_ten d' (List.mem_cons_of_mem d hd)⟩

theorem negative_numeral : (s.numeral negative).negative = negative := by
  unfold numeral
  split_ifs <;> rfl

theorem unsigned_numeral : (s.numeral negative).unsigned =
    if Json.isPositional s then Json.positional s else Json.exponential s := by
  unfold numeral
  split_ifs with hpositional hnegative
  · rw [Json.positional, if_pos hnegative]
    show '0' :: '.' :: (List.map Nat.digitChar (List.replicate _ 0 ++ s.digits) ++ []) = _
    rw [List.append_nil, List.map_append, List.map_replicate]
    rfl
  · rw [Json.positional, if_neg hnegative]
    simp only [Json.digitChars, ← List.map_take, ← List.map_drop, List.length_map]
    show List.map Nat.digitChar (List.take _ s.digits ++ List.replicate _ 0) ++
      ('.' :: List.map Nat.digitChar _ ++ []) = _
    rw [List.append_nil, List.map_append, List.map_replicate]
    cases s.digits.drop (s.exponent.natAbs + 1) <;> rfl
  · rw [Json.exponential]
    simp only [Json.digitChars]
    show List.map Nat.digitChar _ ++ (_ ++ Json.Numeral.spelledPower _) = _
    cases s.digits.drop 1 <;> simp [Json.Numeral.spelledPower]

end Scientific

namespace Double

variable {rank x den scale n : Nat} {lead last : Int}

theorem roundsTo_zero (hrank : rank ≠ 0) (hscale : 0 < scale) :
    roundsTo rank 0 den scale = false := by
  have hunits : 0 < unitsAt rank :=
    lt_of_le_of_lt (Nat.zero_le _) (unitsAt_strictMono (Nat.pos_of_ne_zero hrank))
  have hlow : 0 < (unitsAt (rank - 1) + unitsAt rank) * scale := by positivity
  have hle : ¬ (unitsAt (rank - 1) + unitsAt rank) * scale ≤ 2 * 0 * den := by omega
  simp only [roundsTo]
  split_ifs
  · rw [decide_eq_false hle, Bool.false_and]
  · rw [decide_eq_false (fun h => hle h.le), Bool.false_and]

theorem onGrid?_ne_zero (hrank : rank ≠ 0) (hscale : 0 < scale)
    (h : onGrid? rank den scale = some x) : x ≠ 0 := by
  have hround := le_divRound (unitsAt rank * scale) den
  simp only [onGrid?] at h
  rcases Nat.eq_zero_or_pos (unitsAt rank * scale / den) with hx | hx
  · rw [hx, roundsTo_zero hrank hscale] at h
    split at h
    all_goals simp_all
    omega
  · split at h <;> cases h <;> omega

theorem ofWidth?_ne_zero (hrank : rank ≠ 0) (h : ofWidth? rank lead n = some (x, last)) :
    x ≠ 0 := by
  simp only [ofWidth?] at h
  split_ifs at h
  all_goals
    obtain ⟨y, hy, heq⟩ := Option.map_eq_some_iff.1 h
    cases heq
  · exact onGrid?_ne_zero hrank (Nat.pow_pos (by decide)) hy
  · exact onGrid?_ne_zero hrank (by decide) hy

theorem significantDigits_eq (n : Nat) : significantDigits n =
    ((Nat.toDigits 10 n).rdropWhile (· == '0')).map fun c => c.toNat - '0'.toNat := rfl

theorem rdropWhile_toDigits (h : n ≠ 0) : (Nat.toDigits 10 n).rdropWhile (· == '0') ≠ [] := by
  rw [Ne, List.rdropWhile_eq_nil_iff]
  intro hall
  cases hdigits : Nat.toDigits 10 n with
  | nil => exact Nat.toDigits_ne_nil hdigits
  | cons c cs =>
    have hc : c = '0' := by simpa using hall c (by rw [hdigits]; exact List.mem_cons_self)
    apply Text.head?_toDigits h
    rw [hdigits, hc]
    rfl

theorem normal_significantDigits (h : n ≠ 0) (e : Int) :
    Scientific.Normal ⟨significantDigits n, e⟩ := by
  have hprefix := List.rdropWhile_prefix (· == '0') (Nat.toDigits 10 n)
  have hne := rdropWhile_toDigits h
  have hsub : significantDigits n <+: Text.digitsOf n := hprefix.map _
  refine ⟨?_, fun d hd => Text.lt_ten_of_mem_digitsOf (hsub.subset hd), fun hhead => ?_⟩
  · simpa [significantDigits_eq] using hne
  · obtain ⟨rest, hrest⟩ := hsub
    refine absurd ?_ (Text.head?_digitsOf h)
    rw [← hrest, List.head?_append, hhead, Option.some_or]

theorem normal_shortest (d : Double) : d.shortest.Normal := by
  have hzero : Scientific.Normal ⟨[0], 0⟩ := ⟨by simp, by simp, fun _ => rfl⟩
  simp only [shortest]
  split_ifs with hd
  · exact hzero
  · split
    · rename_i x last h
      obtain ⟨n, -, hn⟩ := List.exists_of_findSome?_eq_some h
      exact normal_significantDigits (ofWidth?_ne_zero (by simpa [isZero] using hd) hn) _
    · exact hzero

/-- The numeral of a double. -/
def numeral (d : Double) : Json.Numeral := d.shortest.numeral d.negative

theorem toList_doubleText (d : Double) : (Json.doubleText d).toList = d.numeral.spelled := by
  rw [Json.Numeral.spelled, numeral, Scientific.negative_numeral, Scientific.unsigned_numeral,
    Json.doubleText, String.toList_ofList]
  cases d.negative <;> rfl

theorem wellFormed_numeral (d : Double) : d.numeral.WellFormed :=
  Scientific.wellFormed_numeral d.normal_shortest

theorem toJson?_numeral (d : Double) : d.numeral.toJson? = d.numeral.double?.map .double := by
  have h : d.numeral.isInteger = false := by
    unfold numeral Scientific.numeral
    split_ifs <;> simp [Json.Numeral.isInteger]
  rw [Json.Numeral.toJson?, h, if_neg Bool.false_ne_true]

end Double

end EntityQuery
