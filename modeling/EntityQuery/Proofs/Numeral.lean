import Mathlib.Tactic
import Mathlib.Data.List.TakeWhile
import Mathlib.Data.Nat.Digits.Defs
import EntityQuery.Text.Blank
import EntityQuery.Text.Integer

/-!
# Numerals

An integer is read from a text that is a numeral of it: digits after an optional sign, the first
digit counting most, with blanks around them.

* `Text.Numeral`: the numerals of an integer;
* `Text.integer?_eq_some_iff`: what is read of digits and a sign;
* `Text.Writes`, **`Text.signed?_trim_eq_some_iff`**: what is read of a whole text, within 64 bits.
-/

namespace EntityQuery.Text

variable {cs : List Char}

/-! ## Digits and signs -/

/-- The number that decimal digits write, the first one counting most. -/
def decimal (digits : List Char) : Nat :=
  Nat.ofDigits 10 (digits.reverse.map fun c => c.toNat - '0'.toNat)

/-- The numerals of an integer: at least one digit, after a sign or without one. -/
inductive Numeral : List Char → Int → Prop
  | bare {digits : List Char} : digits ≠ [] → (∀ c ∈ digits, c.isDigit = true) →
      Numeral digits (decimal digits)
  | plus {digits : List Char} : digits ≠ [] → (∀ c ∈ digits, c.isDigit = true) →
      Numeral ('+' :: digits) (decimal digits)
  | minus {digits : List Char} : digits ≠ [] → (∀ c ∈ digits, c.isDigit = true) →
      Numeral ('-' :: digits) (-decimal digits)

theorem ofDigits_eq (ds : List Nat) : ofDigits ds = Nat.ofDigits 10 ds.reverse := by
  rw [ofDigits, Nat.ofDigits_eq_foldr, List.foldr_reverse]
  refine congrArg (fun f => List.foldl f 0 ds) ?_
  funext n d
  rw [Nat.cast_id, add_comm, mul_comm]

theorem mapM_digit? (h : ∀ c ∈ cs, c.isDigit = true) :
    cs.mapM digit? = some (cs.map fun c => c.toNat - '0'.toNat) := by
  induction cs with
  | nil => rfl
  | cons c cs ih =>
    rw [List.mapM_cons, ih fun d hd => h d (List.mem_cons_of_mem _ hd), digit?,
      if_pos (h c List.mem_cons_self)]
    rfl

theorem isDigit_of_mapM_digit? {ds : List Nat} (h : cs.mapM digit? = some ds) :
    ∀ c ∈ cs, c.isDigit = true := by
  induction cs generalizing ds with
  | nil => simp
  | cons c cs ih =>
    rw [List.mapM_cons, digit?] at h
    split_ifs at h with hc
    · obtain ⟨_, -, h⟩ := Option.bind_eq_some_iff.1 h
      obtain ⟨ds', hds', -⟩ := Option.bind_eq_some_iff.1 h
      intro d hd
      rcases List.mem_cons.1 hd with rfl | hd
      · exact hc
      · exact ih hds' d hd
    · cases h

theorem natural?_eq_some_iff {n : Nat} : natural? cs = some n ↔
    cs ≠ [] ∧ (∀ c ∈ cs, c.isDigit = true) ∧ n = decimal cs := by
  have hdecimal : ofDigits (cs.map fun c => c.toNat - '0'.toNat) = decimal cs := by
    rw [ofDigits_eq, decimal, List.map_reverse]
  rw [natural?]
  split_ifs with hempty
  · simp [List.isEmpty_iff.1 hempty]
  · have hne : cs ≠ [] := List.isEmpty_iff.not.1 hempty
    constructor
    · intro h
      obtain ⟨ds, hds, rfl⟩ := Option.map_eq_some_iff.1 h
      have hall := isDigit_of_mapM_digit? hds
      rw [mapM_digit? hall, Option.some.injEq] at hds
      exact ⟨hne, hall, by rw [← hds, hdecimal]⟩
    · rintro ⟨-, hall, rfl⟩
      rw [mapM_digit? hall, Option.map_some, hdecimal]

theorem integer?_eq_some_iff {n : Int} : integer? cs = some n ↔ Numeral cs n := by
  unfold integer?
  constructor
  · intro h
    split at h
    all_goals
      obtain ⟨m, hm, rfl⟩ := Option.map_eq_some_iff.1 h
      obtain ⟨hne, hall, rfl⟩ := natural?_eq_some_iff.1 hm
    · exact .plus hne hall
    · exact .minus hne hall
    · exact .bare hne hall
  · rintro (⟨hne, hall⟩ | ⟨hne, hall⟩ | ⟨hne, hall⟩)
    · have hm := natural?_eq_some_iff.2 ⟨hne, hall, rfl⟩
      -- a digit is no sign
      split
      · exact absurd (hall '+' List.mem_cons_self) (by decide)
      · exact absurd (hall '-' List.mem_cons_self) (by decide)
      · rw [hm]
        rfl
    · have hm := natural?_eq_some_iff.2 ⟨hne, hall, rfl⟩
      simp [hm]
    · have hm := natural?_eq_some_iff.2 ⟨hne, hall, rfl⟩
      simp [hm]

/-! ## Blanks -/

theorem exists_dropWhile (cs : List Char) : ∃ before, cs = before ++ cs.dropWhile isBlank ∧
    ∀ c ∈ before, isBlank c = true :=
  ⟨cs.takeWhile isBlank, List.takeWhile_append_dropWhile.symm, fun _ h => List.mem_takeWhile_imp h⟩

/-- Trimming takes blanks away at both ends, and nothing else. -/
theorem exists_trim (cs : List Char) : ∃ before after, cs = before ++ trim cs ++ after ∧
    (∀ c ∈ before, isBlank c = true) ∧ ∀ c ∈ after, isBlank c = true := by
  obtain ⟨before, hbefore, hblank⟩ := exists_dropWhile cs
  obtain ⟨after, hafter, hblank'⟩ := exists_dropWhile (cs.dropWhile isBlank).reverse
  refine ⟨before, after.reverse, ?_, hblank, fun c hc => hblank' c (List.mem_reverse.1 hc)⟩
  rw [trim, trimRight, List.append_assoc, ← List.reverse_append, ← hafter, List.reverse_reverse]
  exact hbefore

/-- Blanks in front of a text that has none are dropped. -/
theorem dropWhile_of_blank {before middle after : List Char}
    (hb : ∀ c ∈ before, isBlank c = true) (hne : middle ≠ [])
    (hm : ∀ c ∈ middle, isBlank c = false) :
    (before ++ (middle ++ after)).dropWhile isBlank = middle ++ after := by
  rw [List.dropWhile_append_of_pos hb]
  cases middle with
  | nil => exact absurd rfl hne
  | cons c cs => simp [hm c]

theorem trim_of_blank {before middle after : List Char} (hb : ∀ c ∈ before, isBlank c = true)
    (ha : ∀ c ∈ after, isBlank c = true) (hne : middle ≠ [])
    (hm : ∀ c ∈ middle, isBlank c = false) : trim (before ++ middle ++ after) = middle := by
  have hright : (after.reverse ++ (middle.reverse ++ [])).dropWhile isBlank =
      middle.reverse ++ [] :=
    dropWhile_of_blank (fun c hc => ha c (List.mem_reverse.1 hc)) (by simpa using hne)
      (fun c hc => hm c (List.mem_reverse.1 hc))
  rw [List.append_nil] at hright
  rw [trim, List.append_assoc, dropWhile_of_blank hb hne hm, trimRight, List.reverse_append,
    hright, List.reverse_reverse]

theorem not_isBlank_of_isDigit {c : Char} (h : c.isDigit = true) : isBlank c = false := by
  have hn : 48 ≤ c.toNat ∧ c.toNat ≤ 57 := by
    simpa [Char.isDigit, UInt32.le_iff_toNat_le] using h
  simp only [isBlank, Bool.or_eq_false_iff, Bool.and_eq_false_iff, decide_eq_false_iff_not,
    beq_eq_false_iff_ne]
  omega

theorem Numeral.ne_nil {n : Int} (h : Numeral cs n) : cs ≠ [] := by
  cases h with
  | bare hne => exact hne
  | plus | minus => exact List.cons_ne_nil _ _

theorem Numeral.not_isBlank {n : Int} (h : Numeral cs n) : ∀ c ∈ cs, isBlank c = false := by
  intro c hc
  cases h with
  | bare _ hall => exact not_isBlank_of_isDigit (hall c hc)
  | plus _ hall =>
    rcases List.mem_cons.1 hc with rfl | hc
    · decide
    · exact not_isBlank_of_isDigit (hall c hc)
  | minus _ hall =>
    rcases List.mem_cons.1 hc with rfl | hc
    · decide
    · exact not_isBlank_of_isDigit (hall c hc)

/-- A text writes an integer of 64 bits: it is a numeral of it with blanks around. -/
def Writes (text : String) (n : Int) : Prop :=
  isSigned n = true ∧ ∃ before numeral after, text.toList = before ++ numeral ++ after ∧
    (∀ c ∈ before, isBlank c = true) ∧ (∀ c ∈ after, isBlank c = true) ∧ Numeral numeral n

/-- **The integer that is read of a text is the one that it writes.** -/
theorem signed?_trim_eq_some_iff {text : String} {n : Int} :
    signed? (trim text.toList) = some n ↔ Writes text n := by
  rw [signed?, Option.filter_eq_some_iff, integer?_eq_some_iff, and_comm, Writes]
  refine and_congr_right fun _ => ⟨fun h => ?_, ?_⟩
  · obtain ⟨before, after, htext, hb, ha⟩ := exists_trim text.toList
    exact ⟨before, _, after, htext, hb, ha, h⟩
  · rintro ⟨before, numeral, after, htext, hb, ha, h⟩
    rwa [htext, trim_of_blank hb ha h.ne_nil h.not_isBlank]

end EntityQuery.Text
