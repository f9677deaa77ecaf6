import Mathlib.Tactic
import EntityQuery.Text.Blank

/-!
# Runs

The characters of a text that pass a test stand in runs: as many of them in a row as there are, with
other characters before, between and after the runs.

* `Text.Runs`, `Text.runs`, `Text.runs_iff`: the runs of a text, as a relation and computed;
* `Text.runs_words_iff`: the words of a text are its runs of characters that are not blank;
* `Text.AreRuns.runs_intercalate`: runs with one other character between two of them are the runs
  of what they make;
* `Text.AreRuns.not_pair_intercalate`: what they make does not hold two of these characters in a
  row.
-/

namespace EntityQuery.Text

variable {p : Char → Bool} {cs r rest : List Char} {rs : List (List Char)}

/-- The list of the runs of characters that pass a test. A run is not empty, and the character
after it, if there is one, does not pass. -/
inductive Runs (p : Char → Bool) : List Char → List (List Char) → Prop
  | nil : Runs p [] []
  | skip {c : Char} {cs : List Char} {rs : List (List Char)} : p c = false → Runs p cs rs →
      Runs p (c :: cs) rs
  | run {r rest : List Char} {rs : List (List Char)} : r ≠ [] → (∀ c ∈ r, p c = true) →
      (∀ c, rest.head? = some c → p c = false) → Runs p rest rs → Runs p (r ++ rest) (r :: rs)

/-- The runs of characters that pass a test. -/
def runs (p : Char → Bool) (cs : List Char) : List (List Char) :=
  (cs.splitOnP fun c => !p c).filter (!·.isEmpty)

theorem runs_skip {c : Char} (h : p c = false) (cs : List Char) : runs p (c :: cs) = runs p cs := by
  simp [runs, List.splitOnP_cons_eq_if_modifyHead, h]

theorem splitOnP_of_all (h : ∀ c ∈ r, p c = true) : (r.splitOnP fun c => !p c) = [r] :=
  List.splitOnP_eq_singleton fun c hc => by simp [h c hc]

theorem runs_run (hne : r ≠ []) (hr : ∀ c ∈ r, p c = true)
    (hrest : ∀ c, rest.head? = some c → p c = false) : runs p (r ++ rest) = r :: runs p rest := by
  cases rest with
  | nil => simp [runs, splitOnP_of_all hr, hne]
  | cons c rest =>
    have hc : p c = false := hrest c rfl
    rw [runs_skip hc, runs, List.splitOnP_append_cons r rest (by simp [hc]), splitOnP_of_all hr]
    simp [runs, hne]

theorem Runs.eq_runs (h : Runs p cs rs) : rs = runs p cs := by
  induction h with
  | nil => simp [runs]
  | skip hc _ ih => rw [runs_skip hc, ih]
  | run hne hr hrest _ ih => rw [runs_run hne hr hrest, ih]

/-- Every text has its runs. -/
theorem runs_self (p : Char → Bool) (cs : List Char) : Runs p cs (runs p cs) := by
  induction hn : cs.length using Nat.strong_induction_on generalizing cs with
  | _ n ih =>
    cases cs with
    | nil => simpa [runs] using Runs.nil
    | cons c cs =>
      by_cases hc : p c = true
      · -- the run at the front, and what is left after it
        have hsplit : (c :: cs).takeWhile p ++ (c :: cs).dropWhile p = c :: cs :=
          List.takeWhile_append_dropWhile
        have hne : (c :: cs).takeWhile p ≠ [] := by simp [hc]
        have hall : ∀ x ∈ (c :: cs).takeWhile p, p x = true := List.all_eq_true.1 List.all_takeWhile
        have hrest : ∀ x, ((c :: cs).dropWhile p).head? = some x → p x = false := by
          intro x hx
          have := List.head?_dropWhile_not p (c :: cs)
          rw [hx] at this
          simpa using this
        have hlength : ((c :: cs).dropWhile p).length < n := by
          have := congrArg List.length hsplit
          have := List.length_pos_iff.2 hne
          rw [List.length_append] at *
          omega
        have hruns := Runs.run hne hall hrest (ih _ hlength _ rfl)
        rwa [← runs_run hne hall hrest, hsplit] at hruns
      · rw [Bool.not_eq_true] at hc
        rw [runs_skip hc]
        exact .skip hc (ih _ (by simp [← hn]) _ rfl)

/-- **A text has one list of runs.** -/
theorem runs_iff : Runs p cs rs ↔ rs = runs p cs :=
  ⟨Runs.eq_runs, fun h => h ▸ runs_self p cs⟩

instance : Decidable (Runs p cs rs) := decidable_of_iff _ runs_iff.symm

/-- The words of a text are its runs of characters that are not blank. -/
theorem runs_words_iff : Runs (fun c => !isBlank c) cs rs ↔ rs = words cs := by
  have hwords : runs (fun c => !isBlank c) cs = words cs := by simp only [runs, Bool.not_not, words]
  rw [runs_iff, hwords]

/-! ## Runs with one character between two of them -/

/-- Runs of characters that pass a test, of which none is empty. -/
def AreRuns (p : Char → Bool) (rs : List (List Char)) : Prop :=
  ∀ r ∈ rs, r ≠ [] ∧ ∀ c ∈ r, p c = true

theorem Runs.areRuns (h : Runs p cs rs) : AreRuns p rs := by
  induction h with
  | nil => exact fun r hr => absurd hr List.not_mem_nil
  | skip _ _ ih => exact ih
  | run hne hall _ _ ih => exact List.forall_mem_cons.2 ⟨⟨hne, hall⟩, ih⟩

theorem intercalate_cons (separator : Char) (r : List Char) (rs : List (List Char)) :
    [separator].intercalate (r :: rs) = r ++ rs.flatMap (separator :: ·) := by
  induction rs generalizing r with
  | nil => simp
  | cons r' rs ih => rw [List.intercalate_cons_cons, ih, List.flatMap_cons]; simp

namespace AreRuns

variable {separator : Char}

theorem of_cons (h : AreRuns p (r :: rs)) : (r ≠ [] ∧ ∀ c ∈ r, p c = true) ∧ AreRuns p rs :=
  List.forall_mem_cons.1 h

/-- Joined by a character that does not pass, they are the runs of what they make. -/
theorem runs_intercalate (h : AreRuns p rs) (hs : p separator = false) :
    Runs p ([separator].intercalate rs) rs := by
  induction rs with
  | nil => exact .nil
  | cons r rs ih =>
    obtain ⟨⟨hne, hall⟩, hrs⟩ := h.of_cons
    cases rs with
    | nil => simpa using Runs.run hne hall (by simp) .nil
    | cons r' rs =>
      rw [List.intercalate_cons_cons, List.append_assoc, List.singleton_append]
      exact .run hne hall (by simp [hs]) (.skip hs (ih hrs))

/-- What they make begins with a run. -/
theorem head?_intercalate (h : AreRuns p rs) {c : Char}
    (hc : ([separator].intercalate rs).head? = some c) : p c = true := by
  cases rs with
  | nil => cases hc
  | cons r rs =>
    obtain ⟨⟨hne, hall⟩, -⟩ := h.of_cons
    rw [intercalate_cons, List.head?_append_of_ne_nil _ hne] at hc
    exact hall c (List.mem_of_mem_head? hc)

/-- What they make ends with a run. -/
theorem getLast?_intercalate (h : AreRuns p rs) {c : Char}
    (hc : ([separator].intercalate rs).getLast? = some c) : p c = true := by
  induction rs with
  | nil => cases hc
  | cons r rs ih =>
    obtain ⟨⟨-, hall⟩, hrs⟩ := h.of_cons
    cases rs with
    | nil =>
      rw [List.intercalate_singleton] at hc
      exact hall c (List.mem_of_mem_getLast? hc)
    | cons r' rs =>
      have hne : [separator].intercalate (r' :: rs) ≠ [] := by
        rw [intercalate_cons]
        exact List.append_ne_nil_of_left_ne_nil hrs.of_cons.1.1 _
      rw [List.intercalate_cons_cons, List.getLast?_append_of_ne_nil _ hne] at hc
      exact ih hrs hc

/-- Between two of the characters that join them stands a run. -/
theorem not_pair_flatMap (h : AreRuns p rs) (hs : p separator = false)
    (hr : ∀ c ∈ r, p c = true) :
    ¬ [separator, separator] <:+: r ++ rs.flatMap (separator :: ·) := by
  have hne : ∀ c, p c = true → separator ≠ c := by
    rintro c hc rfl
    rw [hs] at hc
    cases hc
  induction rs generalizing r with
  | nil =>
    rw [List.flatMap_nil, List.append_nil]
    exact fun hpair => hne _ (hr separator (List.IsInfix.subset hpair List.mem_cons_self)) rfl
  | cons r' rs ih =>
    obtain ⟨⟨hnil, hall⟩, hrs⟩ := h.of_cons
    have hrest := ih hrs hall
    induction r with
    | nil =>
      obtain ⟨d, r', rfl⟩ := List.exists_cons_of_ne_nil hnil
      rw [List.nil_append, List.flatMap_cons, List.cons_append, List.infix_cons_iff,
        List.cons_append, List.cons_prefix_cons, List.cons_prefix_cons]
      rintro (⟨-, heq, -⟩ | hpair)
      · exact hne d (hall d List.mem_cons_self) heq
      · exact hrest hpair
    | cons c r ihr =>
      rw [List.cons_append, List.infix_cons_iff, List.cons_prefix_cons]
      rintro (⟨heq, -⟩ | hpair)
      · exact hne c (hr c List.mem_cons_self) heq
      · exact ihr (fun d hd => hr d (List.mem_cons_of_mem _ hd)) hpair

theorem not_pair_intercalate (h : AreRuns p rs) (hs : p separator = false) :
    ¬ [separator, separator] <:+: [separator].intercalate rs := by
  cases rs with
  | nil => simp
  | cons r rs =>
    rw [intercalate_cons]
    exact h.of_cons.2.not_pair_flatMap hs h.of_cons.1.2

end AreRuns

end EntityQuery.Text
