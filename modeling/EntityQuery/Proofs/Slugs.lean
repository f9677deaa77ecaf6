import Mathlib.Tactic
import EntityQuery.Field.Slug
import EntityQuery.Proofs.LookupLanguage
import EntityQuery.Proofs.Runs

/-!
# Slugs and runs

The slug of a name joins the runs of its letters and digits. So it keeps these and nothing else of
the name: the slug is its own slug, and names are slugged alike if they have the same runs.

* `Slug.characters_of_runs`: the characters of a slug are the runs, joined;
* `slug_eq_slug_iff`: names have one slug if they have the same runs;
* **`slug_joins_runs`**: what a slug is, what it does not hold, and which names have it.
-/

namespace EntityQuery

open Text

namespace Slug

variable {cs r rest : List Char} {rs : List (List Char)}

/-! ## The loop over the characters of a name -/

theorem continued_run (h : ∀ c ∈ r, c.isAlphanum = true) (rest : List Char) :
    continued false (r ++ rest) = r ++ continued false rest := by
  induction r with
  | nil => rfl
  | cons c r ih =>
    rw [List.cons_append, continued, if_pos (h c List.mem_cons_self),
      ih fun d hd => h d (List.mem_cons_of_mem _ hd)]
    rfl

/-- Where a run has ended an underscore is owed. -/
theorem continued_end (h : ∀ c, rest.head? = some c → c.isAlphanum = false) :
    continued false rest = continued true rest := by
  cases rest with
  | nil => rfl
  | cons c rest => simp [continued, h c rfl]

/-- Each run to come has an underscore before it. -/
theorem continued_of_runs (h : Runs Char.isAlphanum cs rs) :
    continued true cs = rs.flatMap ('_' :: ·) := by
  induction h with
  | nil => rfl
  | skip hc _ ih => simpa [continued, hc] using ih
  | @run r rest rs hne hall hrest _ ih =>
    cases r with
    | nil => exact absurd rfl hne
    | cons c r =>
      rw [List.cons_append, continued, if_pos (hall c List.mem_cons_self), if_pos rfl,
        continued_run fun d hd => hall d (List.mem_cons_of_mem _ hd), continued_end hrest, ih]
      simp

/-- The characters of a slug are the runs, with an underscore before each but the first. -/
theorem characters_of_runs (h : Runs Char.isAlphanum cs rs) :
    characters cs = ['_'].intercalate rs := by
  induction h with
  | nil => rfl
  | skip hc _ ih => simpa [characters, hc] using ih
  | @run r rest rs hne hall hrest hruns _ =>
    cases r with
    | nil => exact absurd rfl hne
    | cons c r =>
      rw [List.cons_append, characters, if_pos (hall c List.mem_cons_self),
        continued_run fun d hd => hall d (List.mem_cons_of_mem _ hd), continued_end hrest,
        continued_of_runs hruns, intercalate_cons]
      rfl

end Slug

variable {a b : String} {rs : List (List Char)}

theorem toList_slug (h : Runs Char.isAlphanum a.toList rs) :
    (slug a).toList = ['_'].intercalate rs := by
  rw [slug, String.toList_ofList, Slug.characters_of_runs h]

/-- The runs of a slug are those of the name. -/
theorem runs_slug (h : Runs Char.isAlphanum a.toList rs) :
    Runs Char.isAlphanum (slug a).toList rs := by
  rw [toList_slug h]
  exact h.areRuns.runs_intercalate (by decide)

/-- Names have one slug if they have the same runs, and only then. -/
theorem slug_eq_slug_iff (h : Runs Char.isAlphanum a.toList rs) :
    slug b = slug a ↔ Runs Char.isAlphanum b.toList rs := by
  constructor
  · intro hslug
    have hb := runs_self Char.isAlphanum b.toList
    have hruns := runs_slug hb
    rw [hslug] at hruns
    rw [runs_iff.1 (runs_slug h), ← runs_iff.1 hruns]
    exact hb
  · intro hb
    rw [← String.toList_inj, toList_slug h, toList_slug hb]

/-- **The slug of a name joins its runs of letters and digits.** There is one list of these runs;
the slug has them in order and as they are, with one underscore between two of them. It does not
begin or end with an underscore nor hold two in a row, is its own slug, and is the slug of just the
names with these runs. -/
theorem slug_joins_runs (name : String) : ∃ rs,
    (∀ rs', Runs Char.isAlphanum name.toList rs' ↔ rs' = rs) ∧
    slug name = "_".intercalate (rs.map String.ofList) ∧
    (slug name).toList.head? ≠ some '_' ∧ (slug name).toList.getLast? ≠ some '_' ∧
    ¬ Key.Divided (slug name) ∧ slug (slug name) = slug name ∧
    ∀ other, slug other = slug name ↔ Runs Char.isAlphanum other.toList rs := by
  have h := runs_self Char.isAlphanum name.toList
  have hunderscore : Char.isAlphanum '_' = false := by decide
  refine ⟨_, fun _ => runs_iff, ?_, ?_, ?_, ?_, ?_, fun _ => slug_eq_slug_iff h⟩
  · rw [← String.toList_inj, toList_slug h]
    simp [Function.comp_def]
  · intro hhead
    rw [toList_slug h] at hhead
    rw [h.areRuns.head?_intercalate hhead] at hunderscore
    cases hunderscore
  · intro hlast
    rw [toList_slug h] at hlast
    rw [h.areRuns.getLast?_intercalate hlast] at hunderscore
    cases hunderscore
  · rw [Key.Divided, toList_slug h]
    exact h.areRuns.not_pair_intercalate hunderscore
  · exact (slug_eq_slug_iff h).2 (runs_slug h)

example : slug "..context.foo[]__Bar" = "context_foo_Bar" := by decide

end EntityQuery
