import Mathlib.Tactic
import EntityQuery.Proofs.Dict
import EntityQuery.Proofs.Outcome
import EntityQuery.Proofs.Select
import EntityQuery.Request

/-!
# What pairs give

A request is made of what its pairs give for each key: all values of a lookup, the last value of any
other key.

* `Request.given`, `Request.property?`: the values of a key, and the lookup that `prop` and `value`
  make together;
* `Request.get?_group`, `Request.get?_lookupsOf_eq_some_iff`: grouping keeps all values of a key in
  order;
* **`Request.ofPairs_eq_ok_iff`**: the requests that pairs make.
-/

namespace EntityQuery.Request

variable {pairs : List (String × String)} {key value : String}

/-- The values that pairs give for a key, in order. -/
def given (pairs : List (String × String)) (key : String) : List String :=
  (pairs.filter (·.1 == key)).map (·.2)

/-- The last value that pairs give for a key. -/
def lastGiven? (pairs : List (String × String)) (key : String) : Option String :=
  (given pairs key).getLast?

/-- The name and the value that `prop` and `value` give together. -/
def property? (pairs : List (String × String)) : Option (String × String) :=
  (lastGiven? pairs "prop").bind fun name => (lastGiven? pairs "value").map (name, ·)

theorem mem_given : value ∈ given pairs key ↔ (key, value) ∈ pairs := by
  simp [given]

/-! ## Grouping -/

theorem given_cons (p : String × String) :
    given (p :: pairs) key = if p.1 = key then p.2 :: given pairs key else given pairs key := by
  by_cases h : p.1 = key
  · simp [given, h]
  · simp [given, h]

/-- Grouping on top of what there is already appends the values of each key. -/
theorem get?_foldl_group (d : Dict (List String)) :
    (pairs.foldl (fun d p => d.alter p.1 fun values => values.getD [] ++ [p.2]) d).get? key =
      if given pairs key = [] then d.get? key
      else some ((d.get? key).getD [] ++ given pairs key) := by
  induction pairs generalizing d with
  | nil => rfl
  | cons p pairs ih =>
    rw [List.foldl_cons, ih, given_cons, Dict.alter, Dict.get?_insert]
    by_cases h : p.1 = key
    · subst h
      by_cases hg : given pairs p.1 = [] <;> simp [hg]
    · simp only [if_neg h, if_neg (Ne.symm h)]

theorem get?_group : (group pairs).get? key =
    if given pairs key = [] then none else some (given pairs key) := by
  rw [group, get?_foldl_group, Dict.get?_empty]
  rfl

theorem last?_group : last? (group pairs) key = lastGiven? pairs key := by
  rw [last?, get?_group, lastGiven?]
  split_ifs with h
  · rw [h]
    rfl
  · rfl

/-! ## Lookups -/

theorem mem_parts_lookupValue {values : List String} :
    .text value ∈ (lookupValue values).parts ↔ value ∈ values := by
  unfold lookupValue
  split
  · simp [Json.parts]
  · simp [Json.parts, Json.ofTexts]

theorem isNull_lookupValue (values : List String) : (lookupValue values).isNull = false := by
  unfold lookupValue
  split <;> rfl

/-- The lookups among the keys of pairs, each with all its values. -/
theorem get?_lookupsOf_eq_some_iff {v : Json} : (lookupsOf (group pairs)).get? key = some v ↔
    isLookup key = true ∧ given pairs key ≠ [] ∧ v = lookupValue (given pairs key) := by
  have hmem : ∀ {k : String} {w : Json},
      (k, w) ∈ ((group pairs).filter fun k _ => isLookup k).entries.map
          (fun e => (e.1, lookupValue e.2)) ↔
        isLookup k = true ∧ given pairs k ≠ [] ∧ w = lookupValue (given pairs k) := by
    intro k w
    simp only [List.mem_map, Prod.mk.injEq, Prod.exists, Dict.mem_entries_iff, Dict.get?_filter,
      get?_group, Option.filter_eq_some_iff]
    constructor
    · rintro ⟨_, values, ⟨hvalues, hlookup⟩, rfl, rfl⟩
      split_ifs at hvalues with hg
      cases hvalues
      exact ⟨hlookup, hg, rfl⟩
    · rintro ⟨hlookup, hg, rfl⟩
      exact ⟨k, given pairs k, ⟨if_neg hg, hlookup⟩, rfl, rfl⟩
  rw [← Dict.mem_entries_iff, lookupsOf, Dict.mem_entries_ofList, hmem]
  rintro ⟨k, w⟩ he ⟨k', w'⟩ he' (rfl : k = k')
  exact (hmem.1 he).2.2.trans (hmem.1 he').2.2.symm

theorem withProperty_eq_ok_iff {lookups lookups' : Dict Json} :
    withProperty (group pairs) lookups = .ok lookups' ↔
      ((lastGiven? pairs "prop").isSome ↔ (lastGiven? pairs "value").isSome) ∧
        lookups' = match property? pairs with
          | some (name, value) => lookups.insert name (.text value)
          | none => lookups := by
  rw [withProperty, last?_group, last?_group, property?]
  cases lastGiven? pairs "prop" <;> cases lastGiven? pairs "value" <;> simp [eq_comm]

/-! ## Requests -/

/-- The requests that pairs make: the numbers can be read and are at least one, and `prop` and
`value` come together or not at all. -/
theorem ofPairs_eq_ok_iff {config : Config} {authenticated : Bool} {r : Request} :
    ofPairs pairs config authenticated = .ok r ↔
      ∃ limit page lookups, integer (group pairs) "limit" config.defaultLimit = .ok limit ∧
        integer (group pairs) "page" 1 = .ok page ∧
        withProperty (group pairs) (lookupsOf (group pairs)) = .ok lookups ∧
        1 ≤ page ∧ 1 ≤ limit ∧
        r = { limit := cap config authenticated limit
              page := page
              schema := (lastGiven? pairs "schema").filter (!·.isEmpty)
              orderBy := (sortOrder ((lastGiven? pairs "order_by").getD "")).2
              direction := (sortOrder ((lastGiven? pairs "order_by").getD "")).1
              term := lastGiven? pairs "q"
              lookups := lookups
              aggregations := aggregationsOf (group pairs)
              minSearchLength := config.minSearchLength } := by
  simp only [ofPairs, Outcome.bind_eq_ok_iff, Outcome.refuse_eq_ok_iff, last?_group, not_lt]
  constructor
  · rintro ⟨limit, hlimit, page, hpage, lookups, hlookups, hp, hl, h⟩
    exact ⟨limit, page, lookups, hlimit, hpage, hlookups, hp, hl, (Except.ok.inj h).symm⟩
  · rintro ⟨limit, page, lookups, hlimit, hpage, hlookups, hp, hl, rfl⟩
    exact ⟨limit, hlimit, page, hpage, lookups, hlookups, hp, hl, rfl⟩

end EntityQuery.Request
