import Mathlib.Tactic
import EntityQuery.Proofs.RequestFilters

/-!
# The intake of requests

A request holds what its pairs give and nothing else: a lookup for each key without a meaning of its
own, the lookup of `prop` and `value`, and the fields of each aggregate function. In which order the
pairs of different keys come does not matter.

* `Request.ofPairs_congr`: pairs that give the same values for each key make the same request;
* `Request.asked`: what pairs ask for under a key;
* `Request.Faithful`: a request holds what its pairs give;
* **`Request.intake_faithful`**: every request does, in any order of the keys.
-/

namespace EntityQuery

theorem Aggregate.ofParameter?_eq_none_iff {key : String} :
    ofParameter? key = none ↔ ∀ f : Aggregate, key ≠ f.resultName := by
  rw [ofParameter?, List.find?_eq_none]
  constructor
  · intro h f heq
    exact h f f.mem_all (by simp [heq])
  · intro h f _ heq
    exact h f (beq_iff_eq.1 heq).symm

namespace Request

variable {pairs pairs' : List (String × String)} {config : Config} {authenticated : Bool}
  {r : Request}

/-! ## The order of pairs -/

theorem group_congr (h : ∀ key, given pairs key = given pairs' key) :
    group pairs = group pairs' := by
  apply Dict.ext
  intro key
  rw [get?_group, get?_group, h key]

/-- Of the pairs only the values of each key count, in their order. -/
theorem ofPairs_congr (h : ∀ key, given pairs key = given pairs' key) (config : Config)
    (authenticated : Bool) :
    ofPairs pairs config authenticated = ofPairs pairs' config authenticated := by
  unfold ofPairs
  rw [group_congr h]

/-! ## Lookups -/

/-- What pairs ask for under a key: nothing if they do not give it, its value if they give it once,
and the list of all its values, in order, if they give it more often. -/
def asked (pairs : List (String × String)) (key : String) : Option Json :=
  match given pairs key with
  | [] => none
  | [value] => some (.text value)
  | values => some (.ofTexts values)

theorem get?_lookupsOf_group {key : String} (h : isLookup key = true) :
    (lookupsOf (group pairs)).get? key = asked pairs key := by
  apply Option.ext
  intro v
  rw [get?_lookupsOf_eq_some_iff, asked]
  simp only [h, true_and]
  cases hgiven : given pairs key with
  | nil => simp
  | cons value values =>
    cases values with
    | nil => simp [lookupValue, eq_comm]
    | cons value' values => simp [lookupValue, eq_comm]

theorem get?_lookupsOf_eq_none {key : String} (h : isLookup key = false) :
    (lookupsOf (group pairs)).get? key = none := by
  rw [Option.eq_none_iff_forall_ne_some]
  intro v hv
  have hlookup := (get?_lookupsOf_eq_some_iff.1 hv).1
  rw [h] at hlookup
  exact Bool.noConfusion hlookup

/-- A name of a property comes with a value. -/
theorem exists_property (hr : ofPairs pairs config authenticated = .ok r) {name : String}
    (h : lastGiven? pairs "prop" = some name) :
    ∃ value, lastGiven? pairs "value" = some value ∧ property? pairs = some (name, value) := by
  obtain ⟨limit, page, lookups, -, -, hlookups, -, -, -⟩ := ofPairs_eq_ok_iff.1 hr
  have hboth := (withProperty_eq_ok_iff.1 hlookups).1
  rw [h] at hboth
  obtain ⟨value, hvalue⟩ := Option.isSome_iff_exists.1 (hboth.1 rfl)
  exact ⟨value, hvalue, by rw [property?, h, hvalue]; rfl⟩

/-- Only the name that `prop` gives is a name of a property. -/
theorem property?_ne {key : String} (h : lastGiven? pairs "prop" ≠ some key) (value : String) :
    property? pairs ≠ some (key, value) := by
  intro hp
  obtain ⟨name, hname, hvalue⟩ := Option.bind_eq_some_iff.1 hp
  obtain ⟨_, -, heq⟩ := Option.map_eq_some_iff.1 hvalue
  exact h (hname.trans (congrArg some (Prod.mk.inj heq).1))

/-! ## Aggregations -/

theorem fields_aggregations (hr : ofPairs pairs config authenticated = .ok r) (f : Aggregate) :
    r.aggregations.fields f = given pairs f.resultName := by
  obtain ⟨limit, page, lookups, -, -, -, -, -, rfl⟩ := ofPairs_eq_ok_iff.1 hr
  show ((group pairs).get? f.resultName).getD [] = given pairs f.resultName
  rw [get?_group]
  split_ifs with h
  · rw [h]
    rfl
  · rfl

/-! ## Requests -/

/-- A request holds what its pairs give: under the last name that `prop` gives, the last value that
comes with it; under every other key what the pairs ask for, and nothing under the keys that have a
meaning of their own; and for each aggregate function the fields that its key names. -/
structure Faithful (pairs : List (String × String)) (r : Request) : Prop where
  property : ∀ name, lastGiven? pairs "prop" = some name →
    ∃ value, lastGiven? pairs "value" = some value ∧ r.lookups.get? name = some (.text value)
  lookups : ∀ key, lastGiven? pairs "prop" ≠ some key → key ∉ reserved →
    (∀ f : Aggregate, key ≠ f.resultName) → r.lookups.get? key = asked pairs key
  no_others : ∀ key, lastGiven? pairs "prop" ≠ some key →
    (key ∈ reserved ∨ ∃ f : Aggregate, key = f.resultName) → r.lookups.get? key = none
  aggregations : ∀ f : Aggregate, r.aggregations.fields f = given pairs f.resultName

/-- **Requests are taken in as given**, with no regard to the order in which keys come: pairs that
give the same values for each key, in order, make the same request or are refused alike, and a
request that is made holds what its pairs give. -/
theorem intake_faithful :
    (∀ pairs pairs' : List (String × String), (∀ key, given pairs key = given pairs' key) →
      ∀ config authenticated,
        ofPairs pairs config authenticated = ofPairs pairs' config authenticated) ∧
    ∀ pairs config authenticated r, ofPairs pairs config authenticated = .ok r →
      Faithful pairs r := by
  refine ⟨fun pairs pairs' h => ofPairs_congr h, fun pairs config authenticated r hr => ?_⟩
  constructor
  · intro name hname
    obtain ⟨value, hvalue, hproperty⟩ := exists_property hr hname
    exact ⟨value, hvalue, get?_lookups_property hr hproperty⟩
  · intro key hprop hreserved haggregate
    have hlookup := isLookup_iff.2 ⟨hreserved, Aggregate.ofParameter?_eq_none_iff.2 haggregate⟩
    rw [get?_lookups_key hr (property?_ne hprop), get?_lookupsOf_group hlookup]
  · intro key hprop hmeaning
    have hlookup : isLookup key = false := by
      rw [← Bool.not_eq_true, isLookup_iff, Aggregate.ofParameter?_eq_none_iff]
      rintro ⟨hreserved, haggregate⟩
      rcases hmeaning with h | ⟨f, h⟩
      · exact hreserved h
      · exact haggregate f h
    rw [get?_lookups_key hr (property?_ne hprop), get?_lookupsOf_eq_none hlookup]
  · exact fields_aggregations hr

/-- Lookups that are given once and twice, a property under a key with a meaning of its own and
fields to sum up, in two orders. -/
theorem lookups_in_two_orders :
    ofPairs [("country", "de"), ("prop", "q"), ("aggSum", "amount"), ("topic", "x"), ("value", "v"),
        ("country", "fr"), ("aggSum", "date")] {} true =
      ofPairs [("value", "v"), ("aggSum", "amount"), ("aggSum", "date"), ("prop", "q"),
        ("country", "de"), ("country", "fr"), ("topic", "x")] {} true ∧
    ∃ r, ofPairs [("country", "de"), ("prop", "q"), ("aggSum", "amount"), ("topic", "x"),
        ("value", "v"), ("country", "fr"), ("aggSum", "date")] {} true = .ok r ∧
      r.lookups.get? "country" = some (.ofTexts ["de", "fr"]) ∧
      r.lookups.get? "topic" = some (.text "x") ∧ r.lookups.get? "q" = some (.text "v") ∧
      r.lookups.get? "aggSum" = none ∧ r.aggregations.fields .sum = ["amount", "date"] := by
  obtain ⟨horder, hfaithful⟩ := intake_faithful
  refine ⟨horder _ _ (fun key => ?_) {} true, ?_⟩
  · by_cases h : key ∈ ["country", "prop", "aggSum", "topic", "value"]
    · simp only [List.mem_cons, List.not_mem_nil, or_false] at h
      rcases h with rfl | rfl | rfl | rfl | rfl <;> rfl
    · simp only [List.mem_cons, List.not_mem_nil, or_false, not_or] at h
      obtain ⟨h₁, h₂, h₃, h₄, h₅⟩ := h
      simp only [given_cons, Ne.symm h₁, Ne.symm h₂, Ne.symm h₃, Ne.symm h₄, Ne.symm h₅, if_false]
  · obtain ⟨hproperty, hlookups, hnone, haggregations⟩ := hfaithful
      [("country", "de"), ("prop", "q"), ("aggSum", "amount"), ("topic", "x"), ("value", "v"),
        ("country", "fr"), ("aggSum", "date")] {} true _ rfl
    obtain ⟨value, hvalue, hq⟩ := hproperty "q" rfl
    cases hvalue
    have hsum : ∃ f : Aggregate, "aggSum" = f.resultName := ⟨.sum, rfl⟩
    refine ⟨_, rfl, hlookups "country" (by decide) (by decide) (by rintro ⟨⟩ <;> decide),
      hlookups "topic" (by decide) (by decide) (by rintro ⟨⟩ <;> decide), hq,
      hnone "aggSum" (by decide) (.inr hsum), haggregations .sum⟩

end Request

end EntityQuery
