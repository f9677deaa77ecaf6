import Mathlib.Tactic
import EntityQuery.Proofs.FilterOrder
import EntityQuery.Proofs.LookupLanguage

/-!
# Merging lookups

A list that is asked for under a key is merged into the list that is held there; anything else takes
the place of what there was, and `null` takes it away. What a key holds at last depends on what was
asked for under that key only, and in which order.

* `Json.same_trans`, `Query.occurs_union`: a union has the items of both lists, as values are equal;
* `Query.lookup?_runAll`: what steps make of a key, one value after the other;
* `Query.exists_foldl_taken`, `Query.Sound.filter_held`, `Query.filter_replaced`: lists into lists,
  lists that bring nothing new, and other values;
* **`Query.Reachable.mergeLaws`**: the laws of merging, in every reachable query.
-/

namespace EntityQuery

/-! ## Equality of values -/

theorem Double.same_trans {a b c : Double} (h : a.same b = true) (h' : b.same c = true) :
    a.same c = true := by
  unfold same at *
  grind

namespace Json

/-! What equals a value is of its kind, with equal parts. -/

variable {y : Json} {ys : List Json}

theorem same_null_iff : same .null y = true ↔ .null = y := by
  cases y <;> simp [same]

theorem same_bool_iff {b : Bool} : same (.bool b) y = true ↔ .bool b = y := by
  cases y <;> simp [same]

theorem same_int_iff {n : Int} : same (.int n) y = true ↔ .int n = y := by
  cases y <;> simp [same]

theorem same_text_iff {s : String} : same (.text s) y = true ↔ .text s = y := by
  cases y <;> simp [same]

theorem same_double_iff {d : Double} :
    same (.double d) y = true ↔ ∃ e, y = .double e ∧ d.same e = true := by
  cases y <;> simp [same]

theorem same_array_iff {xs : List Json} :
    same (.array xs) y = true ↔ ∃ ys, y = .array ys ∧ sameItems xs ys = true := by
  cases y <;> simp [same]

theorem same_object_iff {xs : List (String × Json)} :
    same (.object xs) y = true ↔ ∃ ys, y = .object ys ∧ sameMembers xs ys = true := by
  cases y <;> simp [same]

theorem sameItems_cons_iff {x : Json} {xs : List Json} : sameItems (x :: xs) ys = true ↔
    ∃ y rest, ys = y :: rest ∧ same x y = true ∧ sameItems xs rest = true := by
  cases ys <;> simp [sameItems]

theorem sameMembers_cons_iff {k : String} {x : Json} {xs ys : List (String × Json)} :
    sameMembers ((k, x) :: xs) ys = true ↔
      ∃ y rest, ys = (k, y) :: rest ∧ same x y = true ∧ sameMembers xs rest = true := by
  cases ys with
  | nil => simp [sameMembers]
  | cons member rest =>
    obtain ⟨l, y⟩ := member
    simp only [sameMembers, Bool.and_eq_true, beq_iff_eq, List.cons.injEq, Prod.mk.injEq]
    constructor
    · rintro ⟨⟨rfl, hsame⟩, hrest⟩
      exact ⟨y, rest, ⟨⟨rfl, rfl⟩, rfl⟩, hsame, hrest⟩
    · rintro ⟨_, _, ⟨⟨rfl, rfl⟩, rfl⟩, hsame, hrest⟩
      exact ⟨⟨rfl, hsame⟩, hrest⟩

mutual

theorem same_trans : (x : Json) → (y z : Json) → same x y = true → same y z = true →
    same x z = true
  | .null, y, z, h, h' => by
    obtain rfl := same_null_iff.1 h
    exact h'
  | .bool b, y, z, h, h' => by
    obtain rfl := same_bool_iff.1 h
    exact h'
  | .int n, y, z, h, h' => by
    obtain rfl := same_int_iff.1 h
    exact h'
  | .text s, y, z, h, h' => by
    obtain rfl := same_text_iff.1 h
    exact h'
  | .double d, y, z, h, h' => by
    obtain ⟨e, rfl, hde⟩ := same_double_iff.1 h
    obtain ⟨f, rfl, hef⟩ := same_double_iff.1 h'
    exact same_double_iff.2 ⟨f, rfl, Double.same_trans hde hef⟩
  | .array xs, y, z, h, h' => by
    obtain ⟨ys, rfl, hxy⟩ := same_array_iff.1 h
    obtain ⟨zs, rfl, hyz⟩ := same_array_iff.1 h'
    exact same_array_iff.2 ⟨zs, rfl, sameItems_trans xs ys zs hxy hyz⟩
  | .object xs, y, z, h, h' => by
    obtain ⟨ys, rfl, hxy⟩ := same_object_iff.1 h
    obtain ⟨zs, rfl, hyz⟩ := same_object_iff.1 h'
    exact same_object_iff.2 ⟨zs, rfl, sameMembers_trans xs ys zs hxy hyz⟩

theorem sameItems_trans : (xs : List Json) → (ys zs : List Json) → sameItems xs ys = true →
    sameItems ys zs = true → sameItems xs zs = true
  | [], ys, zs, h, h' => by
    cases ys with
    | nil => exact h'
    | cons => simp [sameItems] at h
  | x :: xs, ys, zs, h, h' => by
    obtain ⟨y, ys, rfl, hxy, hys⟩ := sameItems_cons_iff.1 h
    obtain ⟨z, zs, rfl, hyz, hzs⟩ := sameItems_cons_iff.1 h'
    exact sameItems_cons_iff.2
      ⟨z, zs, rfl, same_trans x y z hxy hyz, sameItems_trans xs ys zs hys hzs⟩

theorem sameMembers_trans : (xs : List (String × Json)) → (ys zs : List (String × Json)) →
    sameMembers xs ys = true → sameMembers ys zs = true → sameMembers xs zs = true
  | [], ys, zs, h, h' => by
    cases ys with
    | nil => exact h'
    | cons => simp [sameMembers] at h
  | (k, x) :: xs, ys, zs, h, h' => by
    obtain ⟨y, ys, rfl, hxy, hys⟩ := sameMembers_cons_iff.1 h
    obtain ⟨z, zs, rfl, hyz, hzs⟩ := sameMembers_cons_iff.1 h'
    exact sameMembers_cons_iff.2
      ⟨z, zs, rfl, same_trans x y z hxy hyz, sameMembers_trans xs ys zs hys hzs⟩

end

variable {j j' : Json} {xs : List Json}

theorem occurs_of_mem (h : j ∈ xs) : j.occurs xs = true :=
  List.any_eq_true.2 ⟨j, h, same_refl j⟩

theorem occurs_of_same (h : j.same j' = true) (h' : j'.occurs xs = true) : j.occurs xs = true := by
  obtain ⟨x, hx, hsame⟩ := List.any_eq_true.1 h'
  exact List.any_eq_true.2 ⟨x, hx, same_trans j j' x h hsame⟩

theorem occurs_append : j.occurs (xs ++ ys) = true ↔ j.occurs xs = true ∨ j.occurs ys = true := by
  rw [occurs, List.any_append, Bool.or_eq_true]
  rfl

theorem occurs_singleton : j.occurs [j'] = true ↔ j.same j' = true := by
  simp [occurs]

theorem occurs_cons : j.occurs (j' :: xs) = true ↔ j.same j' = true ∨ j.occurs xs = true := by
  simp [occurs]

end Json

/-! ## Lists that are asked for -/

/-- A list makes a test of membership among its items. -/
theorem Test.exists_among {op : Operator} {items : List Json} {t : Test}
    (h : Test.of op (.array items) = .ok t) :
    ∃ negated first rest, t = .among negated first rest ∧ items = first :: rest := by
  cases Test.of_eq_ok_iff.1 h with
  | absent hb => cases hb
  | single hs => exact Bool.noConfusion hs
  | one hs => exact Bool.noConfusion hs
  | many => exact ⟨_, _, _, rfl, rfl⟩

/-- A lookup for a list: its predicate tests membership among the items of its value, and binds them
in this order. -/
structure Lookup.IsList (l : Lookup) (items : List Json) : Prop where
  value : l.value = .array items
  test : ∃ negated first rest, l.predicate.test = .among negated first rest ∧ items = first :: rest
  bound : l.predicate.values = items

namespace Query

variable {table : String} {registry : Registry} {q q' : Query} {key : String}

theorem Sound.isList (h : q.Sound table registry) {l : Lookup} {items : List Json}
    (hl : q.lookups.get? key = some l) (hvalue : l.value = .array items) : l.IsList items := by
  have hp := h.compiled key l hl
  rw [hvalue] at hp
  obtain ⟨-, op, -, ht⟩ := Predicate.compile_eq_ok_iff.1 hp
  obtain ⟨negated, first, rest, htest, hitems⟩ := Test.exists_among ht
  refine ⟨hvalue, ⟨negated, first, rest, htest, hitems⟩, ?_⟩
  rw [Predicate.values, htest, hitems]
  rfl

/-! ## Unions -/

/-- A union begins with the items that were there. -/
theorem prefix_union (stored new : List Json) : stored <+: union stored new := by
  induction new generalizing stored with
  | nil => exact List.prefix_rfl
  | cons item new ih =>
    rw [union, List.foldl_cons, ← union]
    split_ifs
    · exact ih stored
    · exact (List.prefix_append stored [item]).trans (ih _)

/-- A union has the items of both lists and no others. -/
theorem occurs_union {j : Json} {stored new : List Json} :
    j.occurs (union stored new) = true ↔ j.occurs stored = true ∨ j.occurs new = true := by
  induction new generalizing stored with
  | nil => simp [union, Json.occurs]
  | cons item new ih =>
    rw [union, List.foldl_cons, ← union, ih, Json.occurs_cons, ← or_assoc]
    refine or_congr_left ?_
    split_ifs with hold
    · -- whatever equals the item equals one that is there
      exact ⟨.inl, fun h => h.elim id fun hsame => Json.occurs_of_same hsame hold⟩
    · rw [Json.occurs_append, Json.occurs_singleton]

/-- A list that brings nothing new leaves a list as it is. -/
theorem union_eq_self {stored new : List Json} (h : ∀ j ∈ new, j.occurs stored = true) :
    union stored new = stored := by
  induction new with
  | nil => rfl
  | cons item new ih =>
    rw [union, List.foldl_cons, if_pos (h item List.mem_cons_self)]
    exact ih fun j hj => h j (List.mem_cons_of_mem _ hj)

/-- The items of a list that is asked for; any other value has none. -/
def listed : Option Json → List Json
  | some (.array items) => items
  | _ => []

/-- What a list makes of what is asked for: a list that goes on from what was listed. -/
theorem exists_merge_array (asked : Option Json) (new : List Json) : ∃ items,
    merge asked (.array new) = .array items ∧ listed asked <+: items ∧
      ∀ j : Json, j.occurs items = true ↔ j.occurs (listed asked) = true ∨ j.occurs new = true := by
  cases asked with
  | some value =>
    cases value with
    | array stored => exact ⟨union stored new, rfl, prefix_union stored new, fun _ => occurs_union⟩
    | _ => exact ⟨new, rfl, List.nil_prefix, fun j => by simp [listed, Json.occurs]⟩
  | none => exact ⟨new, rfl, List.nil_prefix, fun j => by simp [listed, Json.occurs]⟩

/-- In place of a value there is always one that is no list. -/
theorem merge_of_not_array {asked : Option Json} {value : Json}
    (h : ∀ items, value ≠ .array items) : merge asked value = value := by
  cases asked with
  | none => rfl
  | some old =>
    cases value with
    | array items => exact absurd rfl (h items)
    | _ => cases old <;> rfl

/-! ## Runs -/

/-- What is asked for under a key after a value is given. -/
def taken (asked : Option Json) (value : Json) : Option Json :=
  if value.isNull then none else some (merge asked value)

/-- The values that filters give for a key, in order. -/
def valuesFor (key : String) (filters : List (String × Json)) : List Json :=
  (filters.filter (·.1 == key)).map (·.2)

/-- The filters of a step. -/
def Step.filters : Step → List (String × Json)
  | .filterAll filters => filters
  | .filter key value => [(key, value)]
  | _ => []

theorem valuesFor_cons (f : String × Json) (filters : List (String × Json)) :
    valuesFor key (f :: filters) = if f.1 = key then f.2 :: valuesFor key filters
      else valuesFor key filters := by
  by_cases h : f.1 = key <;> simp [valuesFor, h]

theorem valuesFor_append (filters filters' : List (String × Json)) :
    valuesFor key (filters ++ filters') = valuesFor key filters ++ valuesFor key filters' := by
  simp [valuesFor]

theorem lookup?_filter_eq {k : String} {value : Json} (h : q.filter k value = .ok q') :
    q'.lookup? key = (valuesFor key [(k, value)]).foldl taken (q.lookup? key) := by
  rw [lookup?_filter h, valuesFor_cons]
  by_cases hk : key = k
  · rw [if_pos hk, if_pos hk.symm, hk]
    rfl
  · rw [if_neg hk, if_neg (Ne.symm hk)]
    rfl

theorem lookup?_filterAll_eq {filters : List (String × Json)} (h : q.filterAll filters = .ok q') :
    q'.lookup? key = (valuesFor key filters).foldl taken (q.lookup? key) := by
  induction filters generalizing q with
  | nil =>
    cases h
    rfl
  | cons f filters ih =>
    rw [filterAll, List.foldlM_cons] at h
    obtain ⟨q₁, hq₁, hrest⟩ := Outcome.bind_eq_ok_iff.1 h
    rw [ih hrest, lookup?_filter_eq hq₁, ← List.foldl_append, ← valuesFor_append]
    rfl

theorem lookup?_of_arranges {s : Step} (hs : s.Arranges) (h : s.run q = .ok q') :
    q'.lookup? key = q.lookup? key := by
  have hasked : q'.unpaged.lookup? key = q.unpaged.lookup? key := by rw [Step.unpaged_run hs h]
  exact hasked

theorem Step.lookup?_run {s : Step} (h : s.run q = .ok q') :
    q'.lookup? key = (valuesFor key s.filters).foldl taken (q.lookup? key) := by
  cases s with
  | filterAll filters => exact lookup?_filterAll_eq h
  | filter k value => exact lookup?_filter_eq h
  | _ =>
    refine lookup?_of_arranges ?_ h
    trivial

/-- What a key holds after steps is what their filters give for it, one value after the other. -/
theorem lookup?_runAll {steps : List Step} (h : q.runAll steps = .ok q') : q'.lookup? key =
    (valuesFor key (steps.flatMap Step.filters)).foldl taken (q.lookup? key) := by
  induction steps generalizing q with
  | nil =>
    cases h
    rfl
  | cons s steps ih =>
    rw [runAll, List.foldlM_cons] at h
    obtain ⟨q₁, hq₁, hrest⟩ := Outcome.bind_eq_ok_iff.1 h
    rw [ih hrest, Step.lookup?_run hq₁, ← List.foldl_append, ← valuesFor_append,
      List.flatMap_cons]

theorem runAll_append {steps steps' : List Step} : q.runAll (steps ++ steps') = .ok q' ↔
    ∃ q₁, q.runAll steps = .ok q₁ ∧ q₁.runAll steps' = .ok q' := by
  rw [runAll, List.foldlM_append]
  exact Outcome.bind_eq_ok_iff

/-! ## Lists into lists -/

/-- Lists that are given one after the other go on from the list that was there. -/
theorem prefix_foldl_taken (asked : Option Json) (lists : List (List Json)) :
    listed asked <+: listed ((lists.map Json.array).foldl taken asked) := by
  induction lists generalizing asked with
  | nil => exact List.prefix_rfl
  | cons list lists ih =>
    obtain ⟨items, hitems, hprefix, -⟩ := exists_merge_array asked list
    have htaken : taken asked (.array list) = some (.array items) := congrArg some hitems
    rw [List.map_cons, List.foldl_cons, htaken]
    exact hprefix.trans (ih (some (.array items)))

/-- Lists that are given one after the other make one list, with the items of all of them. -/
theorem exists_foldl_taken {asked : Option Json} {lists : List (List Json)}
    (h : lists ≠ [] ∨ ∃ stored, asked = some (.array stored)) : ∃ items,
      (lists.map Json.array).foldl taken asked = some (.array items) ∧
        ∀ j : Json, j.occurs items = true ↔
          j.occurs (listed asked) = true ∨ ∃ list ∈ lists, j.occurs list = true := by
  induction lists generalizing asked with
  | nil =>
    rcases h with h | ⟨stored, rfl⟩
    · exact absurd rfl h
    · exact ⟨stored, rfl, fun j => by simp [listed]⟩
  | cons list lists ih =>
    obtain ⟨merged, hmerged, -, hoccurs⟩ := exists_merge_array asked list
    have htaken : taken asked (.array list) = some (.array merged) := congrArg some hmerged
    obtain ⟨items, hitems, hoccurs'⟩ := ih (.inr ⟨merged, rfl⟩)
    refine ⟨items, ?_, fun j => ?_⟩
    · rw [List.map_cons, List.foldl_cons, htaken, hitems]
    · rw [hoccurs', listed, hoccurs, or_assoc, List.exists_mem_cons_iff]

/-- A list that brings nothing new leaves the query as it is. -/
theorem Sound.filter_held (h : q.Sound table registry) {stored new : List Json}
    (hstored : q.lookup? key = some (.array stored)) (hnew : ∀ j ∈ new, j.occurs stored = true) :
    q.filter key (.array new) = .ok q := by
  obtain ⟨l, hl, hvalue⟩ := Option.map_eq_some_iff.1 hstored
  have hmerge : merge (q.lookup? key) (.array new) = .array stored := by
    rw [hstored, merge, union_eq_self hnew]
  have hp := h.compiled key l hl
  rw [hvalue, ← h.registry_eq, ← hmerge] at hp
  refine filter_eq_ok_iff.2 (.inr ⟨rfl, l.predicate, hp, ?_, ?_⟩)
  · -- the lookup that is replaced is in use itself, and clashes with nothing
    rw [h.clashes_without hp]
    exact h.compatible _ (mem_fields.2 (.inl (mem_lookupFields.2 ⟨key, l, hl, rfl⟩)))
  · have hlookups : q.lookups.insert key ⟨merge (q.lookup? key) (.array new), l.predicate⟩ =
        q.lookups := by
      refine Dict.ext fun k => ?_
      rw [Dict.get?_insert, hmerge, ← hvalue]
      split_ifs with hk
      · rw [hk, hl]
      · rfl
    rw [hlookups]

/-! ## Values in place of others -/

/-- A filter on a key leaves the other keys alone. -/
theorem get?_lookups_filter {value : Json} (h : q.filter key value = .ok q') {k : String}
    (hk : k ≠ key) : q'.lookups.get? k = q.lookups.get? k := by
  rcases filter_eq_ok_iff.1 h with ⟨-, rfl⟩ | ⟨-, p, -, -, rfl⟩
  · rw [without, Dict.get?_erase, if_neg hk]
  · rw [Dict.get?_insert, if_neg hk]

theorem without_of_filter {value : Json} (h : q.filter key value = .ok q') :
    q'.without key = q.without key := by
  have hlookups : q'.lookups.erase key = q.lookups.erase key := by
    refine Dict.ext fun k => ?_
    rw [Dict.get?_erase, Dict.get?_erase]
    split_ifs with hk
    · rfl
    · exact get?_lookups_filter h hk
  obtain ⟨lookups, rfl⟩ := sameButLookups_of_filter h
  rw [without, without, hlookups]

/-- Where a value that is no list is asked for, it does not matter what the key held. -/
theorem filter_without {value : Json} (h : ∀ items, value ≠ .array items) :
    (q.without key).filter key value = q.filter key value := by
  have herase : (q.lookups.erase key).erase key = q.lookups.erase key := by
    refine Dict.ext fun k => ?_
    simp only [Dict.get?_erase]
    split_ifs <;> rfl
  have hinsert : ∀ l, (q.lookups.erase key).insert key l = q.lookups.insert key l := by
    intro l
    refine Dict.ext fun k => ?_
    simp only [Dict.get?_insert, Dict.get?_erase]
    split_ifs <;> rfl
  rw [filter, filter, merge_of_not_array h, merge_of_not_array h]
  simp only [without, herase, hinsert]

/-- A value that is no list is asked for as if nothing had been asked for before. -/
theorem filter_replaced {u v : Json} (h : q.filter key u = .ok q')
    (hv : ∀ items, v ≠ .array items) : q'.filter key v = q.filter key v := by
  rw [← filter_without hv, without_of_filter h, filter_without hv]

/-! ## All together -/

/-- How a query merges what is asked for under a key with what the key holds. -/
structure MergeLaws (q : Query) (key : String) : Prop where
  /-- Lists are collected, whatever other steps come between them: the key holds the items of all of
  them, and its list goes on from each one that it held on the way. -/
  collects : ∀ steps q' lists, q.runAll steps = .ok q' →
    valuesFor key (steps.flatMap Step.filters) = lists.map .array →
    (lists ≠ [] ∨ ∃ stored, q.lookup? key = some (.array stored)) →
    ∃ items l, q'.lookups.get? key = some l ∧ l.IsList items ∧
      (∀ j : Json, j.occurs items = true ↔
        j.occurs (listed (q.lookup? key)) = true ∨ ∃ list ∈ lists, j.occurs list = true) ∧
      ∀ before after between, steps = before ++ after → q.runAll before = .ok between →
        listed (between.lookup? key) <+: items
  /-- A list that brings nothing new changes nothing. -/
  keeps : ∀ stored new, q.lookup? key = some (.array stored) →
    (∀ j ∈ new, j.occurs stored = true) → q.filter key (.array new) = .ok q
  /-- Any other value takes the place of what there was. -/
  replaces : ∀ u v q', q.filter key u = .ok q' → (∀ items, v ≠ .array items) →
    q'.filter key v = q.filter key v
  /-- `null` takes it away. -/
  removes : ∃ q', q.filter key .null = .ok q' ∧ q'.lookups.get? key = none
  /-- The rest of the query stays as it is. -/
  apart : ∀ value q', q.filter key value = .ok q' → q.SameButLookups q' ∧
    ∀ k, k ≠ key → q'.lookups.get? k = q.lookups.get? k

theorem Reachable.runAll {steps : List Step} (h : q.Reachable table registry)
    (hs : q.runAll steps = .ok q') : q'.Reachable table registry :=
  Outcome.foldlM_induct (fun _ step _ hreach hrun => .step step hreach hrun) h hs

/-- **Lookups are merged by these laws in every reachable query.** -/
theorem Reachable.mergeLaws (h : q.Reachable table registry) (key : String) : q.MergeLaws key where
  collects := by
    intro steps q' lists hrun hlists hsome
    obtain ⟨items, hitems, hoccurs⟩ := exists_foldl_taken hsome
    rw [← hlists, ← lookup?_runAll hrun] at hitems
    obtain ⟨l, hl, hvalue⟩ := Option.map_eq_some_iff.1 hitems
    refine ⟨items, l, hl, (h.runAll hrun).sound.isList hl hvalue, hoccurs, ?_⟩
    rintro before after between rfl hbefore
    -- what comes after is given in lists too
    obtain ⟨q₁, hq₁, hafter⟩ := runAll_append.1 hrun
    obtain rfl : between = q₁ := Except.ok.inj (hbefore.symm.trans hq₁)
    rw [List.flatMap_append, valuesFor_append, eq_comm, List.map_eq_append_iff] at hlists
    obtain ⟨-, rest, -, -, hrest⟩ := hlists
    have hprefix := prefix_foldl_taken (between.lookup? key) rest
    rw [hrest, ← lookup?_runAll hafter, hitems] at hprefix
    exact hprefix
  keeps _ _ := h.sound.filter_held
  replaces _ _ _ := filter_replaced
  removes := ⟨q.without key, rfl, Dict.get?_erase_self _ _⟩
  apart _ _ hq := ⟨sameButLookups_of_filter hq, fun _ => get?_lookups_filter hq⟩

/-- Two lists of datasets are collected on top of a third, with a limit between them. To ask again
for two of the datasets changes nothing. -/
theorem datasets_collected : ∃ q q', Query.Reachable "ftm" Model.bundled.registry q ∧
    q.runAll [.filter "dataset" (.array [.text "b", .text "a"]), .withLimit 5,
      .filterAll [("dataset", .array [.text "c"])]] = .ok q' ∧
    (∃ l, q'.lookups.get? "dataset" = some l ∧
      l.predicate.values = [.text "a", .text "b", .text "c"]) ∧
    q'.filter "dataset" (.array [.text "c", .text "a"]) = .ok q' := by
  obtain ⟨q, q', hfirst, hrun, hstored⟩ : ∃ q q', (Step.filter "dataset" (.array [.text "a"])).run
      (.new "ftm" Model.bundled.registry) = .ok q ∧
      q.runAll [.filter "dataset" (.array [.text "b", .text "a"]), .withLimit 5,
        .filterAll [("dataset", .array [.text "c"])]] = .ok q' ∧
      q'.lookup? "dataset" = some (.array [.text "a", .text "b", .text "c"]) :=
    ⟨_, _, rfl, rfl, rfl⟩
  have hreach := Reachable.step _ .new hfirst
  obtain ⟨items, l, hl, hlist, -, -⟩ := (hreach.mergeLaws "dataset").collects _ q'
    [[.text "b", .text "a"], [.text "c"]] hrun rfl (.inl (List.cons_ne_nil _ _))
  have hitems : items = [.text "a", .text "b", .text "c"] := by
    rw [lookup?, hl, Option.map_some, hlist.value, Option.some.injEq, Json.array.injEq] at hstored
    exact hstored
  refine ⟨q, q', hreach, hrun, ⟨l, hl, ?_⟩, ?_⟩
  · rw [hlist.bound, hitems]
  · refine ((hreach.runAll hrun).mergeLaws "dataset").keeps _ _ hstored fun j hj => ?_
    refine Json.occurs_of_mem ?_
    simp only [List.mem_cons, List.not_mem_nil, or_false] at hj ⊢
    tauto

end Query

end EntityQuery
