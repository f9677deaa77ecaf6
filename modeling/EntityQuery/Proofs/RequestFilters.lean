import Mathlib.Tactic
import EntityQuery.Proofs.Given
import EntityQuery.Proofs.Step
import EntityQuery.Registry.Bundled

/-!
# Filters of requests

What the query of a request asks for under each key. The lookup that `prop` and `value` make is put
in place of what the request gives under the same key otherwise, be it a lookup or the schema, and
it is not held against the registry as the schema is.

* `Query.lookup?_filter`, `Query.lookup?_filterAll`: what is asked for after one lookup and after
  many;
* `Request.lookup?_toQuery`: what the query of a request asks for;
* **`Request.filters_kept_iff`**: no filter is lost exactly where `prop` and `value` agree with the
  rest of the request;
* **`Request.schema_known_iff`**: the schema asked for is known exactly where `prop` and `value`
  give none that is unknown.
-/

namespace EntityQuery

variable {table : String} {registry : Registry}

namespace Query

variable {q q' : Query}

/-- A lookup changes what is asked for under its own key only. -/
theorem lookup?_filter {key : String} {value : Json} (h : q.filter key value = .ok q')
    (k : String) : q'.lookup? k =
      if k = key then if value.isNull then none else some (merge (q.lookup? key) value)
      else q.lookup? k := by
  rcases filter_eq_ok_iff.1 h with ⟨hn, rfl⟩ | ⟨hn, p, -, -, rfl⟩
  · rw [lookup?, without, Dict.get?_erase, if_pos hn]
    split_ifs <;> rfl
  · rw [lookup?, Dict.get?_insert, hn, if_neg Bool.false_ne_true]
    split_ifs <;> rfl

/-- Lookups under different keys do not change what each of them asks for. -/
theorem lookup?_filterAll {filters : List (String × Json)} (hkeys : (filters.map (·.1)).Nodup)
    (h : q.filterAll filters = .ok q') (k : String) : q'.lookup? k =
      match Entries.find? k filters with
      | some value => if value.isNull then none else some (merge (q.lookup? k) value)
      | none => q.lookup? k := by
  induction filters generalizing q with
  | nil =>
    cases h
    rfl
  | cons f filters ih =>
    rw [filterAll, List.foldlM_cons] at h
    obtain ⟨q₁, hq₁, hrest⟩ := Outcome.bind_eq_ok_iff.1 h
    rw [List.map_cons, List.nodup_cons] at hkeys
    rw [ih hkeys.2 hrest, Entries.find?, lookup?_filter hq₁]
    by_cases hk : k = f.1
    · -- no later filter has the key
      have hnone : Entries.find? k filters = none := by
        rw [Option.eq_none_iff_forall_ne_some]
        intro value hvalue
        exact hkeys.1 (hk ▸ List.mem_map_of_mem (Entries.mem_of_find? hvalue))
      rw [hnone, if_pos hk, if_pos hk, hk]
    · rw [if_neg hk, if_neg hk]

theorem lookup?_filterAll_entries {d : Dict Json} (h : q.filterAll d.entries = .ok q')
    (k : String) : q'.lookup? k = match d.get? k with
      | some value => if value.isNull then none else some (merge (q.lookup? k) value)
      | none => q.lookup? k :=
  lookup?_filterAll d.nodup_keys h k

/-- In place of a value that is no list there is always the new value. -/
theorem merge_text (s : String) (value : Json) : merge (some (.text s)) value = value := by
  cases value <;> rfl

end Query

namespace Request

variable {pairs : List (String × String)} {config : Config} {authenticated : Bool} {r : Request}
  {q : Query}

/-! ## The query of a request -/

/-- The steps to the query of a request. -/
theorem toQuery_eq_ok_iff : r.toQuery table registry = .ok q ↔
    ∃ paged ordered narrowed, (Query.new table registry).page r.page r.limit = .ok paged ∧
      (if r.orderBy.isEmpty then .ok paged else paged.orderBy r.orderBy r.direction) =
        .ok ordered ∧
      withSchema ordered r.schema = .ok narrowed ∧
      narrowed.filterAll r.lookups.entries = .ok q := by
  -- the order is a step of its own, whether there is any or not
  have hordered : ∀ (paged : Query) (next : Query → Except QueryError Query),
      (if r.orderBy.isEmpty = true then pure paged >>= next
        else paged.orderBy r.orderBy r.direction >>= next) =
      (if r.orderBy.isEmpty = true then .ok paged else paged.orderBy r.orderBy r.direction) >>=
        next := by
    intro paged next
    split_ifs <;> rfl
  simp only [toQuery, hordered, Outcome.bind_eq_ok_iff, exists_and_left]

/-- The query of a page in order asks for nothing yet, over the same registry. -/
theorem lookups_ordered {paged ordered : Query}
    (hpaged : (Query.new table registry).page r.page r.limit = .ok paged)
    (hordered : (if r.orderBy.isEmpty then .ok paged else paged.orderBy r.orderBy r.direction) =
      .ok ordered) : ordered.lookups = .empty ∧ ordered.registry = registry := by
  obtain ⟨limit, offset, rfl⟩ := Query.sameButWindow_of_page hpaged
  split_ifs at hordered
  · cases hordered
    exact ⟨rfl, rfl⟩
  · obtain ⟨fields, -, -, rfl⟩ := Query.orderBy_eq_ok_iff.1 hordered
    exact ⟨rfl, rfl⟩

/-- A schema that is asked for is known, and is all that the query asks for so far. -/
theorem withSchema_eq_ok {narrowed : Query} (hq : q.lookups = .empty) {schema : Option String}
    (h : withSchema q schema = .ok narrowed) :
    (∀ s, schema = some s → q.registry.isKnownSchema s = true) ∧
      ∀ key, narrowed.lookup? key = if key = "schema" then schema.map .text else none := by
  have hnone : ∀ key, q.lookup? key = none := by
    intro key
    rw [Query.lookup?, hq, Dict.get?_empty]
    rfl
  cases schema with
  | none =>
    cases h
    refine ⟨fun s hs => absurd hs (Option.some_ne_none s).symm, fun key => ?_⟩
    rw [hnone, Option.map_none, ite_self]
  | some schema =>
    rw [withSchema] at h
    split_ifs at h with hknown
    refine ⟨fun s hs => by rwa [← Option.some.inj hs], fun key => ?_⟩
    rw [Query.lookup?_filter h, hnone, hnone]
    rfl

/-- The query of a request asks for its lookups, and for its schema where none of them is under the
key of the schema. -/
theorem lookup?_toQuery (h : r.toQuery table registry = .ok q) (key : String) :
    q.lookup? key = match r.lookups.get? key with
      | some value => if value.isNull then none else some value
      | none => if key = "schema" then r.schema.map .text else none := by
  obtain ⟨paged, ordered, narrowed, hpaged, hordered, hnarrowed, hq⟩ := toQuery_eq_ok_iff.1 h
  have hasked := (withSchema_eq_ok (lookups_ordered hpaged hordered).1 hnarrowed).2 key
  rw [Query.lookup?_filterAll_entries hq, hasked]
  have hmerge : ∀ value, Query.merge (if key = "schema" then r.schema.map .text else none) value =
      value := by
    intro value
    split_ifs
    · cases r.schema with
      | none => rfl
      | some schema => exact Query.merge_text schema value
    · rfl
  simp only [hmerge]

/-- The schema of a request is known if the request has a query. -/
theorem isKnownSchema_of_toQuery (h : r.toQuery table registry = .ok q) {schema : String}
    (hs : r.schema = some schema) : registry.isKnownSchema schema = true := by
  obtain ⟨paged, ordered, narrowed, hpaged, hordered, hnarrowed, -⟩ := toQuery_eq_ok_iff.1 h
  obtain ⟨hlookups, hregistry⟩ := lookups_ordered hpaged hordered
  rw [← hregistry]
  exact (withSchema_eq_ok hlookups hnarrowed).1 schema hs

/-! ## What pairs ask for -/

/-- What `prop` and `value` give is a lookup of the request. -/
theorem get?_lookups_property (hr : ofPairs pairs config authenticated = .ok r)
    {name value : String} (h : property? pairs = some (name, value)) :
    r.lookups.get? name = some (.text value) := by
  obtain ⟨limit, page, lookups, -, -, hlookups, -, -, rfl⟩ := ofPairs_eq_ok_iff.1 hr
  obtain ⟨-, rfl⟩ := withProperty_eq_ok_iff.1 hlookups
  rw [h]
  exact Dict.get?_insert_self _ _ _

/-- Under every other name the lookups of a request are those of its keys. -/
theorem get?_lookups_key (hr : ofPairs pairs config authenticated = .ok r) {key : String}
    (h : ∀ value, property? pairs ≠ some (key, value)) :
    r.lookups.get? key = (lookupsOf (group pairs)).get? key := by
  obtain ⟨limit, page, lookups, -, -, hlookups, -, -, rfl⟩ := ofPairs_eq_ok_iff.1 hr
  obtain ⟨-, rfl⟩ := withProperty_eq_ok_iff.1 hlookups
  cases hp : property? pairs with
  | none => rfl
  | some p =>
    have hne : key ≠ p.1 := fun heq => h p.2 (by rw [hp, heq])
    exact (Dict.get?_insert _ _ _ _).trans (if_neg hne)

theorem schema_eq (hr : ofPairs pairs config authenticated = .ok r) :
    r.schema = (lastGiven? pairs "schema").filter (!·.isEmpty) := by
  obtain ⟨limit, page, lookups, -, -, -, -, -, rfl⟩ := ofPairs_eq_ok_iff.1 hr
  rfl

/-- The query asks for what `prop` and `value` give, and for nothing else under that name. -/
theorem lookup?_property (hr : ofPairs pairs config authenticated = .ok r)
    (hq : r.toQuery table registry = .ok q) {name value : String}
    (h : property? pairs = some (name, value)) : q.lookup? name = some (.text value) := by
  rw [lookup?_toQuery hq, get?_lookups_property hr h]
  rfl

/-- Under any other lookup key the query asks for all values given. -/
theorem lookup?_key (hr : ofPairs pairs config authenticated = .ok r)
    (hq : r.toQuery table registry = .ok q) {key : String}
    (h : ∀ value, property? pairs ≠ some (key, value)) (hlookup : isLookup key = true)
    (hgiven : given pairs key ≠ []) : q.lookup? key = some (lookupValue (given pairs key)) := by
  have hget := get?_lookupsOf_eq_some_iff.2 ⟨hlookup, hgiven, rfl⟩
  rw [lookup?_toQuery hq, get?_lookups_key hr h, hget]
  simp only [isNull_lookupValue, Bool.false_eq_true, if_false]

/-- Unless `prop` names the schema, the query asks for the schema given. -/
theorem lookup?_schema (hr : ofPairs pairs config authenticated = .ok r)
    (hq : r.toQuery table registry = .ok q)
    (h : ∀ value, property? pairs ≠ some ("schema", value)) :
    q.lookup? "schema" = r.schema.map .text := by
  have hnone : (lookupsOf (group pairs)).get? "schema" = none := by
    rw [Option.eq_none_iff_forall_ne_some]
    intro value hvalue
    have hlookup := (get?_lookupsOf_eq_some_iff.1 hvalue).1
    exact absurd hlookup (by decide)
  rw [lookup?_toQuery hq, get?_lookups_key hr h, hnone]
  rfl

/-- Requests that are made and have a query can be told by running them. -/
theorem exists_query (pairs : List (String × String)) (config : Config) (table : String)
    (registry : Registry)
    (h : (ofPairs pairs config false >>= (toQuery · table registry)).isOk = true) :
    ∃ r q, ofPairs pairs config false = .ok r ∧ r.toQuery table registry = .ok q := by
  cases hq : ofPairs pairs config false >>= (toQuery · table registry) with
  | error e =>
    rw [hq] at h
    exact Bool.noConfusion h
  | ok q =>
    obtain ⟨r, hr, hq⟩ := Outcome.bind_eq_ok_iff.1 hq
    exact ⟨r, q, hr, hq⟩

/-! ## Lost filters -/

/-- What a request filters by is asked for: each value of a lookup is the value, or an item of the
list, that the query asks for under its key; the schema is the last one given, unless that is empty;
and the value of the property is asked for under its name. -/
structure Kept (pairs : List (String × String)) (q : Query) : Prop where
  lookups : ∀ key value, (key, value) ∈ pairs → key ∉ reserved →
    Aggregate.ofParameter? key = none →
      ∃ asked, q.lookup? key = some asked ∧ .text value ∈ asked.parts
  schema : ∀ schema, lastGiven? pairs "schema" = some schema → schema ≠ "" →
    q.lookup? "schema" = some (.text schema)
  property : ∀ name value, property? pairs = some (name, value) →
    ∃ asked, q.lookup? name = some asked ∧ .text value ∈ asked.parts

/-- What `prop` and `value` give agrees with all that the pairs give under the same name
otherwise. -/
structure Agreeing (pairs : List (String × String)) : Prop where
  lookups : ∀ name value, property? pairs = some (name, value) → name ∉ reserved →
    Aggregate.ofParameter? name = none → ∀ other ∈ given pairs name, other = value
  schema : ∀ value, property? pairs = some ("schema", value) → ∀ schema,
    lastGiven? pairs "schema" = some schema → schema ≠ "" → schema = value

theorem isLookup_iff {key : String} :
    isLookup key = true ↔ key ∉ reserved ∧ Aggregate.ofParameter? key = none := by
  simp [isLookup]

/-- **No filter of a request is lost exactly where `prop` and `value` agree with the rest.** -/
theorem filters_kept_iff (hr : ofPairs pairs config authenticated = .ok r)
    (hq : r.toQuery table registry = .ok q) : Kept pairs q ↔ Agreeing pairs := by
  constructor
  · rintro ⟨hlookups, hschema, -⟩
    refine ⟨fun name value hp hres hagg other hother => ?_, fun value hp schema hs hne => ?_⟩
    · obtain ⟨asked, hasked, hmem⟩ := hlookups name other (mem_given.1 hother) hres hagg
      rw [lookup?_property hr hq hp, Option.some.injEq] at hasked
      subst hasked
      exact Json.text.inj (List.mem_singleton.1 hmem)
    · have hasked := hschema schema hs hne
      rw [lookup?_property hr hq hp, Option.some.injEq] at hasked
      exact (Json.text.inj hasked).symm
  · rintro ⟨hlookups, hschema⟩
    refine ⟨fun key value hmem hres hagg => ?_, fun schema hs hne => ?_, fun name value hp => ?_⟩
    · have hgiven := mem_given.2 hmem
      by_cases hp : ∃ v, property? pairs = some (key, v)
      · obtain ⟨v, hv⟩ := hp
        refine ⟨_, lookup?_property hr hq hv, ?_⟩
        rw [hlookups key v hv hres hagg value hgiven]
        exact List.mem_singleton_self _
      · have hlookup := isLookup_iff.2 ⟨hres, hagg⟩
        have hne := List.ne_nil_of_mem hgiven
        refine ⟨_, lookup?_key hr hq (not_exists.1 hp) hlookup hne, ?_⟩
        exact mem_parts_lookupValue.2 hgiven
    · by_cases hp : ∃ v, property? pairs = some ("schema", v)
      · obtain ⟨v, hv⟩ := hp
        rw [lookup?_property hr hq hv, hschema v hv schema hs hne]
      · rw [lookup?_schema hr hq (not_exists.1 hp), schema_eq hr, hs, Option.filter_some]
        simp [hne]
    · exact ⟨_, lookup?_property hr hq hp, List.mem_singleton_self _⟩

/-- Two datasets, a schema and an extra member by `prop` and `value` are all kept. -/
theorem two_datasets_kept : ∃ r q,
    ofPairs [("dataset", "a"), ("schema", "Person"), ("prop", "context.topic"), ("value", "x"),
      ("dataset", "b")] {} false = .ok r ∧
    r.toQuery "ftm" Model.bundled.registry = .ok q ∧
    Kept [("dataset", "a"), ("schema", "Person"), ("prop", "context.topic"), ("value", "x"),
      ("dataset", "b")] q := by
  obtain ⟨r, q, hr, hq⟩ := exists_query [("dataset", "a"), ("schema", "Person"),
    ("prop", "context.topic"), ("value", "x"), ("dataset", "b")] {} "ftm" Model.bundled.registry rfl
  have hp : property? [("dataset", "a"), ("schema", "Person"), ("prop", "context.topic"),
    ("value", "x"), ("dataset", "b")] = some ("context.topic", "x") := rfl
  refine ⟨r, q, hr, hq, (filters_kept_iff hr hq).2 ⟨?_, ?_⟩⟩
  · intro name value h _ _ other hother
    rw [hp] at h
    cases h
    exact absurd hother List.not_mem_nil
  · intro value h
    rw [hp] at h
    exact absurd (Prod.mk.inj (Option.some.inj h)).1 (by decide)

/-- A dataset is lost where `prop` and `value` give another one, and the schema where they give
another schema. -/
theorem dataset_and_schema_lost :
    (∃ r q, ofPairs [("dataset", "a"), ("prop", "dataset"), ("value", "b")] {} false = .ok r ∧
      r.toQuery "ftm" Model.bundled.registry = .ok q ∧
      ¬ Kept [("dataset", "a"), ("prop", "dataset"), ("value", "b")] q) ∧
    ∃ r q, ofPairs [("schema", "Person"), ("prop", "schema"), ("value", "Company")] {} false =
        .ok r ∧
      r.toQuery "ftm" Model.bundled.registry = .ok q ∧
      ¬ Kept [("schema", "Person"), ("prop", "schema"), ("value", "Company")] q := by
  constructor
  · obtain ⟨r, q, hr, hq⟩ := exists_query [("dataset", "a"), ("prop", "dataset"), ("value", "b")]
      {} "ftm" Model.bundled.registry rfl
    refine ⟨r, q, hr, hq, fun hkept => ?_⟩
    have hb : q.lookup? "dataset" = some (.text "b") := lookup?_property hr hq rfl
    obtain ⟨asked, hasked, hmem⟩ := hkept.lookups "dataset" "a" (by decide) (by decide) rfl
    rw [hb, Option.some.injEq] at hasked
    subst hasked
    exact absurd (Json.text.inj (List.mem_singleton.1 hmem)) (by decide)
  · obtain ⟨r, q, hr, hq⟩ := exists_query [("schema", "Person"), ("prop", "schema"),
      ("value", "Company")] {} "ftm" Model.bundled.registry rfl
    refine ⟨r, q, hr, hq, fun hkept => ?_⟩
    have hcompany : q.lookup? "schema" = some (.text "Company") := lookup?_property hr hq rfl
    have hperson := hkept.schema "Person" rfl (by decide)
    rw [hcompany, Option.some.injEq] at hperson
    exact absurd (Json.text.inj hperson) (by decide)

/-! ## Known schemata -/

/-- The schema that a query asks for is known to a registry. -/
def SchemaKnown (registry : Registry) (q : Query) : Prop :=
  ∀ schema, q.lookup? "schema" = some (.text schema) → registry.isKnownSchema schema = true

theorem schemaKnown_toQuery_iff (hr : ofPairs pairs config authenticated = .ok r)
    (hq : r.toQuery table registry = .ok q) : SchemaKnown registry q ↔
      ∀ schema, property? pairs = some ("schema", schema) →
        registry.isKnownSchema schema = true := by
  constructor
  · exact fun h schema hp => h schema (lookup?_property hr hq hp)
  · intro h schema hasked
    by_cases hp : ∃ v, property? pairs = some ("schema", v)
    · obtain ⟨v, hv⟩ := hp
      rw [lookup?_property hr hq hv, Option.some.injEq, Json.text.injEq] at hasked
      exact h schema (hasked ▸ hv)
    · rw [lookup?_schema hr hq (not_exists.1 hp)] at hasked
      obtain ⟨s, hs, heq⟩ := Option.map_eq_some_iff.1 hasked
      exact isKnownSchema_of_toQuery hq (hs.trans (congrArg some (Json.text.inj heq)))

theorem toSearch_eq_ok {s : Search} (h : r.toSearch table registry = .ok s) :
    r.toQuery table registry = .ok s.query := by
  simp only [toSearch, Outcome.refuse_eq_ok_iff] at h
  obtain ⟨q, hq, heq⟩ := Outcome.bind_eq_ok_iff.1 h.2
  cases heq
  exact hq

theorem toAggregation_eq_ok {a : Aggregation} (h : r.toAggregation table registry = .ok a) :
    r.toQuery table registry = .ok a.query := by
  obtain ⟨q, hq, ha⟩ := Outcome.bind_eq_ok_iff.1 h
  obtain ⟨fields, -, rfl⟩ := Outcome.map_eq_ok_iff.1 ha
  exact hq

/-- **The schema asked for is known exactly where `prop` and `value` give none that is unknown.**
This is so of the query of a request, of its search and of its aggregations. -/
theorem schema_known_iff (hr : ofPairs pairs config authenticated = .ok r) :
    (∀ q, r.toQuery table registry = .ok q → (SchemaKnown registry q ↔
      ∀ schema, property? pairs = some ("schema", schema) →
        registry.isKnownSchema schema = true)) ∧
    (∀ s, r.toSearch table registry = .ok s → (SchemaKnown registry s.query ↔
      ∀ schema, property? pairs = some ("schema", schema) →
        registry.isKnownSchema schema = true)) ∧
    ∀ a, r.toAggregation table registry = .ok a → (SchemaKnown registry a.query ↔
      ∀ schema, property? pairs = some ("schema", schema) →
        registry.isKnownSchema schema = true) := by
  refine ⟨fun q hq => ?_, fun s hs => ?_, fun a ha => ?_⟩
  · exact schemaKnown_toQuery_iff hr hq
  · exact schemaKnown_toQuery_iff hr (toSearch_eq_ok hs)
  · exact schemaKnown_toQuery_iff hr (toAggregation_eq_ok ha)

/-- A schema given as such and a dataset by `prop` and `value` make a query for a known schema. -/
theorem person_known : ∃ r q,
    ofPairs [("prop", "dataset"), ("schema", "Person"), ("value", "a")] {} false = .ok r ∧
    r.toQuery "ftm" Model.bundled.registry = .ok q ∧
    q.lookup? "schema" = some (.text "Person") ∧ SchemaKnown Model.bundled.registry q := by
  obtain ⟨r, q, hr, hq⟩ := exists_query [("prop", "dataset"), ("schema", "Person"),
    ("value", "a")] {} "ftm" Model.bundled.registry rfl
  have hdataset : property? [("prop", "dataset"), ("schema", "Person"), ("value", "a")] =
      some ("dataset", "a") := rfl
  have hp : ∀ schema, property? [("prop", "dataset"), ("schema", "Person"), ("value", "a")] ≠
      some ("schema", schema) := by
    intro schema h
    rw [hdataset] at h
    exact absurd (Prod.mk.inj (Option.some.inj h)).1 (by decide)
  have hasked := lookup?_schema hr hq hp
  rw [schema_eq hr] at hasked
  refine ⟨r, q, hr, hq, hasked, ((schema_known_iff hr).1 _ hq).2 ?_⟩
  exact fun schema h => absurd h (hp schema)

/-- A schema that is unknown is refused, and is asked for nevertheless where `prop` and `value` give
it. -/
theorem unknown_schema_asked_for :
    (∃ r, ofPairs [("schema", "Planet")] {} false = .ok r ∧
      r.toQuery "ftm" Model.bundled.registry = .error (.invalidSchema "Planet")) ∧
    ∃ r q, ofPairs [("prop", "schema"), ("value", "Planet")] {} false = .ok r ∧
      r.toQuery "ftm" Model.bundled.registry = .ok q ∧ ¬ SchemaKnown Model.bundled.registry q := by
  constructor
  · exact ⟨_, rfl, rfl⟩
  · obtain ⟨r, q, hr, hq⟩ := exists_query [("prop", "schema"), ("value", "Planet")] {} "ftm"
      Model.bundled.registry rfl
    refine ⟨r, q, hr, hq, fun hknown => ?_⟩
    exact absurd (hknown "Planet" (lookup?_property hr hq rfl)) (by decide)

end Request

end EntityQuery
