import Mathlib.Tactic
import EntityQuery.Proofs.Meaning

/-!
# Entities that are matched

A query matches an entity if one of the entity's rows passes. A lookup that does not ask for any
property says the same of all rows of an entity, so that it can be asked for alone. The lookups of
any property all speak of the one property list that is joined: one list must answer them all.

* `Query.single`, `Query.Alone`: the query for a single lookup of a query;
* `Query.matches_iff_holds`: what a query asks of an entity, lookup by lookup;
* **`Query.matches_iff_alone`**: an entity is matched exactly where the lookups taken alone match
  it, those of any property with one row.
-/

namespace EntityQuery

variable {table : String} {registry : Registry} {rd : Select.Reading} {t : Select.Tuple}

/-! ## Single lookups -/

/-- Nothing is compiled of `null`. -/
theorem Predicate.isNull_of_compile {key : String} {value : Json} {p : Predicate}
    (h : Predicate.compile registry key value = .ok p) : value.isNull = false := by
  obtain ⟨-, op, -, ht⟩ := compile_eq_ok_iff.1 h
  cases value with
  | null => cases op <;> cases ht
  | bool | int | double | text | array | object => rfl

namespace Query

variable {q : Query}

/-- The query for a single lookup. -/
def single (table : String) (registry : Registry) (key : String) (l : Lookup) : Query :=
  { new table registry with lookups := Dict.empty.insert key l }

theorem get?_single {key k : String} {l l' : Lookup} :
    (single table registry key l).lookups.get? k = some l' ↔ k = key ∧ l = l' := by
  rw [single, Dict.get?_insert, Dict.get?_empty]
  split_ifs with h <;> simp [h]

theorem exists_lookup {key : String} (h : (q.lookup? key).isSome) :
    ∃ l, q.lookups.get? key = some l := by
  rwa [lookup?, Option.isSome_map, Option.isSome_iff_exists] at h

theorem Sound.filter_single (h : q.Sound table registry) {key : String} {l : Lookup}
    (hl : q.lookups.get? key = some l) :
    (new table registry).filter key l.value = .ok (single table registry key l) := by
  have hp := h.compiled key l hl
  exact filter_new (Predicate.isNull_of_compile hp) hp

theorem Sound.resolve_eq_reverse_iff (h : q.Sound table registry) {key : String} {l : Lookup}
    (hl : q.lookups.get? key = some l) :
    Field.resolve registry key = .ok .reverse ↔ l.predicate.field = .reverse := by
  rw [(Predicate.compile_eq_ok_iff.1 (h.compiled key l hl)).1, Except.ok.injEq]

theorem Sound.reachable_single (h : q.Sound table registry) {key : String} {l : Lookup}
    (hl : q.lookups.get? key = some l) : (single table registry key l).Reachable table registry :=
  .step (.filter key l.value) .new (h.filter_single hl)

theorem hasReverse_single {key : String} {l : Lookup} :
    (single table registry key l).hasReverse = true ↔ l.predicate.field = .reverse := by
  rw [hasReverse_iff, mem_lookupFields]
  simp [get?_single]

/-- The keys that ask for any property. -/
def reverseKeys (q : Query) : Set String :=
  {key | (q.lookup? key).isSome ∧ Field.resolve q.registry key = .ok .reverse}

/-- The query for what is asked under a key, and for nothing else, has a property. -/
def Alone (q : Query) (key : String) (P : Query → Prop) : Prop :=
  ∃ value alone, q.lookup? key = some value ∧
    (new q.table q.registry).filter key value = .ok alone ∧ P alone

theorem Sound.alone_iff (h : q.Sound table registry) {key : String} {l : Lookup}
    (hl : q.lookups.get? key = some l) {P : Query → Prop} :
    q.Alone key P ↔ P (single table registry key l) := by
  have hvalue : q.lookup? key = some l.value := by
    rw [lookup?, hl]
    rfl
  constructor
  · rintro ⟨value, alone, hv, hf, hP⟩
    rw [hvalue, Option.some.injEq] at hv
    rw [h.table_eq, h.registry_eq, ← hv, h.filter_single hl, Except.ok.injEq] at hf
    exact hf ▸ hP
  · intro hP
    refine ⟨l.value, _, hvalue, ?_, hP⟩
    rw [h.table_eq, h.registry_eq]
    exact h.filter_single hl

theorem Sound.mem_reverseKeys (h : q.Sound table registry) {key : String} :
    key ∈ q.reverseKeys ↔ ∃ l, q.lookups.get? key = some l ∧ l.predicate.field = .reverse := by
  have hkey : key ∈ q.reverseKeys ↔
      (q.lookup? key).isSome ∧ Field.resolve q.registry key = .ok .reverse := Iff.rfl
  rw [hkey, lookup?, Option.isSome_map, h.registry_eq]
  cases hl : q.lookups.get? key with
  | none => simp
  | some l => simp [h.resolve_eq_reverse_iff hl]

theorem Sound.nonempty_reverseKeys (h : q.Sound table registry) :
    q.reverseKeys.Nonempty ↔ q.hasReverse = true := by
  rw [hasReverse_iff, mem_lookupFields]
  exact exists_congr fun key => h.mem_reverseKeys

/-! ## Matched entities -/

/-- A query asks of an entity that all lookups but those of any property hold of it, and that these
hold of one of its property lists. -/
theorem matches_iff_holds (h : q.Reachable table registry) : q.select.Matches rd t ↔
    (∀ key l, q.lookups.get? key = some l → l.predicate.field ≠ .reverse → l.Holds rd t key) ∧
    (q.hasReverse = true → ∃ row ∈ t.joined rd, ∀ key l, q.lookups.get? key = some l →
      l.predicate.field = .reverse → l.Holds rd row key) := by
  have hrows : q.select.tuples rd t = if q.hasReverse then t.joined rd else [t] :=
    Search.tuples_select ⟨q, none⟩ rd t
  simp only [Select.Matches, hrows, passes_iff h]
  cases hr : q.hasReverse with
  | false =>
    -- no lookup asks for any property, and the entity has one row
    have hne : ∀ key l, q.lookups.get? key = some l → l.predicate.field ≠ .reverse := by
      intro key l hl hf
      have := hasReverse_iff.2 (mem_lookupFields.2 ⟨key, l, hl, hf⟩)
      rw [hr] at this
      exact Bool.noConfusion this
    simp only [Bool.false_eq_true, if_false, List.mem_singleton, exists_eq_left, false_imp_iff,
      and_true]
    exact forall₃_congr fun key l hl => ⟨fun hh _ => hh, fun hh => hh (hne key l hl)⟩
  | true =>
    simp only [if_true, true_imp_iff]
    constructor
    · rintro ⟨row, hrow, hall⟩
      exact ⟨fun key l hl hf => (Lookup.holds_joined_iff hf hrow).1 (hall key l hl),
        row, hrow, fun key l hl _ => hall key l hl⟩
    · rintro ⟨hother, row, hrow, hreverse⟩
      refine ⟨row, hrow, fun key l hl => ?_⟩
      by_cases hf : l.predicate.field = .reverse
      · exact hreverse key l hl hf
      · exact (Lookup.holds_joined_iff hf hrow).2 (hother key l hl hf)

theorem Sound.single_passes_iff (h : q.Sound table registry) {key : String} {l : Lookup}
    (hl : q.lookups.get? key = some l) :
    (single table registry key l).select.Passes rd t ↔ l.Holds rd t key := by
  simp [passes_iff (h.reachable_single hl), get?_single]

theorem Sound.single_matches_iff (h : q.Sound table registry) {key : String} {l : Lookup}
    (hl : q.lookups.get? key = some l) (hf : l.predicate.field ≠ .reverse) :
    (single table registry key l).select.Matches rd t ↔ l.Holds rd t key := by
  rw [matches_iff_holds (h.reachable_single hl), hasReverse_single]
  simp [get?_single, hf]

theorem mem_tuples_single {key : String} {l : Lookup} (hf : l.predicate.field = .reverse)
    {row : Select.Tuple} :
    row ∈ (single table registry key l).select.tuples rd t ↔ row ∈ t.joined rd := by
  have hrows : (single table registry key l).select.tuples rd t = _ :=
    Search.tuples_select ⟨single table registry key l, none⟩ rd t
  rw [hrows, if_pos (hasReverse_single.2 hf)]

/-- An entity is matched where each lookup that does not ask for any property matches it alone, and
one row of the entity passes for all the others. -/
theorem matches_iff_shared (h : q.Reachable table registry) : q.select.Matches rd t ↔
    (∀ key, (q.lookup? key).isSome → key ∉ q.reverseKeys →
      q.Alone key fun alone => alone.select.Matches rd t) ∧
    (q.reverseKeys.Nonempty → ∃ row, ∀ key ∈ q.reverseKeys, q.Alone key fun alone =>
      row ∈ alone.select.tuples rd t ∧ alone.select.Passes rd row) := by
  have hs := h.sound
  rw [matches_iff_holds h, ← hs.nonempty_reverseKeys]
  refine and_congr ⟨fun hall key hkey hnot => ?_, fun hall key l hl hf => ?_⟩
    ⟨fun hone hsome => ?_, fun hone hsome => ?_⟩
  · obtain ⟨l, hl⟩ := exists_lookup hkey
    have hf : l.predicate.field ≠ .reverse := fun hf => hnot (hs.mem_reverseKeys.2 ⟨l, hl, hf⟩)
    exact (hs.alone_iff hl).2 ((hs.single_matches_iff hl hf).2 (hall key l hl hf))
  · have hkey : (q.lookup? key).isSome := by rw [lookup?, hl]; rfl
    have hnot : key ∉ q.reverseKeys := by
      intro hmem
      obtain ⟨l', hl', hf'⟩ := hs.mem_reverseKeys.1 hmem
      rw [hl, Option.some.injEq] at hl'
      exact hf (hl' ▸ hf')
    exact (hs.single_matches_iff hl hf).1 ((hs.alone_iff hl).1 (hall key hkey hnot))
  · obtain ⟨row, hrow, hholds⟩ := hone hsome
    refine ⟨row, fun key hkey => ?_⟩
    obtain ⟨l, hl, hf⟩ := hs.mem_reverseKeys.1 hkey
    exact (hs.alone_iff hl).2
      ⟨(mem_tuples_single hf).2 hrow, (hs.single_passes_iff hl).2 (hholds key l hl hf)⟩
  · obtain ⟨row, hall⟩ := hone hsome
    have hpass : ∀ key l, q.lookups.get? key = some l → l.predicate.field = .reverse →
        row ∈ t.joined rd ∧ l.Holds rd row key := by
      intro key l hl hf
      obtain ⟨hrow, hp⟩ := (hs.alone_iff hl).1 (hall key (hs.mem_reverseKeys.2 ⟨l, hl, hf⟩))
      exact ⟨(mem_tuples_single hf).1 hrow, (hs.single_passes_iff hl).1 hp⟩
    obtain ⟨key, hkey⟩ := hsome
    obtain ⟨l, hl, hf⟩ := hs.mem_reverseKeys.1 hkey
    exact ⟨row, (hpass key l hl hf).1, fun key l hl hf => (hpass key l hl hf).2⟩

/-- **An entity is matched where the lookups taken alone match it**, those of any property with one
row; so with one such lookup at most, exactly where each lookup alone matches it. -/
theorem matches_iff_alone (h : q.Reachable table registry) (rd : Select.Reading)
    (t : Select.Tuple) :
    q.statement = q.select.statement Select.hole ∧
    (q.select.Matches rd t ↔
      (∀ key, (q.lookup? key).isSome → key ∉ q.reverseKeys →
        q.Alone key fun alone => alone.select.Matches rd t) ∧
      (q.reverseKeys.Nonempty → ∃ row, ∀ key ∈ q.reverseKeys, q.Alone key fun alone =>
        row ∈ alone.select.tuples rd t ∧ alone.select.Passes rd row)) ∧
    (q.reverseKeys.Subsingleton →
      (q.select.Matches rd t ↔
        ∀ key, (q.lookup? key).isSome → q.Alone key fun alone => alone.select.Matches rd t)) := by
  refine ⟨Search.statement_eq (Search.reachable_of_query h), matches_iff_shared h, fun hone => ?_⟩
  rw [matches_iff_shared h]
  constructor
  · rintro ⟨hother, hshared⟩ key hkey
    by_cases hmem : key ∈ q.reverseKeys
    · obtain ⟨row, hrow⟩ := hshared ⟨key, hmem⟩
      obtain ⟨value, alone, hv, ha, hpass⟩ := hrow key hmem
      exact ⟨value, alone, hv, ha, row, hpass⟩
    · exact hother key hkey hmem
  · intro hall
    refine ⟨fun key hkey _ => hall key hkey, ?_⟩
    rintro ⟨key, hmem⟩
    obtain ⟨value, alone, hv, ha, row, hpass⟩ := hall key hmem.1
    refine ⟨row, fun key' hmem' => ?_⟩
    rw [hone hmem' hmem]
    exact ⟨value, alone, hv, ha, hpass⟩

end Query

/-! ## An entity with two properties -/

/-- The value of a member of an object; `null` where there is none. -/
def Json.member (document : Json) (name : String) : Json :=
  (((document.members?.getD []).find? fun e => e.1 = name).map (·.2)).getD .null

/-- Texts are compared for being the same; their patterns and their order are left out. -/
def Select.Comparison.ofTexts (operands : List Json) (value : Json) : Select.Comparison → Bool
  | .relation .equal => value.occurs operands
  | .relation .different => !value.isNull && !value.occurs operands
  | .among negated => !value.isNull && (value.occurs operands != negated)
  | .absent expected => value.isNull == expected
  | .relation _ => false

/-- The reading of documents that hold texts: paths lead from member to member. -/
def Select.Reading.ofTexts : Select.Reading where
  extract path document :=
    (path.toList.splitOn '.').foldl (fun d segment => d.member (String.ofList segment)) document
  number value := value
  passes c operands value := c.ofTexts operands value = true
  finds _ _ := False

namespace Query

/-- An entity that names `a` as its owner and `b` as its asset, and is in the scope `x`. -/
def ownerAndAsset : Select.Tuple where
  entity name := if name = "entity" then
      .object [("properties", .object [("owner", .ofTexts ["a"]), ("asset", .ofTexts ["b"])]),
        ("scope", .text "x")]
    else .null
  index _ := .null
  property := .null

theorem joined_ownerAndAsset : ownerAndAsset.joined .ofTexts =
    [{ ownerAndAsset with property := .ofTexts ["a"] },
      { ownerAndAsset with property := .ofTexts ["b"] }] := rfl

/-- The query for two lookups under the bundled model. -/
def pair (a b : String × Lookup) : Query :=
  { new "ftm" Model.bundled.registry with lookups := (Dict.empty.insert a.1 a.2).insert b.1 b.2 }

theorem get?_pair {a b : String × Lookup} {key : String} {l : Lookup}
    (h : (pair a b).lookups.get? key = some l) : (key, l) = a ∨ (key, l) = b := by
  simp only [pair, Dict.get?_insert, Dict.get?_empty] at h
  split_ifs at h with hb ha
  · exact .inr (by simp [hb, ← Option.some.inj h])
  · exact .inl (by simp [ha, ← Option.some.inj h])

/-- The scope is `x`. -/
def scopeLookup : String × Lookup :=
  ("context.scope", ⟨.text "x", ⟨.scalar "context.scope" "scope", .single .equal (.text "x")⟩⟩)

/-- A property has the value `a`. -/
def ownerLookup : String × Lookup :=
  ("reverse", ⟨.text "a", ⟨.reverse, .single .equal (.text "a")⟩⟩)

/-- A property has the value `b`, as the only one of a list. -/
def assetLookup : String × Lookup :=
  ("reverse__in", ⟨.ofTexts ["b"], ⟨.reverse, .among false (.text "b") []⟩⟩)

/-- A lookup of any property and one of the scope match the entity, as each of them does alone. -/
theorem owner_in_scope_matched :
    (pair scopeLookup ownerLookup).Reachable "ftm" Model.bundled.registry ∧
      (pair scopeLookup ownerLookup).reverseKeys.Subsingleton ∧
      (pair scopeLookup ownerLookup).select.Matches .ofTexts ownerAndAsset := by
  have h : (pair scopeLookup ownerLookup).Reachable "ftm" Model.bundled.registry :=
    .step (.filterAll [("context.scope", .text "x"), ("reverse", .text "a")]) .new rfl
  have hs := h.sound
  have hkey : ∀ key ∈ (pair scopeLookup ownerLookup).reverseKeys, key = "reverse" := by
    intro key hmem
    obtain ⟨l, hl, hf⟩ := hs.mem_reverseKeys.1 hmem
    rcases get?_pair hl with heq | heq
    · cases heq
      cases hf
    · exact congrArg Prod.fst heq
  have hone : (pair scopeLookup ownerLookup).reverseKeys.Subsingleton :=
    fun a ha b hb => (hkey a ha).trans (hkey b hb).symm
  refine ⟨h, hone, ((matches_iff_alone h _ _).2.2 hone).2 fun key hkey => ?_⟩
  obtain ⟨l, hl⟩ := exists_lookup hkey
  rw [hs.alone_iff hl]
  rcases get?_pair hl with heq | heq <;> cases heq
  · exact (hs.single_matches_iff hl nofun).2 rfl
  · refine ⟨{ ownerAndAsset with property := .ofTexts ["a"] }, ?_, ?_⟩
    · exact (mem_tuples_single rfl).2 List.mem_cons_self
    · exact (hs.single_passes_iff hl).2 ⟨.text "a", List.mem_cons_self, rfl⟩

/-- Two lookups of any property match an entity alone that they do not match together: `a` and `b`
are values of two properties. -/
theorem owner_and_asset_not_matched :
    (pair ownerLookup assetLookup).Reachable "ftm" Model.bundled.registry ∧
      (pair ownerLookup assetLookup).limit = none ∧ (pair ownerLookup assetLookup).offset = none ∧
      (∀ key, ((pair ownerLookup assetLookup).lookup? key).isSome →
        (pair ownerLookup assetLookup).Alone key fun alone =>
          alone.select.Matches .ofTexts ownerAndAsset) ∧
      ¬ (pair ownerLookup assetLookup).select.Matches .ofTexts ownerAndAsset := by
  have h : (pair ownerLookup assetLookup).Reachable "ftm" Model.bundled.registry :=
    .step (.filterAll [("reverse", .text "a"), ("reverse__in", .ofTexts ["b"])]) .new rfl
  have hs := h.sound
  refine ⟨h, rfl, rfl, fun key hkey => ?_, fun hm => ?_⟩
  · obtain ⟨l, hl⟩ := exists_lookup hkey
    rw [hs.alone_iff hl]
    rcases get?_pair hl with heq | heq <;> cases heq
    · refine ⟨{ ownerAndAsset with property := .ofTexts ["a"] }, ?_, ?_⟩
      · exact (mem_tuples_single rfl).2 List.mem_cons_self
      · exact (hs.single_passes_iff hl).2 ⟨.text "a", List.mem_cons_self, rfl⟩
    · refine ⟨{ ownerAndAsset with property := .ofTexts ["b"] }, ?_, ?_⟩
      · exact (mem_tuples_single rfl).2 (List.mem_cons_of_mem _ List.mem_cons_self)
      · exact (hs.single_passes_iff hl).2 ⟨.text "b", List.mem_cons_self, rfl⟩
  · -- the first list has no `b`, and the second no `a`
    obtain ⟨row, hrow, hall⟩ := ((matches_iff_holds h).1 hm).2 rfl
    obtain ⟨item, hitem, ha⟩ := hall "reverse" ownerLookup.2 rfl rfl
    obtain ⟨item', hitem', hb⟩ := hall "reverse__in" assetLookup.2 rfl rfl
    rw [joined_ownerAndAsset] at hrow
    rcases List.mem_cons.1 hrow with rfl | hrow
    · cases List.mem_singleton.1 hitem'
      cases hb
    · cases List.mem_singleton.1 hrow
      cases List.mem_singleton.1 hitem
      cases ha

end Query

end EntityQuery
