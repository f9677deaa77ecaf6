import Mathlib.Tactic
import EntityQuery.Proofs.AllRows
import EntityQuery.Proofs.RequestFilters

/-!
# The order of filters

Filters under different keys can be given to a query in any order, one by one or several at a time.
Each of them is checked against what the query holds at that moment, lookups that are still to be
replaced among it. But a key has one field, whatever value is asked for under it, so that the check
against a lookup that is replaced later is the check against the one that replaces it.

* `Query.Takes`, `Query.exists_filterAll_iff`: which filters a query takes, said without an order;
* `Query.Sound.eq_of_lookup?`: a query is determined by what it asks for under each key;
* `Query.Gives`, `Query.GivesAll`: the steps that give filters in an order, and in any order;
* **`Query.filters_in_any_order`**: in every order the filters are taken, or in none, and the query
  that they make is the same.
-/

namespace EntityQuery

variable {table : String} {registry : Registry}

namespace Query

variable {q q' : Query}

/-! ## What a query takes -/

/-- The field that a key stands for is among those of filters. -/
def FieldOf (registry : Registry) (filters : List (String × Json)) (a : Field) : Prop :=
  ∃ f ∈ filters, Field.resolve registry f.1 = .ok a

/-- The filters that a query takes: each makes a predicate together with what is asked for under its
key, and their fields collide neither with those in use nor with each other. -/
structure Takes (q : Query) (filters : List (String × Json)) : Prop where
  compiled : ∀ f ∈ filters, ∃ p,
    Predicate.compile q.registry f.1 (merge (q.lookup? f.1) f.2) = .ok p
  apart : ∀ a, FieldOf q.registry filters a → ∀ b, b ∈ q.fields ∨ FieldOf q.registry filters b →
    a.collides b = false

theorem Takes.perm {filters filters' : List (String × Json)} (hp : filters.Perm filters')
    (h : q.Takes filters) : q.Takes filters' := by
  have hfield : ∀ a, FieldOf q.registry filters' a ↔ FieldOf q.registry filters a := by
    intro a
    simp only [FieldOf, hp.mem_iff]
  refine ⟨fun f hf => h.compiled f (hp.mem_iff.2 hf), fun a ha b hb => ?_⟩
  rw [hfield] at ha hb
  exact h.apart a ha b hb

/-- A lookup that is replaced had the field of the one that replaces it. -/
theorem Sound.mem_fields_insert (h : q.Sound table registry) {key : String} {l : Lookup}
    (hl : Field.resolve q.registry key = .ok l.predicate.field) {b : Field} :
    b ∈ fields { q with lookups := q.lookups.insert key l } ↔
      b = l.predicate.field ∨ b ∈ q.fields := by
  rw [Query.mem_fields_insert]
  refine ⟨fun hb => hb.imp_right mem_fields_without, ?_⟩
  rintro (rfl | hb)
  · exact .inl rfl
  rcases mem_fields.1 hb with hb | hb
  · obtain ⟨k, old, hold, rfl⟩ := mem_lookupFields.1 hb
    by_cases hk : k = key
    · have hresolve := (Predicate.compile_eq_ok_iff.1 (h.compiled k old hold)).1
      rw [hk, ← h.registry_eq, hl] at hresolve
      exact .inl (Except.ok.inj hresolve).symm
    · refine .inr (mem_fields.2 (.inl (mem_lookupFields.2 ⟨k, old, ?_, rfl⟩)))
      rw [Query.without, Dict.get?_erase, if_neg hk, hold]
  · exact .inr (mem_fields.2 (.inr hb))

/-- A lookup clashes with nothing else exactly where it clashes with nothing at all: what it
replaces has its own field. -/
theorem Sound.clashes_without (h : q.Sound table registry) {key : String} {value : Json}
    {p : Predicate} (hp : Predicate.compile q.registry key value = .ok p) :
    (q.without key).clashes p.field = false ↔ ∀ b ∈ q.fields, p.field.collides b = false := by
  have hl := (Predicate.compile_eq_ok_iff.1 hp).1
  rw [clashes_eq_false_iff]
  refine ⟨fun hall b hb => ?_, fun hall b hb => hall b (mem_fields_without hb)⟩
  have hmem : b ∈ fields { q with lookups := q.lookups.insert key ⟨value, p⟩ } :=
    (h.mem_fields_insert hl).2 (.inr hb)
  rcases Query.mem_fields_insert.1 hmem with rfl | hb
  · exact Field.collides_self _
  · exact hall b hb

/-- After its first filter a query takes the others exactly where it takes them all. -/
theorem Sound.takes_cons_iff (h : q.Sound table registry) {key : String} {value : Json}
    {p : Predicate} {filters : List (String × Json)}
    (hp : Predicate.compile q.registry key (merge (q.lookup? key) value) = .ok p)
    (hkey : key ∉ filters.map (·.1)) : q.Takes ((key, value) :: filters) ↔
      (∀ b ∈ q.fields, p.field.collides b = false) ∧
        Takes { q with lookups := q.lookups.insert key ⟨merge (q.lookup? key) value, p⟩ }
          filters := by
  have hl := (Predicate.compile_eq_ok_iff.1 hp).1
  have hfields := @Sound.mem_fields_insert _ _ _ h key ⟨merge (q.lookup? key) value, p⟩ hl
  have hfield : ∀ a, FieldOf q.registry ((key, value) :: filters) a ↔
      a = p.field ∨ FieldOf q.registry filters a := by
    intro a
    simp only [FieldOf, List.exists_mem_cons_iff, hl, Except.ok.injEq, eq_comm]
  -- together with those in use the fields are the same, before the first filter and after it
  have hall : ∀ b, b ∈ fields
      { q with lookups := q.lookups.insert key ⟨merge (q.lookup? key) value, p⟩ } ∨
        FieldOf q.registry filters b ↔
      b ∈ q.fields ∨ FieldOf q.registry ((key, value) :: filters) b := by
    intro b
    rw [hfields, hfield, or_assoc, or_left_comm]
  have hasked : ∀ f ∈ filters, lookup?
      { q with lookups := q.lookups.insert key ⟨merge (q.lookup? key) value, p⟩ } f.1 =
        q.lookup? f.1 := by
    intro f hf
    have hne : f.1 ≠ key := fun heq => hkey (heq ▸ List.mem_map_of_mem hf)
    rw [lookup?, Dict.get?_insert, if_neg hne, lookup?]
  constructor
  · intro ht
    refine ⟨fun b hb => ht.apart _ ((hfield _).2 (.inl rfl)) b (.inl hb), fun f hf => ?_, ?_⟩
    · rw [hasked f hf]
      exact ht.compiled f (List.mem_cons_of_mem _ hf)
    · intro a ha b hb
      exact ht.apart a ((hfield a).2 (.inr ha)) b ((hall b).1 hb)
  · rintro ⟨hfirst, ht⟩
    refine ⟨fun f hf => ?_, fun a ha b hb => ?_⟩
    · rcases List.mem_cons.1 hf with rfl | hf
      · exact ⟨p, hp⟩
      · have hcompiled := ht.compiled f hf
        rwa [hasked f hf] at hcompiled
    · rcases (hfield a).1 ha with rfl | ha
      · rcases hb with hb | hb
        · exact hfirst b hb
        · rcases (hfield b).1 hb with rfl | hb
          · exact Field.collides_self _
          · -- the later field was checked against the first one
            rw [Field.collides_comm]
            exact ht.apart b hb p.field (.inl (hfields.2 (.inl rfl)))
      · exact ht.apart a ha b ((hall b).2 hb)

/-- Filters under different keys, none of which takes a lookup away, succeed exactly where the query
takes them all. -/
theorem exists_filterAll_iff (h : q.Sound table registry) {filters : List (String × Json)}
    (hkeys : (filters.map (·.1)).Nodup) (hnull : ∀ f ∈ filters, f.2.isNull = false) :
    (∃ q', q.filterAll filters = .ok q') ↔ q.Takes filters := by
  induction filters generalizing q with
  | nil =>
    refine iff_of_true ⟨q, rfl⟩ ⟨by simp, ?_⟩
    rintro a ⟨f, hf, -⟩
    exact absurd hf List.not_mem_nil
  | cons f filters ih =>
    obtain ⟨key, value⟩ := f
    rw [List.map_cons, List.nodup_cons] at hkeys
    have hn : value.isNull = false := hnull (key, value) List.mem_cons_self
    have hrest : ∀ f ∈ filters, f.2.isNull = false := fun f hf =>
      hnull f (List.mem_cons_of_mem _ hf)
    rw [filterAll, List.foldlM_cons]
    simp only [Outcome.bind_eq_ok_iff]
    cases hp : Predicate.compile q.registry key (merge (q.lookup? key) value) with
    | error e =>
      refine iff_of_false ?_ fun ht => ?_
      · rintro ⟨q', q₁, hq₁, -⟩
        rcases filter_eq_ok_iff.1 hq₁ with ⟨hn', -⟩ | ⟨-, p, hp', -⟩
        · rw [hn] at hn'
          cases hn'
        · rw [hp] at hp'
          cases hp'
      · obtain ⟨p, hp'⟩ := ht.compiled (key, value) List.mem_cons_self
        rw [hp] at hp'
        cases hp'
    | ok p =>
      rw [h.takes_cons_iff hp hkeys.1, ← h.clashes_without hp]
      constructor
      · rintro ⟨q', q₁, hq₁, hq'⟩
        have hsound := h.filter hq₁
        rcases filter_eq_ok_iff.1 hq₁ with ⟨hn', -⟩ | ⟨-, p', hp', hc, rfl⟩
        · rw [hn] at hn'
          cases hn'
        · obtain rfl : p = p' := Except.ok.inj (hp.symm.trans hp')
          exact ⟨hc, (ih hsound hkeys.2 hrest).1 ⟨q', hq'⟩⟩
      · rintro ⟨hc, ht⟩
        have hq₁ := filter_eq_ok_iff.2 (.inr ⟨hn, p, hp, hc, rfl⟩)
        obtain ⟨q', hq'⟩ := (ih (h.filter hq₁) hkeys.2 hrest).2 ht
        exact ⟨q', _, hq₁, hq'⟩

/-! ## What a query asks for -/

theorem Sound.filterAll (h : q.Sound table registry) {filters : List (String × Json)}
    (he : q.filterAll filters = .ok q') : q'.Sound table registry :=
  Outcome.foldlM_induct (fun _ _ _ hq hf => hq.filter hf) h he

/-- Two queries with the same order and window that ask for the same under each key are one. -/
theorem Sound.eq_of_lookup? (h : q.Sound table registry) (h' : q'.Sound table registry)
    (horder : q.order = q'.order) (hlimit : q.limit = q'.limit) (hoffset : q.offset = q'.offset)
    (hasked : ∀ key, q.lookup? key = q'.lookup? key) : q = q' := by
  have hlookups : q.lookups = q'.lookups := by
    refine Dict.ext fun key => ?_
    have hkey := hasked key
    rw [lookup?, lookup?] at hkey
    cases hl : q.lookups.get? key with
    | none =>
      rw [hl, Option.map_none, eq_comm, Option.map_eq_none_iff] at hkey
      exact hkey.symm
    | some l =>
      rw [hl, Option.map_some, eq_comm, Option.map_eq_some_iff] at hkey
      obtain ⟨l', hl', hvalue⟩ := hkey
      -- the predicate is made of the key and the value
      have hp := h.compiled key l hl
      rw [← hvalue, h'.compiled key l' hl', Except.ok.injEq] at hp
      obtain ⟨value, predicate⟩ := l
      obtain ⟨value', predicate'⟩ := l'
      simp only at hp hvalue
      rw [hl', hp, hvalue]
  calc q
      = ⟨q.table, q.registry, q.lookups, q.order, q.limit, q.offset⟩ := rfl
    _ = q' := by rw [h.table_eq, h.registry_eq, hlookups, horder, hlimit, hoffset, ← h'.table_eq,
      ← h'.registry_eq]

/-- Filters under different keys make one query in all orders in which they succeed. -/
theorem Sound.filterAll_eq_of_perm (h : q.Sound table registry)
    {filters filters' : List (String × Json)} (hp : filters.Perm filters')
    (hkeys : (filters.map (·.1)).Nodup) {q₁ q₂ : Query} (h₁ : q.filterAll filters = .ok q₁)
    (h₂ : q.filterAll filters' = .ok q₂) : q₁ = q₂ := by
  have hasked : ∀ key, q₁.lookup? key = q₂.lookup? key := by
    intro key
    rw [lookup?_filterAll hkeys h₁, lookup?_filterAll ((hp.map _).nodup_iff.1 hkeys) h₂,
      Entries.find?_perm hp hkeys]
  have hs₁ := h.filterAll h₁
  have hs₂ := h.filterAll h₂
  obtain ⟨lookups₁, rfl⟩ := sameButLookups_of_filterAll h₁
  obtain ⟨lookups₂, rfl⟩ := sameButLookups_of_filterAll h₂
  exact hs₁.eq_of_lookup? hs₂ rfl rfl rfl hasked

/-! ## Ways to give filters -/

/-- The steps give filters in this order and do nothing else: one at a time, or several. -/
inductive Gives : List (String × Json) → List Step → Prop
  | nil : Gives [] []
  | filter {key : String} {value : Json} {rest : List (String × Json)} {steps : List Step} :
      Gives rest steps → Gives ((key, value) :: rest) (.filter key value :: steps)
  | filterAll {filters rest : List (String × Json)} {steps : List Step} :
      Gives rest steps → Gives (filters ++ rest) (.filterAll filters :: steps)

/-- The steps give all of the filters, each of them once, in any order. -/
def GivesAll (filters : List (String × Json)) (steps : List Step) : Prop :=
  ∃ ordered, filters.Perm ordered ∧ Gives ordered steps

theorem Gives.runAll_eq {filters : List (String × Json)} {steps : List Step}
    (h : Gives filters steps) (q : Query) : q.runAll steps = q.filterAll filters := by
  induction h generalizing q with
  | nil => rfl
  | @filter key value rest steps _ ih =>
    have hnext : ∀ q' : Query, steps.foldlM (fun q s => s.run q) q' = q'.filterAll rest := ih
    rw [runAll, List.foldlM_cons, Query.filterAll, List.foldlM_cons]
    refine congrArg (q.filter key value >>= ·) (funext fun q' => hnext q')
  | @filterAll filters rest steps _ ih =>
    have hnext : ∀ q' : Query, steps.foldlM (fun q s => s.run q) q' = q'.filterAll rest := ih
    rw [runAll, List.foldlM_cons, Query.filterAll, List.foldlM_append]
    refine congrArg (q.filterAll filters >>= ·) (funext fun q' => hnext q')

/-- **Filters are given in any order.** Under different keys, and in whichever way they are given,
filters that take no lookup away are all taken or not; and all ways that succeed make one query,
removals among the filters or not, so that its lookups, its texts and the values that it binds are
the same. -/
theorem filters_in_any_order (h : Reachable table registry q) {filters : List (String × Json)}
    (hkeys : (filters.map (·.1)).Nodup) {steps steps' : List Step} (hs : GivesAll filters steps)
    (hs' : GivesAll filters steps') :
    ((∀ f ∈ filters, f.2.isNull = false) →
      ((∃ q', q.runAll steps = .ok q') ↔ ∃ q', q.runAll steps' = .ok q')) ∧
    ∀ q₁ q₂, q.runAll steps = .ok q₁ → q.runAll steps' = .ok q₂ → q₁ = q₂ := by
  obtain ⟨ordered, hp, hgives⟩ := hs
  obtain ⟨ordered', hp', hgives'⟩ := hs'
  have hordered := (hp.map (·.1)).nodup_iff.1 hkeys
  have hordered' := (hp'.map (·.1)).nodup_iff.1 hkeys
  have hboth : ordered.Perm ordered' := hp.symm.trans hp'
  rw [hgives.runAll_eq, hgives'.runAll_eq]
  constructor
  · intro hnull
    rw [exists_filterAll_iff h.sound hordered fun f hf => hnull f (hp.mem_iff.2 hf),
      exists_filterAll_iff h.sound hordered' fun f hf => hnull f (hp'.mem_iff.2 hf)]
    exact ⟨fun ht => ht.perm hboth, fun ht => ht.perm hboth.symm⟩
  · intro q₁ q₂ h₁ h₂
    exact h.sound.filterAll_eq_of_perm hboth hordered h₁ h₂

/-- A list for `dataset` and a value for `context.foo`, asked for at once or one by one the other
way round. -/
theorem reversed_filters_alike : ∃ q q', Query.Reachable "ftm" Model.bundled.registry q ∧
    q.runAll [.filterAll [("dataset", .array [.text "b"]), ("context.foo", .text "x")]] = .ok q' ∧
      q.runAll [.filter "context.foo" (.text "x"), .filter "dataset" (.array [.text "b"])] =
        .ok q' := by
  have hq : (Query.Step.filter "dataset" (.array [.text "a"])).run
      (.new "ftm" Model.bundled.registry) = .ok _ := rfl
  have hreach := Reachable.step _ .new hq
  have hswap : ([("dataset", .array [.text "b"]), ("context.foo", .text "x")] :
      List (String × Json)).Perm [("context.foo", .text "x"), ("dataset", .array [.text "b"])] :=
    .swap _ _ _
  have hatOnce : GivesAll [("dataset", .array [.text "b"]), ("context.foo", .text "x")]
      [.filterAll [("dataset", .array [.text "b"]), ("context.foo", .text "x")]] :=
    ⟨_ ++ [], .refl _, .filterAll .nil⟩
  have hreversed : GivesAll [("dataset", .array [.text "b"]), ("context.foo", .text "x")]
      [.filter "context.foo" (.text "x"), .filter "dataset" (.array [.text "b"])] :=
    ⟨_, hswap, .filter (.filter .nil)⟩
  have hsame := filters_in_any_order hreach (by decide) hatOnce hreversed
  obtain ⟨q', hq'⟩ := (hsame.1 (by simp [Json.isNull])).1 ⟨_, rfl⟩
  refine ⟨_, q', hreach, ?_, hq'⟩
  rw [← hsame.2 _ q' rfl hq']
  rfl

/-- Where a filter takes a lookup away, one order can succeed and another be refused: here
`context.foo_bar` has to go before `context.foo.bar` is asked for. -/
example : ∃ q, (new "ftm" Model.bundled.registry).filter "context.foo_bar" (.text "x") = .ok q ∧
    (q.filterAll [("context.foo_bar", .null), ("context.foo.bar", .text "y")]).isOk = true ∧
      (q.filterAll [("context.foo.bar", .text "y"), ("context.foo_bar", .null)]).isOk = false :=
  ⟨_, rfl, by decide +kernel, by decide +kernel⟩

end Query

end EntityQuery
