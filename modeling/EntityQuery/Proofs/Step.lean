import Mathlib.Tactic
import EntityQuery.Proofs.Dict
import EntityQuery.Proofs.Outcome
import EntityQuery.Search

/-!
# Steps of queries

What a lookup, an order or a window can do to a query when it is not refused.

* `Query.filter_eq_ok_iff`, `Query.orderBy_eq_ok_iff`: lookups and orders;
* `Query.Step`, `Query.Step.run_cases`: the steps, and the three kinds of change that they make.
-/

namespace EntityQuery

/-! ## Collisions -/

namespace Field

variable {a b : Field}

theorem collides_iff :
    a.collides b = true ↔ a.reference = b.reference ∧ a.expression? ≠ b.expression? := by
  simp [collides]

theorem collides_eq_false_iff :
    a.collides b = false ↔ (a.reference = b.reference → a.expression? = b.expression?) := by
  rw [← Bool.not_eq_true, collides_iff]
  tauto

theorem collides_comm (a b : Field) : a.collides b = b.collides a := by
  rw [Bool.eq_iff_iff, collides_iff, collides_iff]
  exact and_congr eq_comm ne_comm

@[simp] theorem collides_self (a : Field) : a.collides a = false :=
  collides_eq_false_iff.2 fun _ => rfl

end Field

/-! ## Lookups and orders -/

/-- What the predicate of a lookup is made of. -/
theorem Predicate.compile_eq_ok_iff {registry : Registry} {key : String} {value : Json}
    {p : Predicate} : Predicate.compile registry key value = .ok p ↔
      Field.resolve registry key = .ok p.field ∧
        ∃ op, Operator.ofKey key = .ok op ∧ Test.of op value = .ok p.test := by
  rw [compile, Outcome.bind_eq_ok_iff]
  constructor
  · rintro ⟨field, hf, h⟩
    obtain ⟨op, ho, h⟩ := Outcome.bind_eq_ok_iff.1 h
    cases ht : Test.of op value with
    | error fault =>
      rw [ht] at h
      cases h
    | ok test =>
      rw [ht] at h
      cases h
      exact ⟨hf, op, ho, ht⟩
  · rintro ⟨hf, op, ho, ht⟩
    refine ⟨_, hf, Outcome.bind_eq_ok_iff.2 ⟨op, ho, ?_⟩⟩
    rw [ht]
    rfl

namespace Query

variable {q q' : Query}

/-- The query without its lookup under a key. -/
def without (q : Query) (key : String) : Query := { q with lookups := q.lookups.erase key }

/-- The query without its order. -/
def unordered (q : Query) : Query := { q with order := none }

theorem mem_lookupFields {f : Field} :
    f ∈ q.lookupFields ↔ ∃ key l, q.lookups.get? key = some l ∧ l.predicate.field = f := by
  simp only [lookupFields, List.mem_map, Dict.mem_values_iff]
  constructor
  · rintro ⟨l, ⟨key, h⟩, rfl⟩
    exact ⟨key, l, h, rfl⟩
  · rintro ⟨key, l, h, rfl⟩
    exact ⟨l, ⟨key, h⟩, rfl⟩

theorem mem_fields {f : Field} : f ∈ q.fields ↔ f ∈ q.lookupFields ∨ f ∈ q.orderFields :=
  List.mem_append

theorem clashes_iff {f : Field} : q.clashes f = true ↔ ∃ g ∈ q.fields, f.collides g = true := by
  simp [clashes]

theorem clashes_eq_false_iff {f : Field} :
    q.clashes f = false ↔ ∀ g ∈ q.fields, f.collides g = false := by
  simp [clashes]

/-- All that a lookup can do: it goes, or its merged value is compiled and clashes with nothing
else. -/
theorem filter_eq_ok_iff {key : String} {value : Json} : q.filter key value = .ok q' ↔
    (value.isNull = true ∧ q' = q.without key) ∨
    (value.isNull = false ∧
      ∃ p, Predicate.compile q.registry key (merge (q.lookup? key) value) = .ok p ∧
        (q.without key).clashes p.field = false ∧
        q' = { q with lookups := q.lookups.insert key ⟨merge (q.lookup? key) value, p⟩ }) := by
  unfold filter without
  cases hn : value.isNull with
  | true =>
    rw [if_pos rfl, Except.ok.injEq, eq_comm]
    simp
  | false =>
    rw [if_neg Bool.false_ne_true, Outcome.bind_eq_ok_iff]
    simp only [Bool.false_eq_true, false_and, false_or, true_and]
    refine exists_congr fun p => and_congr_right fun _ => ?_
    cases hc : clashes { q with lookups := q.lookups.erase key } p.field with
    | true =>
      rw [if_pos rfl]
      refine iff_of_false (fun h => ?_) (fun h => Bool.noConfusion h.1)
      cases h
    | false =>
      rw [if_neg Bool.false_ne_true]
      exact ⟨fun h => ⟨rfl, (Except.ok.inj h).symm⟩, fun h => congrArg Except.ok h.2.symm⟩

/-- The first lookup of a query clashes with nothing. -/
theorem filter_new {table : String} {registry : Registry} {key : String} {value : Json}
    {p : Predicate} (hn : value.isNull = false)
    (hp : Predicate.compile registry key value = .ok p) : (new table registry).filter key value =
      .ok { new table registry with lookups := Dict.empty.insert key ⟨value, p⟩ } := by
  have hmerge : merge ((new table registry).lookup? key) value = value := by
    rw [lookup?, new, Dict.get?_empty]
    rfl
  refine filter_eq_ok_iff.2 (.inr ⟨hn, p, ?_, rfl, ?_⟩)
  · rw [hmerge]
    exact hp
  · rw [hmerge]
    rfl

theorem firstClash?_eq_none_iff {before fields : List Field} :
    q.firstClash? before fields = none ↔
      ∀ f ∈ fields, q.clashes f = false ∧ ∀ g ∈ before ++ fields, f.collides g = false := by
  induction fields generalizing before with
  | nil => simp [firstClash?]
  | cons field rest ih =>
    rw [firstClash?]
    split_ifs with h
    · simp only [Bool.or_eq_true, List.any_eq_true] at h
      refine iff_of_false id fun hall => ?_
      obtain ⟨hq, hb⟩ := hall field List.mem_cons_self
      rcases h with h | ⟨g, hg, h⟩
      · rw [hq] at h
        exact Bool.noConfusion h
      · rw [hb g (List.mem_append_left _ hg)] at h
        exact Bool.noConfusion h
    · simp only [Bool.or_eq_true, List.any_eq_true, not_or, Bool.not_eq_true, not_exists,
        not_and] at h
      rw [ih]
      constructor
      · intro hall f hf
        rcases List.mem_cons.1 hf with rfl | hf
        · refine ⟨h.1, fun g hg => ?_⟩
          rcases List.mem_append.1 hg with hg | hg
          · exact h.2 g hg
          · rcases List.mem_cons.1 hg with rfl | hg
            · exact Field.collides_self g
            · rw [Field.collides_comm]
              exact (hall g hg).2 f (by simp)
        · refine ⟨(hall f hf).1, fun g hg => (hall f hf).2 g ?_⟩
          simpa using hg
      · intro hall f hf
        refine ⟨(hall f (List.mem_cons_of_mem _ hf)).1, fun g hg => ?_⟩
        refine (hall f (List.mem_cons_of_mem _ hf)).2 g ?_
        simpa using hg

/-- All that an order can do: its fields replace the fields there were, and clash with no lookup's
field and with none of their own. -/
theorem orderBy_eq_ok_iff {keys : List String} {direction : Direction} :
    q.orderBy keys direction = .ok q' ↔
      ∃ fields, keys.mapM (orderField q.registry) = .ok fields ∧
        (∀ f ∈ fields, ∀ g ∈ q.lookupFields ++ fields, f.collides g = false) ∧
        q' = { q with order := if fields.isEmpty then none else some ⟨fields, direction⟩ } := by
  have hfields : q.unordered.fields = q.lookupFields := List.append_nil _
  have hnone : ∀ fields, q.unordered.firstClash? [] fields = none ↔
      ∀ f ∈ fields, ∀ g ∈ q.lookupFields ++ fields, f.collides g = false := by
    intro fields
    simp only [firstClash?_eq_none_iff, clashes_eq_false_iff, hfields, List.nil_append,
      List.mem_append, or_imp, forall_and]
  rw [orderBy, Outcome.bind_eq_ok_iff]
  refine exists_congr fun fields => and_congr_right fun _ => ?_
  rw [← hnone]
  have hunordered : { q with order := none } = q.unordered := rfl
  simp only [hunordered]
  cases q.unordered.firstClash? [] fields with
  | some field =>
    refine iff_of_false (fun h => ?_) (fun h => ?_)
    · cases h
    · cases h.1
  | none =>
    cases fields with
    | nil => simp [pure, Except.pure, unordered, eq_comm]
    | cons field rest => simp [pure, Except.pure, eq_comm]

/-! ## Steps -/

/-- A step from one query to the next. -/
inductive Step
  | filterAll (filters : List (String × Json))
  | filter (key : String) (value : Json)
  | orderBy (keys : List String) (direction : Direction)
  | row (index : Int)
  | slice (start stop step : Option Int)
  | page (number size : Int)
  | withLimit (limit : Int)
  | withOffset (offset : Int)
  | unpaged

/-- The query that a step makes. -/
def Step.run : Step → Query → Except QueryError Query
  | .filterAll filters, q => q.filterAll filters
  | .filter key value, q => q.filter key value
  | .orderBy keys direction, q => q.orderBy keys direction
  | .row index, q => q.row index
  | .slice start stop step, q => q.slice start stop step
  | .page number size, q => q.page number size
  | .withLimit limit, q => q.withLimit limit
  | .withOffset offset, q => q.withOffset offset
  | .unpaged, q => .ok q.unpaged

/-- The same query but for its window. -/
def SameButWindow (q q' : Query) : Prop := ∃ limit offset, q' = { q with limit, offset }

theorem sameButWindow_of_row {index : Int} (h : q.row index = .ok q') : q.SameButWindow q' := by
  rw [row] at h
  split_ifs at h
  cases h
  exact ⟨_, _, rfl⟩

theorem sameButWindow_of_range {start : Int} {stop : Option Int} (h : q.range start stop = .ok q') :
    q.SameButWindow q' := by
  unfold range at h
  split_ifs at h
  cases stop with
  | none =>
    cases h
    exact ⟨_, _, rfl⟩
  | some stop =>
    simp only at h
    split_ifs at h
    cases h
    exact ⟨_, _, rfl⟩

theorem sameButWindow_of_slice {start stop step : Option Int}
    (h : q.slice start stop step = .ok q') : q.SameButWindow q' := by
  cases step with
  | none => exact sameButWindow_of_range h
  | some step =>
    simp only [slice] at h
    split_ifs at h
    exact sameButWindow_of_range h

theorem sameButWindow_of_page {page limit : Int} (h : q.page page limit = .ok q') :
    q.SameButWindow q' := by
  rw [Query.page] at h
  split_ifs at h
  exact sameButWindow_of_range h

theorem sameButWindow_of_withLimit {limit : Int} (h : q.withLimit limit = .ok q') :
    q.SameButWindow q' := by
  rw [withLimit] at h
  split_ifs at h
  cases h
  exact ⟨_, _, rfl⟩

theorem sameButWindow_of_withOffset {offset : Int} (h : q.withOffset offset = .ok q') :
    q.SameButWindow q' := by
  rw [withOffset] at h
  split_ifs at h
  cases h
  exact ⟨_, _, rfl⟩

/-- The same query but for its lookups. -/
def SameButLookups (q q' : Query) : Prop := ∃ lookups, q' = { q with lookups }

theorem SameButLookups.refl (q : Query) : q.SameButLookups q := ⟨q.lookups, rfl⟩

theorem SameButLookups.trans {q'' : Query} (h : q.SameButLookups q') (h' : q'.SameButLookups q'') :
    q.SameButLookups q'' := by
  obtain ⟨lookups, rfl⟩ := h
  obtain ⟨lookups', rfl⟩ := h'
  exact ⟨lookups', rfl⟩

theorem sameButLookups_of_filter {key : String} {value : Json} (h : q.filter key value = .ok q') :
    q.SameButLookups q' := by
  rcases filter_eq_ok_iff.1 h with ⟨-, rfl⟩ | ⟨-, p, -, -, rfl⟩
  · exact ⟨_, rfl⟩
  · exact ⟨_, rfl⟩

theorem sameButLookups_of_filterAll {filters : List (String × Json)}
    (h : q.filterAll filters = .ok q') : q.SameButLookups q' :=
  Outcome.foldlM_induct (fun _ _ _ hq hf => hq.trans (sameButLookups_of_filter hf)) (.refl q) h

/-- A step changes lookups, or the order, or nothing but the window; the step to all rows also takes
the order away. -/
theorem Step.run_cases {s : Step} (h : s.run q = .ok q') :
    (∃ filters, q.filterAll filters = .ok q') ∨
      (∃ keys direction, q.orderBy keys direction = .ok q') ∨
      q.SameButWindow q' ∨ q.unordered.SameButWindow q' := by
  cases s with
  | filterAll filters => exact .inl ⟨filters, h⟩
  | filter key value =>
    refine .inl ⟨[(key, value)], ?_⟩
    simp only [Step.run] at h
    rw [Query.filterAll, List.foldlM_cons, h]
    rfl
  | orderBy keys direction => exact .inr (.inl ⟨keys, direction, h⟩)
  | row index => exact .inr (.inr (.inl (sameButWindow_of_row h)))
  | slice start stop step => exact .inr (.inr (.inl (sameButWindow_of_slice h)))
  | page number size => exact .inr (.inr (.inl (sameButWindow_of_page h)))
  | withLimit limit => exact .inr (.inr (.inl (sameButWindow_of_withLimit h)))
  | withOffset offset => exact .inr (.inr (.inl (sameButWindow_of_withOffset h)))
  | unpaged =>
    cases h
    exact .inr (.inr (.inr ⟨none, none, rfl⟩))

end Query

end EntityQuery
