import Mathlib.Tactic
import EntityQuery.Proofs.Step

/-!
# Reachable queries

A query is reachable if it comes from the query for every row of a table by steps that were not
refused, and a search if it is made of a reachable query and goes on by the same steps.

* `Query.Reachable.induct`: what lookups, orders and windows keep holds of every reachable query;
* **`Query.Reachable.sound`**: in a reachable query each predicate is the one of its key and value,
  each order field can be ordered by, and no two fields in use collide;
* `Search.Reachable.query`: the query of a reachable search is reachable.
-/

namespace EntityQuery

variable {table : String} {registry : Registry}

namespace Query

variable {q q' : Query}

/-- The queries that steps lead to from every row of a table. -/
inductive Reachable (table : String) (registry : Registry) : Query → Prop
  | new : Reachable table registry (.new table registry)
  | step {q q' : Query} (s : Step) :
      Reachable table registry q → s.run q = .ok q' → Reachable table registry q'

/-- What lookups, orders and windows keep holds of every reachable query. -/
theorem Reachable.induct {P : Query → Prop} (hnew : P (.new table registry))
    (hfilter : ∀ q q' key value, P q → q.filter key value = .ok q' → P q')
    (horder : ∀ q q' keys direction, P q → q.orderBy keys direction = .ok q' → P q')
    (hwindow : ∀ q q', P q → q.SameButWindow q' → P q') (h : Reachable table registry q) : P q := by
  have hall : ∀ filters q q', P q → filterAll q filters = .ok q' → P q' :=
    fun _ _ _ hq he =>
      Outcome.foldlM_induct (fun q f q' hq hf => hfilter q q' f.1 f.2 hq hf) hq he
  induction h with
  | new => exact hnew
  | step s _ hs ih =>
    rcases s.run_cases hs with ⟨filters, he⟩ | ⟨keys, direction, he⟩ | hw | hw
    · exact hall filters _ _ ih he
    · exact horder _ _ keys direction ih he
    · exact hwindow _ _ ih hw
    · exact hwindow _ _ (horder _ (unordered _) [] .ascending ih rfl) hw

/-- What every step keeps. -/
structure Sound (table : String) (registry : Registry) (q : Query) : Prop where
  table_eq : q.table = table
  registry_eq : q.registry = registry
  compiled : ∀ key l, q.lookups.get? key = some l →
    Predicate.compile registry key l.value = .ok l.predicate
  sortable : ∀ f ∈ q.orderFields, ∃ key, orderField registry key = .ok f
  compatible : ∀ f ∈ q.fields, ∀ g ∈ q.fields, f.collides g = false

theorem mem_fields_without {key : String} {f : Field} (h : f ∈ (q.without key).fields) :
    f ∈ q.fields := by
  rcases mem_fields.1 h with h | h
  · obtain ⟨k, l, hl, rfl⟩ := mem_lookupFields.1 h
    rw [without, Dict.get?_erase] at hl
    split_ifs at hl
    exact mem_fields.2 (.inl (mem_lookupFields.2 ⟨k, l, hl, rfl⟩))
  · exact mem_fields.2 (.inr h)

theorem mem_fields_insert {key : String} {l : Lookup} {f : Field} :
    f ∈ fields { q with lookups := q.lookups.insert key l } ↔
      f = l.predicate.field ∨ f ∈ (q.without key).fields := by
  rw [mem_fields, mem_fields, ← or_assoc]
  refine or_congr ?_ Iff.rfl
  simp only [lookupFields, List.mem_map, Dict.mem_values_insert, without]
  constructor
  · rintro ⟨l', rfl | h, rfl⟩
    · exact .inl rfl
    · exact .inr ⟨l', h, rfl⟩
  · rintro (rfl | ⟨l', h, rfl⟩)
    · exact ⟨l, .inl rfl, rfl⟩
    · exact ⟨l', .inr h, rfl⟩

theorem Sound.without (h : q.Sound table registry) (key : String) :
    (q.without key).Sound table registry where
  table_eq := h.table_eq
  registry_eq := h.registry_eq
  compiled k l hl := by
    rw [Query.without, Dict.get?_erase] at hl
    split_ifs at hl
    exact h.compiled k l hl
  sortable := h.sortable
  compatible f hf g hg := h.compatible f (mem_fields_without hf) g (mem_fields_without hg)

theorem Sound.filter (h : q.Sound table registry) {key : String} {value : Json}
    (he : q.filter key value = .ok q') : q'.Sound table registry := by
  rcases filter_eq_ok_iff.1 he with ⟨-, rfl⟩ | ⟨-, p, hp, hc, rfl⟩
  · exact h.without key
  rw [clashes_eq_false_iff] at hc
  refine ⟨h.table_eq, h.registry_eq, fun k l hl => ?_, h.sortable, fun f hf g hg => ?_⟩
  · simp only [Dict.get?_insert] at hl
    split_ifs at hl with hk
    · cases hl
      rw [hk, ← h.registry_eq]
      exact hp
    · exact h.compiled k l hl
  · -- the new field is checked against all others, and these against each other before
    rcases mem_fields_insert.1 hf with rfl | hf <;> rcases mem_fields_insert.1 hg with rfl | hg
    · exact Field.collides_self _
    · exact hc g hg
    · rw [Field.collides_comm]
      exact hc f hf
    · exact (h.without key).compatible f hf g hg

theorem mapM_orderField_eq_ok {keys : List String} {fields : List Field}
    (h : keys.mapM (orderField registry) = .ok fields) :
    ∀ f ∈ fields, ∃ key, orderField registry key = .ok f := by
  have hall := Outcome.mapM_eq_ok_iff.1 h
  clear h
  induction hall with
  | nil => simp
  | @cons key field keys fields hkey _ ih =>
    intro f hf
    rcases List.mem_cons.1 hf with rfl | hf
    · exact ⟨key, hkey⟩
    · exact ih f hf

theorem orderFields_replaced {fields : List Field} {direction : Direction} :
    orderFields { q with order := if fields.isEmpty then none else some ⟨fields, direction⟩ } =
      fields := by
  cases fields <;> rfl

theorem Sound.orderBy (h : q.Sound table registry) {keys : List String} {direction : Direction}
    (he : q.orderBy keys direction = .ok q') : q'.Sound table registry := by
  obtain ⟨fields, hk, hc, rfl⟩ := orderBy_eq_ok_iff.1 he
  rw [h.registry_eq] at hk
  refine ⟨h.table_eq, h.registry_eq, h.compiled, fun f hf => ?_, fun f hf g hg => ?_⟩
  · rw [orderFields_replaced] at hf
    exact mapM_orderField_eq_ok hk f hf
  · rw [mem_fields, orderFields_replaced] at hf hg
    have hg' := List.mem_append.2 hg
    rcases hf with hf | hf
    · rcases hg with hg | hg
      · exact h.compatible f (mem_fields.2 (.inl hf)) g (mem_fields.2 (.inl hg))
      · rw [Field.collides_comm]
        exact hc g hg f (List.mem_append_left _ hf)
    · exact hc f hf g hg'

theorem orderField_eq_ok_iff {key : String} {f : Field} :
    orderField registry key = .ok f ↔ Field.resolve registry key = .ok f ∧ f ≠ .reverse := by
  rw [orderField, Outcome.bind_eq_ok_iff]
  constructor
  · rintro ⟨field, hf, h⟩
    by_cases hr : field = .reverse
    · rw [if_pos (beq_iff_eq.2 hr)] at h
      cases h
    · rw [if_neg (by simpa using hr)] at h
      cases h
      exact ⟨hf, hr⟩
  · rintro ⟨hf, hr⟩
    refine ⟨f, hf, ?_⟩
    rw [if_neg (by simpa using hr)]
    rfl

theorem Sound.reverse_not_mem_orderFields (h : q.Sound table registry) :
    .reverse ∉ q.orderFields := by
  intro hr
  obtain ⟨key, hk⟩ := h.sortable _ hr
  exact (orderField_eq_ok_iff.1 hk).2 rfl

/-- Every field in use is the field of a key. -/
theorem Sound.exists_resolve (h : q.Sound table registry) {f : Field} (hf : f ∈ q.fields) :
    ∃ key, Field.resolve registry key = .ok f := by
  rcases mem_fields.1 hf with hf | hf
  · obtain ⟨key, l, hl, rfl⟩ := mem_lookupFields.1 hf
    exact ⟨key, (Predicate.compile_eq_ok_iff.1 (h.compiled key l hl)).1⟩
  · obtain ⟨key, hkey⟩ := h.sortable f hf
    exact ⟨key, (orderField_eq_ok_iff.1 hkey).1⟩

/-- **Every reachable query is sound.** -/
theorem Reachable.sound (h : Reachable table registry q) : q.Sound table registry := by
  refine h.induct ⟨rfl, rfl, ?_, ?_, ?_⟩ (fun _ _ _ _ hq he => hq.filter he)
    (fun _ _ _ _ hq he => hq.orderBy he) ?_
  · intro key l hl
    exact absurd hl (by simp [Query.new])
  · simp [Query.new, orderFields]
  · simp [Query.new, fields, lookupFields, orderFields, Dict.values, Dict.empty]
  · rintro q q' hq ⟨limit, offset, rfl⟩
    exact ⟨hq.table_eq, hq.registry_eq, hq.compiled, hq.sortable, hq.compatible⟩

theorem Reachable.unpaged (h : Reachable table registry q) : Reachable table registry q.unpaged :=
  .step .unpaged h rfl

end Query

namespace Search

variable {s : Search}

/-- The searches that are made of reachable queries and go on by steps of these and by other
terms. -/
inductive Reachable (table : String) (registry : Registry) : Search → Prop
  | new {q : Query} (term : Option String) :
      q.Reachable table registry → Reachable table registry (.new q term)
  | withTerm {s : Search} (term : Option String) :
      Reachable table registry s → Reachable table registry (s.withTerm term)
  | step {s s' : Search} (step : Query.Step) :
      Reachable table registry s → s.step step.run = .ok s' → Reachable table registry s'

theorem Reachable.query (h : Reachable table registry s) : s.query.Reachable table registry := by
  induction h with
  | new term hq => exact hq
  | withTerm term _ ih => exact ih
  | step step _ he ih =>
    obtain ⟨q, hq, rfl⟩ := Outcome.map_eq_ok_iff.1 he
    exact .step step ih hq

theorem Reachable.unpaged (h : Reachable table registry s) : Reachable table registry s.unpaged :=
  .step .unpaged h rfl

/-- A query is the search of its rows without a term. -/
theorem reachable_of_query {q : Query} (h : q.Reachable table registry) :
    Reachable table registry ⟨q, none⟩ := .new none h

end Search

end EntityQuery
