import Mathlib.Tactic
import EntityQuery.Proofs.ByteOrder
import EntityQuery.Proofs.Reachable
import EntityQuery.Registry.Bundled

/-!
# The select list

Extractions are collected under the names that they are selected as, so two that went by one name
would become one. Lookups and orders are refused where this would happen, and only there.

* `Query.mem_extractions`: the extractions are those of the fields in use;
* `Query.filter_refused_iff`, `Query.orderBy_refused_iff`: what is refused for its name;
* **`Query.select_list_faithful`**: all of it, of every reachable query.
-/

namespace EntityQuery

variable {table : String} {registry : Registry}

namespace Field

/-- Two fields go by one name but are extracted in two ways. -/
def Conflicts (a b : Field) : Prop := a.reference = b.reference ∧ a.expression? ≠ b.expression?

theorem conflicts_iff {a b : Field} : a.Conflicts b ↔ b.collides a = true := by
  rw [collides_comm, collides_iff, Conflicts]

end Field

namespace Query

variable {q : Query}

/-! ## Extractions -/

theorem Sound.expression?_eq (h : q.Sound table registry) {f g : Field} (hf : f ∈ q.fields)
    (hg : g ∈ q.fields) (hr : f.reference = g.reference) : f.expression? = g.expression? :=
  Field.collides_eq_false_iff.1 (h.compatible f hf g hg) hr

theorem mem_extractions (h : q.Sound table registry) {reference expression : String} :
    (reference, expression) ∈ q.extractions.entries ↔
      ∃ f ∈ q.fields, f.reference = reference ∧ f.expression? = some expression := by
  have hmem : ∀ {r x : String},
      (r, x) ∈ q.fields.filterMap (fun f => f.expression?.map (f.reference, ·)) ↔
        ∃ f ∈ q.fields, f.reference = r ∧ f.expression? = some x := by
    intro r x
    simp only [List.mem_filterMap, Option.map_eq_some_iff, Prod.mk.injEq]
    refine exists_congr fun f => and_congr_right fun _ => ?_
    constructor
    · rintro ⟨y, hy, hr, rfl⟩
      exact ⟨hr, hy⟩
    · rintro ⟨hr, hx⟩
      exact ⟨x, hx, hr, rfl⟩
  rw [extractions, Dict.mem_entries_ofList, hmem]
  rintro ⟨r, x⟩ he ⟨r', x'⟩ he' (heq : r = r')
  obtain ⟨f, hf, hr, hx⟩ := hmem.1 he
  obtain ⟨g, hg, hr', hx'⟩ := hmem.1 he'
  have hfg := h.expression?_eq hf hg (hr.trans (heq.trans hr'.symm))
  rw [hx, hx'] at hfg
  exact Option.some.inj hfg

/-! ## Refusals -/

theorem filter_eq_error_iff {key : String} {value : Json} {p : Predicate} {e : QueryError}
    (hn : value.isNull = false)
    (hp : Predicate.compile q.registry key (merge (q.lookup? key) value) = .ok p) :
    q.filter key value = .error e ↔
      (q.without key).clashes p.field = true ∧ e = .invalidField p.field.name := by
  cases hc : (q.without key).clashes p.field with
  | true =>
    rw [without] at hc
    simp [filter, hn, hp, hc, bind, Except.bind, throw, throwThe, MonadExceptOf.throw, eq_comm]
  | false =>
    have hok := filter_eq_ok_iff.2 (.inr ⟨hn, p, hp, hc, rfl⟩)
    simp [hok]

/-- A lookup that compiles is refused for the name of a field elsewhere in the query. -/
theorem filter_refused_iff {key : String} {value : Json} {p : Predicate}
    (hn : value.isNull = false)
    (hp : Predicate.compile q.registry key (merge (q.lookup? key) value) = .ok p) :
    (∃ name, q.filter key value = .error (.invalidField name)) ↔
      (∃ k ≠ key, ∃ l, q.lookups.get? k = some l ∧ l.predicate.field.Conflicts p.field) ∨
        ∃ f ∈ q.orderFields, f.Conflicts p.field := by
  have hclash : (∃ name, q.filter key value = .error (.invalidField name)) ↔
      (q.without key).clashes p.field = true := by
    simp [filter_eq_error_iff hn hp]
  rw [hclash, clashes_iff]
  simp only [Field.conflicts_iff]
  constructor
  · rintro ⟨f, hf, hc⟩
    rcases mem_fields.1 hf with hf | hf
    · obtain ⟨k, l, hl, rfl⟩ := mem_lookupFields.1 hf
      rw [without, Dict.get?_erase] at hl
      split_ifs at hl with hk
      exact .inl ⟨k, hk, l, hl, hc⟩
    · exact .inr ⟨f, hf, hc⟩
  · rintro (⟨k, hk, l, hl, hc⟩ | ⟨f, hf, hc⟩)
    · refine ⟨_, mem_fields.2 (.inl (mem_lookupFields.2 ⟨k, l, ?_, rfl⟩)), hc⟩
      rw [without, Dict.get?_erase, if_neg hk, hl]
    · exact ⟨f, mem_fields.2 (.inr hf), hc⟩

theorem firstClash?_mem {before fields : List Field} {f : Field}
    (h : q.firstClash? before fields = some f) : f ∈ fields := by
  induction fields generalizing before with
  | nil => simp [firstClash?] at h
  | cons field rest ih =>
    rw [firstClash?] at h
    split_ifs at h
    · rw [Option.some.inj h]
      exact List.mem_cons_self
    · exact List.mem_cons_of_mem _ (ih h)

theorem orderBy_eq_error {keys : List String} {direction : Direction} {fields : List Field}
    {e : QueryError} (hk : keys.mapM (orderField q.registry) = .ok fields)
    (h : q.orderBy keys direction = .error e) : ∃ f ∈ fields, e = .invalidField f.name := by
  cases hc : q.unordered.firstClash? [] fields with
  | some field =>
    have hmem := firstClash?_mem hc
    rw [unordered] at hc
    simp only [orderBy, hk, bind, Except.bind, hc, throw, throwThe, MonadExceptOf.throw,
      Except.error.injEq] at h
    exact ⟨field, hmem, h.symm⟩
  | none =>
    rw [unordered] at hc
    simp [orderBy, hk, bind, Except.bind, hc, pure, Except.pure] at h

theorem mapM_orderField {keys : List String} {fields : List Field}
    (hk : keys.mapM (Field.resolve registry) = .ok fields) (hr : .reverse ∉ fields) :
    keys.mapM (orderField registry) = .ok fields := by
  rw [Outcome.mapM_eq_ok_iff] at hk ⊢
  induction hk with
  | nil => exact .nil
  | cons hkey _ ih =>
    rw [List.mem_cons, not_or] at hr
    exact .cons (orderField_eq_ok_iff.2 ⟨hkey, Ne.symm hr.1⟩) (ih hr.2)

/-- An order by fields that can be ordered by is refused for the name of a lookup's field or of
another of its own fields; the order before it plays no part. -/
theorem orderBy_refused_iff {keys : List String} {direction : Direction} {fields : List Field}
    (hk : keys.mapM (orderField q.registry) = .ok fields) :
    (∃ e, q.orderBy keys direction = .error e) ↔
      ∃ f ∈ fields, ∃ g ∈ q.lookupFields ++ fields, g.Conflicts f := by
  have hok : (∃ q', q.orderBy keys direction = .ok q') ↔
      ∀ f ∈ fields, ∀ g ∈ q.lookupFields ++ fields, f.collides g = false := by
    simp only [orderBy_eq_ok_iff, hk, Except.ok.injEq, exists_eq_left']
    exact ⟨fun ⟨_, h, _⟩ => h, fun h => ⟨_, h, rfl⟩⟩
  have herr : (∃ e, q.orderBy keys direction = .error e) ↔
      ¬ ∃ q', q.orderBy keys direction = .ok q' := by
    cases q.orderBy keys direction <;> simp
  rw [herr, hok]
  simp only [Field.conflicts_iff]
  push Not
  simp only [Bool.not_eq_false]

/-! ## The select list -/

/-- **The select list is faithful to the fields in use.** Fields that go by one name are extracted
in one way; the list holds the base columns and then each extraction in use once, in order of the
bytes of their names; and lookups and orders are refused for a name exactly where another field in
use goes by it and is extracted otherwise. -/
theorem select_list_faithful (h : Reachable table registry q) :
    (∀ f ∈ q.fields, ∀ g ∈ q.fields, f.reference = g.reference → f.expression? = g.expression?) ∧
    (∃ items : List (String × String),
      q.columns = ["t.id", "t.schema", "t.entity"] ++ items.map (fun e => e.2 ++ " AS " ++ e.1) ∧
      items.Pairwise (fun a b => Text.bytes a.1 < Text.bytes b.1) ∧
      ∀ reference expression, (reference, expression) ∈ items ↔
        ∃ f ∈ q.fields, f.reference = reference ∧ f.expression? = some expression) ∧
    (∀ key value p, value.isNull = false →
      Predicate.compile registry key (merge (q.lookup? key) value) = .ok p →
      ((∃ name, q.filter key value = .error (.invalidField name)) ↔
        (∃ k ≠ key, ∃ l, q.lookups.get? k = some l ∧ l.predicate.field.Conflicts p.field) ∨
          ∃ f ∈ q.orderFields, f.Conflicts p.field) ∧
      ∀ e, q.filter key value = .error e → e = .invalidField p.field.name) ∧
    (∀ keys fields direction, keys.mapM (Field.resolve registry) = .ok fields →
      .reverse ∉ fields →
      ((∃ e, q.orderBy keys direction = .error e) ↔
        ∃ f ∈ fields, ∃ g ∈ q.lookupFields ++ fields, g.Conflicts f) ∧
      ∀ e, q.orderBy keys direction = .error e → ∃ f ∈ fields, e = .invalidField f.name) := by
  have hs := h.sound
  refine ⟨fun f hf g hg => hs.expression?_eq hf hg, ⟨q.extractions.entries, rfl, ?_, ?_⟩, ?_, ?_⟩
  · exact q.extractions.increasing.imp fun hlt => Text.bytes_lt_iff.2 hlt
  · exact fun reference expression => mem_extractions hs
  · intro key value p hn hp
    rw [← hs.registry_eq] at hp
    exact ⟨filter_refused_iff hn hp, fun e he => ((filter_eq_error_iff hn hp).1 he).2⟩
  · intro keys fields direction hk hr
    rw [← hs.registry_eq] at hk
    have hk := mapM_orderField hk hr
    exact ⟨orderBy_refused_iff hk, fun e he => orderBy_eq_error hk he⟩

/-- Under the bundled model, two paths that are slugged alike do not come into one query. -/
theorem slugged_alike_refused : ∃ q, Reachable "ftm" Model.bundled.registry q ∧
    q.fields = [.scalar "context.foo_bar" "foo_bar"] ∧
    ∃ name, q.filter "context.foo.bar" (.text "x") = .error (.invalidField name) := by
  have hq : (Step.filter "context.foo_bar" (.text "x")).run (.new "ftm" Model.bundled.registry) =
      .ok _ := rfl
  have h := Reachable.step _ .new hq
  obtain ⟨-, -, hfilter, -⟩ := select_list_faithful h
  obtain ⟨hiff, -⟩ := hfilter "context.foo.bar" (.text "x")
    ⟨.scalar "context.foo.bar" "foo.bar", .single .equal (.text "x")⟩ rfl rfl
  refine ⟨_, h, rfl, hiff.2 (.inl ⟨"context.foo_bar", by decide, _, rfl, ?_⟩)⟩
  exact ⟨by decide, by decide⟩

end Query

end EntityQuery
