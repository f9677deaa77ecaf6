import Mathlib.Tactic
import EntityQuery.Proofs.Select
import EntityQuery.Registry.Bundled

/-!
# Shapes of values

The values that a query asks for are bound to its statement and do not stand in the text. What the
text shows of a value is its shape: whether it is a list, of how many items, and where absence is
asked for which flag it means.

* `Lookup.SameShape`: two values of one shape under a key;
* `Predicate.sql_eq_of_sameShape`: they make one condition of the key;
* `Query.statement_eq_of_sameButValues`, `Search.statement_eq_of_sameButValues`: statements that
  differ in the values they bind, and in nothing else;
* **`text_shows_shapes_only`**: all texts of queries and searches with values of the same shapes are
  the same.
-/

namespace EntityQuery

variable {table : String} {registry : Registry}

/-! ## Shapes -/

/-- Both values are scalars, or both are lists of as many items. -/
def Json.SameShape (a b : Json) : Prop :=
  (a.isScalar = true ∧ b.isScalar = true) ∨
    ∃ xs ys, a = .array xs ∧ b = .array ys ∧ xs.length = ys.length

theorem Json.parts_of_isScalar {a : Json} (h : a.isScalar = true) : a.parts = [a] := by
  cases a with
  | array items => exact Bool.noConfusion h
  | null | bool | int | double | text | object => rfl

theorem Json.SameShape.length_parts {a b : Json} (h : a.SameShape b) :
    a.parts.length = b.parts.length := by
  rcases h with ⟨ha, hb⟩ | ⟨xs, ys, rfl, rfl, hlength⟩
  · rw [parts_of_isScalar ha, parts_of_isScalar hb]
    rfl
  · exact hlength

theorem Json.SameShape.isScalar_eq {a b : Json} (h : a.SameShape b) : a.isScalar = b.isScalar := by
  rcases h with ⟨ha, hb⟩ | ⟨xs, ys, rfl, rfl, -⟩
  · rw [ha, hb]
  · rfl

/-- Two values of one shape under a key: they mean the same flag where the key asks for absence, and
have the same shape where it does not. -/
def Lookup.SameShape (key : String) (a b : Json) : Prop :=
  if Key.token? key = some Operator.absent.word then Test.flag? a = Test.flag? b
  else a.SameShape b

/-! ## Conditions -/

/-- How an operator compares the values of a field with the value asked for. -/
def Operator.comparison (op : Operator) (value : Json) : Select.Comparison :=
  match op with
  | .absent => .absent ((Test.flag? value).getD false)
  | .relation r => if value.isScalar then .relation r else .among (r == .different)
  | .among => .among false

theorem Operator.comparison_eq {op : Operator} {a b : Json} (hop : op ≠ .absent)
    (h : a.SameShape b) : op.comparison a = op.comparison b := by
  cases op with
  | absent => exact absurd rfl hop
  | relation r => rw [comparison, comparison, h.isScalar_eq]
  | among => rfl

namespace Test

theorem comparison_ofList {op : Operator} {first : Json} {rest items : List Json} {t : Test}
    (h : ofList op first rest = .ok t) : t.comparison = op.comparison (.array items) := by
  unfold ofList at h
  split at h <;> cases h <;> rfl

/-- A test compares as its operator does. -/
theorem comparison_of {op : Operator} {value : Json} {t : Test} (h : Test.of op value = .ok t) :
    t.comparison = op.comparison value := by
  unfold Test.of at h
  split at h
  · split at h
    · rename_i b hb
      cases h
      rw [Operator.comparison, hb]
      rfl
    · cases h
  · cases h
  · split_ifs at h
    exact comparison_ofList h
  · rename_i habsent _ _
    split_ifs at h with hs
    split at h
    · cases h
      rw [Operator.comparison, if_pos hs]
      rfl
    · rename_i hrelation
      cases h
      cases op with
      | absent => exact absurd rfl habsent
      | relation r => exact absurd rfl (hrelation r)
      | among => rfl

theorem map_hole (values : List Json) :
    values.map Select.hole = List.replicate values.length "?" :=
  List.map_const' ..

/-- Tests of values of one shape by one key put the same condition on an expression. -/
theorem condition_eq_of_sameShape {key : String} {op : Operator} {a b : Json} {t u : Test}
    (hop : Operator.ofKey key = .ok op) (ht : Test.of op a = .ok t) (hu : Test.of op b = .ok u)
    (h : Lookup.SameShape key a b) (subject : String) :
    t.condition subject = u.condition subject := by
  have habsent := Operator.ofKey_eq_absent_iff hop
  rw [condition_eq, condition_eq, comparison_of ht, comparison_of hu, map_hole, map_hole,
    values_of ht, values_of hu]
  simp only [Lookup.SameShape, ← habsent] at h
  by_cases hnull : op = .absent
  · rw [if_pos hnull] at h
    rw [if_pos hnull, if_pos hnull, hnull, Operator.comparison, Operator.comparison, h]
  · rw [if_neg hnull] at h
    rw [if_neg hnull, if_neg hnull, Operator.comparison_eq hnull h, h.length_parts]

end Test

/-- The predicates of one key with values of one shape have one field and one condition. -/
theorem Predicate.sql_eq_of_sameShape {key : String} {a b : Json} {p p' : Predicate}
    (hp : Predicate.compile registry key a = .ok p)
    (hp' : Predicate.compile registry key b = .ok p') (h : Lookup.SameShape key a b) :
    p.field = p'.field ∧ p.sql = p'.sql := by
  obtain ⟨hfield, op, hop, ht⟩ := compile_eq_ok_iff.1 hp
  obtain ⟨hfield', op', hop', ht'⟩ := compile_eq_ok_iff.1 hp'
  obtain rfl : op = op' := Except.ok.inj (hop.symm.trans hop')
  have heq : p.field = p'.field := Except.ok.inj (hfield.symm.trans hfield')
  have hsubject : p.subject = p'.subject := by rw [subject, subject, heq]
  have hcondition := Test.condition_eq_of_sameShape hop ht ht' h
  refine ⟨heq, ?_⟩
  rw [sql, sql, hcondition, hsubject, heq]

/-! ## Queries -/

namespace Query

variable {q q' : Query}

/-- Two queries with the same order and window, and with values of one shape under the same keys. -/
structure SameButValues (q q' : Query) : Prop where
  order : q.order = q'.order
  limit : q.limit = q'.limit
  offset : q.offset = q'.offset
  keys : ∀ key, q.lookups.contains key = q'.lookups.contains key
  shapes : ∀ key l l', q.lookups.get? key = some l → q'.lookups.get? key = some l' →
    Lookup.SameShape key l.value l'.value

theorem SameButValues.unpaged (h : q.SameButValues q') : q.unpaged.SameButValues q'.unpaged :=
  ⟨rfl, rfl, rfl, h.keys, h.shapes⟩

theorem predicates_eq (hq : q.Sound table registry) (hq' : q'.Sound table registry)
    (h : q.SameButValues q') (key : String) (l l' : Lookup) (hl : q.lookups.get? key = some l)
    (hl' : q'.lookups.get? key = some l') : l.predicate.field = l'.predicate.field ∧
      l.predicate.sql = l'.predicate.sql :=
  Predicate.sql_eq_of_sameShape (hq.compiled key l hl) (hq'.compiled key l' hl')
    (h.shapes key l l' hl hl')

theorem lookupFields_eq (hq : q.Sound table registry) (hq' : q'.Sound table registry)
    (h : q.SameButValues q') : q.lookupFields = q'.lookupFields :=
  Dict.map_values_congr h.keys fun key l l' hl hl' => (predicates_eq hq hq' h key l l' hl hl').1

/-- The statements of such queries differ in the values they bind, and in nothing else. -/
theorem statement_eq_of_sameButValues (hq : q.Sound table registry)
    (hq' : q'.Sound table registry) (h : q.SameButValues q') :
    q.statement = { q'.statement with parameters := q.parameters } := by
  have hlookups := lookupFields_eq hq hq' h
  have hfields : q.fields = q'.fields := by
    rw [fields, fields, orderFields, orderFields, hlookups, h.order]
  have hcolumns : q.columns = q'.columns := by
    rw [columns, columns, extractions, extractions, hfields]
  have hreverse : q.hasReverse = q'.hasReverse := by rw [hasReverse, hasReverse, hlookups]
  have hsource : q.source = q'.source := by
    rw [source, source, hreverse, hq.table_eq, hq'.table_eq]
  have hconditions : (q.lookups.values.map fun l => "(" ++ l.predicate.sql ++ ")") =
      q'.lookups.values.map fun l => "(" ++ l.predicate.sql ++ ")" := by
    refine Dict.map_values_congr h.keys fun key l l' hl hl' => ?_
    rw [(predicates_eq hq hq' h key l l' hl hl').2]
  rw [statement, statement, hcolumns, hsource, hconditions, hreverse, h.order, h.limit, h.offset]

end Query

namespace Search

variable {s s' : Search}

/-- The statements of searches of such queries differ in the values they bind, if there is a term in
both or in none. -/
theorem statement_eq_of_sameButValues (hs : s.query.Sound table registry)
    (hs' : s'.query.Sound table registry) (h : s.query.SameButValues s'.query)
    (hterm : s.term.isSome = s'.term.isSome) :
    s.statement = { s'.statement with parameters := s.parameters } := by
  have hquery := Query.statement_eq_of_sameButValues hs hs' h
  have hreverse : s.query.hasReverse = s'.query.hasReverse := by
    rw [Query.hasReverse, Query.hasReverse, Query.lookupFields_eq hs hs' h]
  have htable : s.query.table = s'.query.table := hs.table_eq.trans hs'.table_eq.symm
  have hsource : s.source = s'.source := by
    rw [source, source, indexTable, indexTable, htable, hreverse]
  have horder : s.order = s'.order := by rw [order, order, h.order]
  rw [parameters]
  cases ht : s.term with
  | none =>
    cases ht' : s'.term with
    | none =>
      simp only [statement, ht, ht']
      exact hquery
    | some term' => simp [ht, ht'] at hterm
  | some term =>
    cases ht' : s'.term with
    | none => simp [ht, ht'] at hterm
    | some term' => simp only [statement, ht, ht', hquery, hsource, horder]

theorem texts_eq (hs : s.Reachable table registry) (hs' : s'.Reachable table registry)
    (h : s.query.SameButValues s'.query) (hterm : s.term.isSome = s'.term.isSome) :
    s.sql = s'.sql ∧ s.countSql = s'.countSql ∧ s.schemaGroupsSql = s'.schemaGroupsSql := by
  have hstatement := statement_eq_of_sameButValues hs.query.sound hs'.query.sound h hterm
  have hunpaged := statement_eq_of_sameButValues hs.unpaged.query.sound hs'.unpaged.query.sound
    h.unpaged hterm
  refine ⟨?_, ?_, ?_⟩
  · rw [sql, hstatement]
    rfl
  · rw [countSql, hunpaged]
    rfl
  · rw [schemaGroupsSql, hunpaged]
    rfl

end Search

namespace Aggregation

/-- The texts of all statements, each with its field and its function. -/
def texts (a : Aggregation) : List (String × Aggregate × String) :=
  a.statements.map fun st => (st.field, st.function, st.sql)

theorem texts_eq {q q' : Query} (hq : q.Reachable table registry)
    (hq' : q'.Reachable table registry) (h : q.SameButValues q') (requested : Aggregations) :
    (new q requested).map texts = (new q' requested).map texts := by
  have hunpaged := Query.statement_eq_of_sameButValues hq.unpaged.sound hq'.unpaged.sound h.unpaged
  have hinner : q.unpaged.statement.render = q'.unpaged.statement.render := by
    rw [hunpaged]
    rfl
  rw [new, new, Outcome.map_map, Outcome.map_map, hq.sound.registry_eq, hq'.sound.registry_eq]
  refine congrArg (fun f => Except.map f (resolveAll registry requested.functions.keys)) ?_
  funext fields
  simp only [Function.comp_apply, texts, statements, List.map_filterMap, Option.map_map, hinner]
  rfl

end Aggregation

/-! ## All texts -/

/-- **The text of a statement shows no more of a value than its shape.** Of two reachable queries
with values of the same shapes under the same keys all texts are the same, and so they are of two
reachable searches among their rows, whatever the terms. -/
theorem text_shows_shapes_only :
    (∀ q q' : Query, q.Reachable table registry → q'.Reachable table registry →
      q.SameButValues q' →
        q.sql = q'.sql ∧ q.countSql = q'.countSql ∧ q.schemaGroupsSql = q'.schemaGroupsSql ∧
        ∀ requested, (Aggregation.new q requested).map (·.texts) =
          (Aggregation.new q' requested).map (·.texts)) ∧
    ∀ s s' : Search, s.Reachable table registry → s'.Reachable table registry →
      s.query.SameButValues s'.query → s.term.isSome = s'.term.isSome →
        s.sql = s'.sql ∧ s.countSql = s'.countSql ∧ s.schemaGroupsSql = s'.schemaGroupsSql := by
  refine ⟨fun q q' hq hq' h => ?_, fun s s' hs hs' h hterm => Search.texts_eq hs hs' h hterm⟩
  obtain ⟨hsql, hcount, hgroups⟩ := Search.texts_eq (Search.reachable_of_query hq)
    (Search.reachable_of_query hq') h rfl
  exact ⟨hsql, hcount, hgroups, Aggregation.texts_eq hq hq' h⟩

/-- A value and a term that are written like SQL leave the text of a search as it is. -/
theorem written_like_sql : ∃ s s' : Search, s.Reachable "ftm" Model.bundled.registry ∧
    s'.Reachable "ftm" Model.bundled.registry ∧
      s.query.parameters = [.text "jane"] ∧ s.term = some "a" ∧
        s'.query.parameters = [.text "'; DROP TABLE ftm; --"] ∧ s'.term = some "a\" OR b" ∧
          s.sql = s'.sql := by
  have hq : (Query.Step.filter "context.foo" (.text "jane")).run
      (.new "ftm" Model.bundled.registry) = .ok _ := rfl
  have hq' : (Query.Step.filter "context.foo" (.text "'; DROP TABLE ftm; --")).run
      (.new "ftm" Model.bundled.registry) = .ok _ := rfl
  have h := Search.Reachable.new (some "a") (.step _ .new hq)
  have h' := Search.Reachable.new (some "a\" OR b") (.step _ .new hq')
  refine ⟨_, _, h, h', rfl, by decide +kernel, rfl, by decide +kernel, ?_⟩
  refine (text_shows_shapes_only.2 _ _ h h' ⟨rfl, rfl, rfl, ?_, ?_⟩ (by decide +kernel)).1
  · intro key
    change (Dict.insert _ _ _).contains key = (Dict.insert _ _ _).contains key
    simp only [Dict.contains, Dict.get?_insert]
    split_ifs <;> rfl
  · intro key l l' hl hl'
    change (Dict.insert _ _ _).get? key = some l at hl
    change (Dict.insert _ _ _).get? key = some l' at hl'
    rw [Dict.get?_insert] at hl hl'
    split_ifs at hl hl' with hkey
    · cases hl
      cases hl'
      rw [hkey]
      exact .inl ⟨rfl, rfl⟩
    · cases hl

end EntityQuery
