import Mathlib.Tactic
import EntityQuery.Aggregation
import EntityQuery.Proofs.Reachable

/-!
# Statements as trees

A statement is a tree of names, sources, conditions and an order, and its text is the writing of the
tree. The values that the conditions ask for stand in the tree, so that a tree can be written with
any texts in their places: with question marks, or with the values themselves.

* `Select`, `Select.statement`: trees, and the statement that a tree is written as;
* `Lookup.asked`: the values that a lookup asks for, read off its key and value;
* `Search.select`, `Query.select`: the tree of a search and of a query;
* **`Search.statement_eq`**: the statement of a reachable search is its tree with question marks;
* `Search.countSql_eq`, `Search.schemaGroupsSql_eq`, `Aggregation.sql_of_mem`: the texts that are
  written around the tree over all rows.
-/

namespace EntityQuery

/-! ## Trees -/

/-- What the rows of a source are called in a statement. -/
inductive RowName
  | entity
  | property
  | index
  deriving DecidableEq

/-- The name of the rows of a source. -/
def RowName.word : RowName → String
  | .entity => "t"
  | .property => "r"
  | .index => "s"

namespace Select

/-- An expression: a column written with its row or without it, an extraction by the name that it is
selected as, or by its path, each value of the list at hand, the first value of a list, or a value
as a number. -/
inductive Expression
  | column (row : RowName) (name : String)
  | bare (name : String)
  | selected (name : String)
  | extraction (path : String)
  | element
  | first (list : Expression)
  | number (value : Expression)
  deriving DecidableEq

/-- The text of an expression. -/
def Expression.sql : Expression → String
  | .column row name => row.word ++ "." ++ name
  | .bare name => name
  | .selected name => name
  | .extraction path => "json_extract(t.entity, '$." ++ path ++ "')"
  | .element => "value"
  | .first list => "json_extract(" ++ list.sql ++ ", '$[0]')"
  | .number value => "CAST(" ++ value.sql ++ " AS NUMERIC)"

@[simp] theorem Expression.sql_column (row : RowName) (name : String) :
    (Expression.column row name).sql = row.word ++ "." ++ name := rfl

@[simp] theorem Expression.sql_extraction (path : String) :
    (Expression.extraction path).sql = "json_extract(t.entity, '$." ++ path ++ "')" := rfl

@[simp] theorem Expression.sql_first (list : Expression) :
    (Expression.first list).sql = "json_extract(" ++ list.sql ++ ", '$[0]')" := rfl

@[simp] theorem Expression.sql_number (value : Expression) :
    (Expression.number value).sql = "CAST(" ++ value.sql ++ " AS NUMERIC)" := rfl

/-- What is selected: an expression, under a name of its own if it has one. -/
structure Item where
  expression : Expression
  name : Option String
  deriving DecidableEq

/-- The text of what is selected. -/
def Item.sql (item : Item) : String :=
  match item.name with
  | some name => item.expression.sql ++ " AS " ++ name
  | none => item.expression.sql

/-- A source of rows: the entities of a table, those that its index finds, or the property lists of
an entity. -/
inductive Source
  | entities (table : String)
  | found (table : String)
  | properties
  deriving DecidableEq

/-- The text of a source. -/
def Source.sql : Source → String
  | .entities table => table ++ " t"
  | .found table => table ++ "__fts s LEFT JOIN " ++ table ++ " t ON s.id = t.id"
  | .properties => "json_each(t.entity, '$.properties') r"

/-- The names of the rows of a source. -/
def Source.rows : Source → List RowName
  | .entities _ => [.entity]
  | .found _ => [.index, .entity]
  | .properties => [.property]

/-- How a value is compared: by a relation with one operand, with each of several, or with none. -/
inductive Comparison
  | relation (r : Relation)
  | among (negated : Bool)
  | absent (expected : Bool)
  deriving DecidableEq

/-- The text of a comparison with operands. -/
def Comparison.sql (operands : List String) : Comparison → String
  | .relation r => " " ++ r.sign ++ " " ++ ", ".intercalate operands
  | .among negated => (if negated then " NOT IN (" else " IN (") ++ ", ".intercalate operands ++ ")"
  | .absent true => " IS NULL"
  | .absent false => " IS NOT NULL"

/-- A condition: an expression is compared, or one of the values of a list is, or the text in the
index matches. -/
inductive Condition
  | compare (subject : Expression) (comparison : Comparison) (operands : List Json)
  | anyOf (list subject : Expression) (comparison : Comparison) (operands : List Json)
  | found (term : Json)

/-- The text of a condition, its operands being written by a function. -/
def Condition.sql (write : Json → String) : Condition → String
  | .compare subject c operands => "(" ++ subject.sql ++ c.sql (operands.map write) ++ ")"
  | .anyOf list subject c operands =>
    "(EXISTS (SELECT 1 FROM json_each(" ++ list.sql ++ ") WHERE " ++ subject.sql ++
      c.sql (operands.map write) ++ "))"
  | .found term => "s.text MATCH " ++ write term

@[simp] theorem Condition.sql_compare (write : Json → String) (subject : Expression)
    (c : Comparison) (operands : List Json) : (Condition.compare subject c operands).sql write =
      "(" ++ subject.sql ++ c.sql (operands.map write) ++ ")" := rfl

@[simp] theorem Condition.sql_anyOf (write : Json → String) (list subject : Expression)
    (c : Comparison) (operands : List Json) : (Condition.anyOf list subject c operands).sql write =
      "(EXISTS (SELECT 1 FROM json_each(" ++ list.sql ++ ") WHERE " ++ subject.sql ++
        c.sql (operands.map write) ++ "))" := rfl

@[simp] theorem Condition.sql_found (write : Json → String) (term : Json) :
    (Condition.found term).sql write = "s.text MATCH " ++ write term := rfl

/-- The expressions of a condition. -/
def Condition.expressions : Condition → List Expression
  | .compare subject _ _ => [subject]
  | .anyOf list subject _ _ => [list, subject]
  | .found _ => [.column .index "text"]

/-- The operands of a condition. -/
def Condition.operands : Condition → List Json
  | .compare _ _ operands => operands
  | .anyOf _ _ _ operands => operands
  | .found term => [term]

/-- An order: what rows are ordered by, and the direction if there is one. -/
structure Order where
  items : List Expression
  direction : Option Direction

/-- The text of an order. The direction stands once, at the end. -/
def Order.sql (order : Order) : String :=
  ", ".intercalate (order.items.map Expression.sql) ++
    match order.direction with
    | some direction => " " ++ direction.word
    | none => ""

end Select

/-- A statement as a tree. -/
structure Select where
  items : List Select.Item
  sources : List Select.Source
  conditions : List Select.Condition
  order : Option Select.Order
  limit : Option Int
  offset : Option Int

namespace Select

/-- The operands of all conditions, in order. -/
def operands (s : Select) : List Json := s.conditions.flatMap Condition.operands

/-- What the rows are ordered by. -/
def ordered (s : Select) : List Expression :=
  match s.order with
  | some order => order.items
  | none => []

/-- The statement that a tree is written as, its operands being written by a function. -/
def statement (s : Select) (write : Json → String) : Statement where
  select := s.items.map Item.sql
  source := ", ".intercalate (s.sources.map Source.sql)
  conditions := s.conditions.map (Condition.sql write)
  parameters := s.operands
  order := s.order.map Order.sql
  limit := s.limit
  offset := s.offset

/-- The text of a tree. -/
def sql (s : Select) (write : Json → String) : String := (s.statement write).render

/-- The tree over all rows, in no order. -/
def unpaged (s : Select) : Select := { s with order := none, limit := none, offset := none }

theorem statement_unpaged (s : Select) (write : Json → String) :
    s.unpaged.statement write = (s.statement write).unpaged := rfl

/-- What stands in a statement for a value that is bound to it. -/
def hole (_ : Json) : String := "?"

end Select

/-! ## The tree of a search -/

open Select in
/-- The expression for the values of a field: a column, or the name of an extraction. -/
def Field.expression : Field → Expression
  | .column name => .column .entity name
  | .reverse => .column .property "value"
  | f => .selected f.reference

open Select in
/-- What rows are ordered by for the sake of a field. -/
def Field.orderItem (joined : Bool) : Field → Expression
  | .column name => if joined then .column .entity name else .bare name
  | .property name true => .number (.first (.selected (slug name)))
  | f => f.expression

/-- How the test of a predicate compares. -/
def Test.comparison : Test → Select.Comparison
  | .single r _ => .relation r
  | .among negated _ _ => .among negated
  | .absent expected => .absent expected

/-- The items of a list; any other value is its only part. -/
def Json.parts : Json → List Json
  | .array items => items
  | value => [value]

namespace Lookup

/-- The values that a lookup asks for: the parts of its value, or none where the operator asks for
absence only. -/
def asked (key : String) (value : Json) : List Json :=
  if Key.token? key = some Operator.absent.word then [] else value.parts

open Select in
/-- The condition of a lookup. -/
def condition (key : String) (l : Lookup) : Condition :=
  let field := l.predicate.field
  let comparison := l.predicate.test.comparison
  if field.isMultivalued then
    .anyOf field.expression (if field.isNumeric then .number .element else .element) comparison
      (asked key l.value)
  else .compare field.expression comparison (asked key l.value)

end Lookup

/-- The paths to extract, by the names that their values are selected as. -/
def Query.paths (q : Query) : Dict String :=
  .ofList (q.fields.filterMap fun f => f.path?.map (f.reference, ·))

namespace Search

/-- Other sources are joined to the table. -/
def joined (s : Search) : Bool := s.query.hasReverse || s.term.isSome

/-- What a search selects. -/
def items (s : Search) : List Select.Item :=
  ["id", "schema", "entity"].map (fun name => ⟨.column .entity name, none⟩) ++
    s.query.paths.entries.map fun e => ⟨.extraction e.2, some e.1⟩

/-- The sources of a search. -/
def sources (s : Search) : List Select.Source :=
  (if s.term.isSome then .found s.query.table else .entities s.query.table) ::
    if s.query.hasReverse then [.properties] else []

/-- The conditions of a search: those of the lookups in order of their keys, and the match. -/
def conditions (s : Search) : List Select.Condition :=
  s.query.lookups.entries.map (fun e => e.2.condition e.1) ++
    match s.term with
    | some term => [.found (.text (Term.matchExpression term))]
    | none => []

/-- The order of a search: that of the query, or else the rank in the index. -/
def ordering (s : Search) : Option Select.Order :=
  match s.query.order with
  | some order => some ⟨order.fields.map (Field.orderItem s.joined), some order.direction⟩
  | none => if s.term.isSome then some ⟨[.column .index "rank"], none⟩ else none

/-- The tree of a search. -/
def select (s : Search) : Select where
  items := s.items
  sources := s.sources
  conditions := s.conditions
  order := s.ordering
  limit := s.query.limit
  offset := s.query.offset

end Search

/-- The tree of a query. -/
def Query.select (q : Query) : Select := (⟨q, none⟩ : Search).select

/-! ## The statement of a tree -/

variable {table : String} {registry : Registry}

namespace Field

theorem sql_expression (f : Field) : f.expression.sql = f.reference := by
  cases f with
  | column name =>
    have h : "t" ++ "." = "t." := rfl
    rw [expression, Select.Expression.sql_column, RowName.word, h, reference]
  | reverse => exact (by decide : "r" ++ "." ++ "value" = "r.value")
  | datasets | property | scalar | list => rfl

theorem orderExpression_eq {f : Field} (h : f ≠ .reverse) (joined : Bool) :
    f.orderExpression joined = .ok (f.orderItem joined).sql := by
  cases f with
  | column name =>
    cases joined with
    | false => rfl
    | true =>
      have hsql := sql_expression (.column name)
      rw [expression] at hsql
      rw [orderExpression, orderItem, if_pos rfl, if_pos rfl, hsql]
  | property name numeric =>
    cases numeric with
    | false => rfl
    | true =>
      have h1 : "CAST(" ++ "json_extract(" = "CAST(json_extract(" := rfl
      have h2 : ", '$[0]')" ++ " AS NUMERIC)" = ", '$[0]') AS NUMERIC)" := rfl
      unfold orderExpression orderItem reference
      rw [← h1, ← h2, Select.Expression.sql_number, Select.Expression.sql_first]
      unfold Select.Expression.sql
      simp only [String.append_assoc]
  | reverse => exact absurd rfl h
  | datasets | scalar | list => rfl

end Field

namespace Test

theorem condition_eq (subject : String) (t : Test) :
    t.condition subject = subject ++ t.comparison.sql (t.values.map Select.hole) := by
  cases t with
  | single r value =>
    simp only [condition, comparison, Select.Comparison.sql, values, List.map_cons, List.map_nil,
      Select.hole, String.intercalate_singleton, String.append_assoc]
    rw [show " " ++ "?" = " ?" from rfl]
  | among negated first rest =>
    have hholes : (rest.map fun _ => "?") = rest.map Select.hole := rfl
    simp only [condition, hholes, comparison, values, List.map_cons, Select.Comparison.sql,
      Select.hole, String.append_assoc]
  | absent expected => cases expected <;> rfl

theorem values_ofList {op : Operator} {first : Json} {rest : List Json} {t : Test}
    (h : ofList op first rest = .ok t) : t.values = first :: rest := by
  unfold ofList at h
  split at h
  all_goals cases h
  all_goals rfl

/-- A test binds the parts of the value asked for, unless it is one of absence. -/
theorem values_of {op : Operator} {value : Json} {t : Test} (h : Test.of op value = .ok t) :
    t.values = if op = .absent then [] else value.parts := by
  unfold Test.of at h
  split at h
  · rw [if_pos rfl]
    split at h
    · cases h
      rfl
    · cases h
  · cases h
  · rename_i first rest hop
    rw [if_neg hop]
    split_ifs at h
    exact values_ofList h
  · rename_i hop _ _
    rw [if_neg hop]
    split_ifs at h with hs
    have hparts : value.parts = [value] := by
      cases value with
      | array items => exact Bool.noConfusion hs
      | _ => rfl
    rw [hparts]
    split at h <;> cases h <;> rfl

end Test

theorem Operator.ofKey_eq_absent_iff {key : String} {op : Operator}
    (h : Operator.ofKey key = .ok op) :
    op = .absent ↔ Key.token? key = some Operator.absent.word := by
  rw [ofKey] at h
  cases ht : Key.token? key with
  | none =>
    simp only [ht, Except.ok.injEq] at h
    simp [← h]
  | some token =>
    simp only [ht] at h
    split_ifs at h
    cases hw : Operator.ofWord? token with
    | none => simp [hw] at h
    | some op' =>
      simp only [hw, Except.ok.injEq] at h
      rw [← h, Option.some.injEq, ← ofWord?_eq_some_iff.1 hw]
      constructor
      · rintro rfl
        rfl
      · intro he
        have := ofWord?_word op'
        rw [he, ofWord?_word] at this
        exact (Option.some.inj this).symm

/-- The predicate of a lookup binds the values that the lookup asks for. -/
theorem Predicate.values_compile {key : String} {value : Json} {p : Predicate}
    (h : Predicate.compile registry key value = .ok p) : p.values = Lookup.asked key value := by
  obtain ⟨-, op, hop, ht⟩ := compile_eq_ok_iff.1 h
  rw [values, Test.values_of ht, Lookup.asked]
  simp only [Operator.ofKey_eq_absent_iff hop]

/-- What a test is put to where a field has many values: each of them in turn. -/
theorem Predicate.subject_eq {p : Predicate} (h : p.field.isMultivalued = true) : p.subject =
    (if p.field.isNumeric then Select.Expression.number .element else .element).sql := by
  have hcast : "CAST(" ++ "value" ++ " AS NUMERIC)" = "CAST(value AS NUMERIC)" := by decide
  rw [subject, h]
  cases p.field.isNumeric with
  | false => rfl
  | true => exact hcast.symm

theorem Lookup.sql_condition {key : String} {l : Lookup}
    (h : Predicate.compile registry key l.value = .ok l.predicate) :
    (l.condition key).sql Select.hole = "(" ++ l.predicate.sql ++ ")" := by
  have hv : l.predicate.test.values = asked key l.value := Predicate.values_compile h
  rw [Predicate.sql, Test.condition_eq, hv]
  apply String.toList_inj.1
  cases hm : l.predicate.field.isMultivalued with
  | false =>
    have hs : l.predicate.subject = l.predicate.field.reference := by rw [Predicate.subject, hm]
    simp [condition, hm, hs, Field.sql_expression]
  | true => simp [condition, hm, Predicate.subject_eq hm, Field.sql_expression]

theorem Lookup.operands_condition (key : String) (l : Lookup) :
    (l.condition key).operands = asked key l.value := by
  rw [condition]
  split <;> rfl

/-- Every field of an order has an item: the field that matches any property is not among them. -/
theorem SortOrder.sql_eq {order : SortOrder} (h : .reverse ∉ order.fields) (joined : Bool) :
    order.sql joined =
      Select.Order.sql ⟨order.fields.map (Field.orderItem joined), some order.direction⟩ := by
  have hitems : (order.fields.filterMap fun f => (f.orderExpression joined).toOption) =
      (order.fields.map (Field.orderItem joined)).map Select.Expression.sql := by
    rw [List.map_map, ← List.filterMap_eq_map]
    refine List.filterMap_congr fun f hf => ?_
    rw [Field.orderExpression_eq (fun hr => h (hr ▸ hf))]
    rfl
  rw [sql, hitems, Select.Order.sql, String.append_assoc]

namespace Search

variable {s : Search}

theorem mem_conditions {c : Select.Condition} : c ∈ s.conditions ↔
    (∃ key l, s.query.lookups.get? key = some l ∧ c = l.condition key) ∨
      ∃ term, s.term = some term ∧ c = .found (.text (Term.matchExpression term)) := by
  rw [conditions, List.mem_append]
  refine or_congr ?_ ?_
  · simp only [List.mem_map, Prod.exists, Dict.mem_entries_iff, eq_comm]
  · cases s.term <;> simp

theorem mem_ordered {e : Select.Expression} (h : e ∈ s.select.ordered) :
    (∃ f ∈ s.query.orderFields, e = f.orderItem s.joined) ∨
      (s.term.isSome ∧ e = .column .index "rank") := by
  unfold Select.ordered select ordering at h
  unfold Query.orderFields
  cases ho : s.query.order with
  | some order =>
    simp only [ho, List.mem_map] at h
    obtain ⟨f, hf, rfl⟩ := h
    exact .inl ⟨f, hf, rfl⟩
  | none =>
    cases ht : s.term with
    | none => simp [ho, ht] at h
    | some term =>
      simp only [ho, ht, Option.isSome_some, if_true, List.mem_singleton] at h
      exact .inr ⟨rfl, h⟩

theorem entries_extractions (q : Query) :
    q.extractions.entries = q.paths.entries.map fun e => (e.1, Field.extraction e.2) := by
  have hlist : (q.fields.filterMap fun f => f.expression?.map (f.reference, ·)) =
      (q.fields.filterMap fun f => f.path?.map (f.reference, ·)).map
        fun e => (e.1, Field.extraction e.2) := by
    rw [List.map_filterMap]
    refine List.filterMap_congr fun f _ => ?_
    rw [Field.expression?, Option.map_map, Option.map_map]
    rfl
  rw [Query.extractions, Query.paths, Dict.ofList, hlist]
  exact Entries.ofList_map Field.extraction _

theorem sql_items (s : Search) : s.items.map Select.Item.sql = s.query.columns := by
  rw [items, Query.columns, entries_extractions, List.map_append, List.map_map, List.map_map,
    List.map_map]
  rfl

theorem sql_sources (s : Search) :
    ", ".intercalate (s.sources.map Select.Source.sql) = s.statement.source := by
  obtain ⟨query, term⟩ := s
  apply String.toList_inj.1
  cases term <;> cases hr : query.hasReverse <;>
    simp [sources, statement, Query.statement, Query.source, source, hr, Select.Source.sql,
      Query.reverseSource, indexTable, indexEnding]

theorem conditions_statement (s : Search) : s.statement.conditions =
    s.query.statement.conditions ++ if s.term.isSome then ["s.text MATCH ?"] else [] := by
  rw [statement]
  cases s.term with
  | none => exact (List.append_nil _).symm
  | some term => rfl

theorem parameters_statement (s : Search) : s.statement.parameters =
    s.query.parameters ++ match s.term with
      | some term => [.text (Term.matchExpression term)]
      | none => [] := by
  rw [statement]
  cases s.term with
  | none => exact (List.append_nil _).symm
  | some term => rfl

theorem sql_conditions (h : s.query.Sound table registry) :
    s.conditions.map (Select.Condition.sql Select.hole) = s.statement.conditions := by
  rw [conditions_statement, conditions, List.map_append]
  congr 1
  · rw [Query.statement, Dict.values, List.map_map, List.map_map]
    refine List.map_congr_left fun e he => ?_
    exact Lookup.sql_condition (h.compiled e.1 e.2 (Dict.mem_entries_iff.1 he))
  · cases s.term with
    | none => rfl
    | some term => exact congrArg (fun t => [t]) (by decide : "s.text MATCH " ++ "?" = _)

theorem operands_conditions (h : s.query.Sound table registry) :
    s.conditions.flatMap Select.Condition.operands = s.statement.parameters := by
  rw [parameters_statement, conditions, List.flatMap_append]
  congr 1
  · rw [Query.parameters, Dict.values, List.flatMap_map, List.flatMap_map]
    refine List.flatMap_congr fun e he => ?_
    rw [Predicate.values_compile (h.compiled e.1 e.2 (Dict.mem_entries_iff.1 he))]
    exact Lookup.operands_condition e.1 e.2
  · cases s.term with
    | none => rfl
    | some term => rfl

theorem sql_ordering (h : s.query.Sound table registry) :
    s.ordering.map Select.Order.sql = s.statement.order := by
  have hsql : ∀ order, s.query.order = some order → ∀ joined, order.sql joined =
      Select.Order.sql ⟨order.fields.map (Field.orderItem joined), some order.direction⟩ := by
    intro order ho joined
    refine SortOrder.sql_eq (fun hr => ?_) joined
    exact h.reverse_not_mem_orderFields (by rw [Query.orderFields, ho]; exact hr)
  rw [ordering, joined, statement]
  cases ho : s.query.order with
  | none =>
    cases s.term with
    | none => simp [Query.statement, ho]
    | some term =>
      have hrank : Select.Expression.sql (.column .index "rank") ++ "" = "s.rank" := by decide
      simp [order, ho, Select.Order.sql, ← hrank]
  | some sort =>
    cases s.term with
    | none => simp [Query.statement, ho, hsql sort ho]
    | some term => simp [order, ho, hsql sort ho]

/-- **The statement of a reachable search is its tree with question marks.** -/
theorem statement_eq (h : s.Reachable table registry) :
    s.statement = s.select.statement Select.hole := by
  have hs := h.query.sound
  have hselect : s.statement.select = s.query.columns := by rw [statement]; cases s.term <;> rfl
  have hlimit : s.statement.limit = s.query.limit := by rw [statement]; cases s.term <;> rfl
  have hoffset : s.statement.offset = s.query.offset := by rw [statement]; cases s.term <;> rfl
  calc s.statement
      = ⟨s.statement.select, s.statement.source, s.statement.conditions, s.statement.parameters,
          s.statement.order, s.statement.limit, s.statement.offset⟩ := rfl
    _ = s.select.statement Select.hole := by
      rw [hselect, hlimit, hoffset, ← sql_items, ← sql_sources, ← sql_conditions hs,
        ← operands_conditions hs, ← sql_ordering hs]
      rfl

/-- The tree over all rows, inside counts. -/
def inner (s : Search) : Select := s.unpaged.select.unpaged

theorem inner_statement (h : s.Reachable table registry) :
    s.unpaged.statement.unpaged = s.inner.statement Select.hole := by
  rw [statement_eq h.unpaged, ← Select.statement_unpaged]
  rfl

theorem sql_eq (h : s.Reachable table registry) : s.sql = s.select.sql Select.hole := by
  rw [sql, statement_eq h]
  rfl

theorem parameters_eq (h : s.Reachable table registry) : s.parameters = s.select.operands := by
  rw [parameters, statement_eq h]
  rfl

theorem countSql_eq (h : s.Reachable table registry) :
    s.countSql = "SELECT COUNT(*) FROM (" ++ s.inner.sql Select.hole ++ ")" := by
  have hcount : s.countSql =
      "SELECT COUNT(*) FROM (" ++ s.unpaged.statement.unpaged.render ++ ")" := rfl
  rw [hcount, inner_statement h]
  rfl

theorem schemaGroupsSql_eq (h : s.Reachable table registry) : s.schemaGroupsSql =
    "SELECT schema, COUNT(*) FROM (" ++ s.inner.sql Select.hole ++ ") GROUP BY schema" := by
  have hgroups : s.schemaGroupsSql = "SELECT schema, COUNT(*) FROM (" ++
      s.unpaged.statement.unpaged.render ++ ") GROUP BY schema" := rfl
  rw [hgroups, inner_statement h]
  rfl

end Search

/-- The tree over all rows, inside counts and aggregates. -/
def Query.inner (q : Query) : Select := (⟨q, none⟩ : Search).inner

/-- What an aggregate function is applied to: each value of a list, or a single extracted value or
a column. -/
def Aggregation.argument (field : Field) : String :=
  match field.expression?, field.kind with
  | some expression, .scalar => expression
  | some _, _ => "value"
  | none, _ => field.reference

/-- The source that an aggregate statement has besides the inner statement: the values of a list. -/
def Aggregation.listSource (field : Field) : String :=
  match field.expression?, field.kind with
  | some _, .scalar => ""
  | some expression, _ => ", json_each(" ++ expression ++ ")"
  | none, _ => ""

theorem Aggregation.statementSql_eq (inner : String) (field : Field) (f : Aggregate) :
    statementSql inner field f = "SELECT " ++ f.sql (argument field) ++ " AS " ++ f.resultName ++
      " FROM (" ++ inner ++ ") t" ++ listSource field := by
  cases field <;> rfl

theorem Aggregation.query_eq {q : Query} {requested : Aggregations} {a : Aggregation}
    (h : Aggregation.new q requested = .ok a) : a.query = q := by
  obtain ⟨fields, -, rfl⟩ := Outcome.map_eq_ok_iff.1 h
  rfl

/-- Each aggregate statement is written around the tree over all rows and binds its values. -/
theorem Aggregation.sql_of_mem {q : Query} {requested : Aggregations} {a : Aggregation}
    (h : q.Reachable table registry) (ha : Aggregation.new q requested = .ok a)
    {st : AggregateStatement} (hst : st ∈ a.statements) :
    ∃ field, a.fields.get? st.field = some field ∧
      st.sql = statementSql (q.inner.sql Select.hole) field st.function ∧
      st.parameters = q.inner.operands := by
  have hinner := Search.inner_statement (Search.reachable_of_query h)
  obtain ⟨⟨name, f⟩, -, hsome⟩ := List.mem_filterMap.1 hst
  obtain ⟨field, hfield, rfl⟩ := Option.map_eq_some_iff.1 hsome
  rw [query_eq ha]
  have hunpaged : q.unpaged.statement = q.inner.statement Select.hole := hinner
  refine ⟨field, hfield, ?_, ?_⟩
  · rw [hunpaged, Select.sql]
  · rw [hunpaged]
    rfl

end EntityQuery
