import Mathlib.Tactic
import EntityQuery.Proofs.Select
import EntityQuery.Proofs.SelectList

/-!
# Closed statements

Columns, sources, conditions and the order of a statement are written apart from each other. They
agree: what a condition or the order refers to is selected or is in a source, and a source of
properties or of texts is there exactly for what refers to it.

* `Select.Closed`: closed trees;
* `Search.closed`: the trees of a reachable search are closed, and its order has one item for each
  field;
* **`statements_closed`**: so are all statements of reachable searches and queries.
-/

namespace EntityQuery

variable {table : String} {registry : Registry}

namespace Select

/-! ## References -/

/-- The rows that an expression refers to. Extractions are made from an entity. -/
def Expression.rows : Expression → List RowName
  | .column row _ => [row]
  | .extraction _ => [.entity]
  | .first list => list.rows
  | .number value => value.rows
  | .bare _ | .selected _ | .element => []

/-- The selected names that an expression refers to. -/
def Expression.names : Expression → List String
  | .selected name => [name]
  | .first list => list.names
  | .number value => value.names
  | .column _ _ | .extraction _ | .bare _ | .element => []

/-- The columns that an expression refers to without a row. -/
def Expression.bares : Expression → List String
  | .bare name => [name]
  | .first list => list.bares
  | .number value => value.bares
  | .column _ _ | .extraction _ | .selected _ | .element => []

/-- The rows that a condition refers to. -/
def Condition.rows (c : Condition) : List RowName := c.expressions.flatMap Expression.rows

/-- The selected names that a condition refers to. -/
def Condition.names (c : Condition) : List String := c.expressions.flatMap Expression.names

/-- The names of the rows of all sources. -/
def rows (s : Select) : List RowName := s.sources.flatMap Source.rows

/-- The rows that are referred to. -/
def rowsUsed (s : Select) : List RowName :=
  s.items.flatMap (·.expression.rows) ++ s.conditions.flatMap Condition.rows ++
    s.ordered.flatMap Expression.rows

/-- The selected names that conditions and the order refer to. -/
def namesUsed (s : Select) : List String :=
  s.conditions.flatMap Condition.names ++ s.ordered.flatMap Expression.names

/-- A tree that is closed: each name that is referred to is selected, each row is in a source, the
rows of properties and of the index are referred to wherever they are in one, and columns are
qualified where there are rows of other sources. -/
structure Closed (s : Select) : Prop where
  selected : ∀ name ∈ s.namesUsed, ∃ item ∈ s.items, item.name = some name
  bound : ∀ row ∈ s.rowsUsed, row ∈ s.rows
  properties : (∃ c ∈ s.conditions, .property ∈ c.rows) ↔ .properties ∈ s.sources
  index : .index ∈ s.rowsUsed ↔ ∃ table, .found table ∈ s.sources
  qualified : 1 < s.rows.length → ∀ e ∈ s.ordered, e.bares = []

theorem ordered_unpaged (s : Select) : s.unpaged.ordered = [] := rfl

theorem mem_namesUsed_unpaged {s : Select} {name : String} (h : name ∈ s.unpaged.namesUsed) :
    name ∈ s.namesUsed := by
  rw [namesUsed, ordered_unpaged, List.flatMap_nil, List.append_nil] at h
  exact List.mem_append_left _ h

theorem mem_rowsUsed_unpaged {s : Select} {row : RowName} (h : row ∈ s.unpaged.rowsUsed) :
    row ∈ s.rowsUsed := by
  rw [rowsUsed, ordered_unpaged, List.flatMap_nil, List.append_nil] at h
  exact List.mem_append_left _ h

/-- A closed tree is closed without its order, if it is not the order alone that refers to the
index. -/
theorem Closed.unpaged {s : Select} (h : s.Closed)
    (hindex : .index ∈ s.rowsUsed → .index ∈ s.unpaged.rowsUsed) : s.unpaged.Closed where
  selected name hname := h.selected name (mem_namesUsed_unpaged hname)
  bound row hrow := h.bound row (mem_rowsUsed_unpaged hrow)
  properties := h.properties
  index := Iff.trans ⟨mem_rowsUsed_unpaged, hindex⟩ h.index
  qualified _ e he := absurd he (by rw [ordered_unpaged]; exact List.not_mem_nil)

end Select

/-! ## Fields and lookups -/

namespace Field

theorem names_expression (f : Field) :
    f.expression.names = if f.path?.isSome then [f.reference] else [] := by
  cases f <;> rfl

theorem rows_expression (f : Field) : f.expression.rows =
    match f with
    | .column _ => [.entity]
    | .reverse => [.property]
    | _ => [] := by
  cases f <;> rfl

theorem property_mem_rows {f : Field} : .property ∈ f.expression.rows ↔ f = .reverse := by
  cases f <;> simp [rows_expression]

theorem names_orderItem (f : Field) (joined : Bool) :
    (f.orderItem joined).names = f.expression.names := by
  cases f with
  | column name => cases joined <;> rfl
  | property name numeric => cases numeric <;> rfl
  | datasets | scalar | list | reverse => rfl

theorem rows_orderItem_subset (f : Field) (joined : Bool) :
    (f.orderItem joined).rows ⊆ f.expression.rows := by
  cases f with
  | column name => cases joined <;> simp [orderItem, expression, Select.Expression.rows]
  | property name numeric => cases numeric <;> exact List.Subset.refl _
  | datasets | scalar | list | reverse => exact List.Subset.refl _

theorem bares_orderItem_joined (f : Field) : (f.orderItem true).bares = [] := by
  cases f with
  | property name numeric => cases numeric <;> rfl
  | column | datasets | scalar | list | reverse => rfl

end Field

namespace Lookup

theorem names_condition (key : String) (l : Lookup) :
    (l.condition key).names = l.predicate.field.expression.names := by
  rw [condition]
  split
  · cases l.predicate.field.isNumeric <;>
      simp [Select.Condition.names, Select.Condition.expressions, Select.Expression.names]
  · exact List.append_nil _

theorem rows_condition (key : String) (l : Lookup) :
    (l.condition key).rows = l.predicate.field.expression.rows := by
  rw [condition]
  split
  · cases l.predicate.field.isNumeric <;>
      simp [Select.Condition.rows, Select.Condition.expressions, Select.Expression.rows]
  · exact List.append_nil _

end Lookup

theorem Query.hasReverse_iff {q : Query} : q.hasReverse = true ↔ .reverse ∈ q.lookupFields := by
  simp [hasReverse]

/-! ## Searches -/

namespace Search

variable {s : Search}

theorem mem_rows {row : RowName} : row ∈ s.select.rows ↔
    row = .entity ∨ (row = .index ∧ s.term.isSome) ∨ (row = .property ∧ s.query.hasReverse) := by
  unfold Select.rows select sources
  cases s.term <;> cases s.query.hasReverse <;> cases row <;> simp [Select.Source.rows]

theorem found_mem_sources : (∃ name, .found name ∈ s.sources) ↔ s.term.isSome := by
  unfold sources
  cases s.term <;> cases s.query.hasReverse <;> simp

theorem properties_mem_sources : .properties ∈ s.sources ↔ s.query.hasReverse := by
  unfold sources
  cases s.term <;> cases s.query.hasReverse <;> simp

/-- The values of each field in use are selected, if they are extracted. -/
theorem exists_item (h : s.Reachable table registry) {f : Field} (hf : f ∈ s.query.fields)
    {name : String} (hname : name ∈ f.expression.names) :
    ∃ item ∈ s.items, item.name = some name := by
  rw [Field.names_expression] at hname
  split_ifs at hname with hp
  · obtain ⟨path, hpath⟩ := Option.isSome_iff_exists.1 hp
    have hx : f.expression? = some (Field.extraction path) := by rw [Field.expression?, hpath]; rfl
    have hmem := (Query.mem_extractions h.query.sound).2 ⟨f, hf, rfl, hx⟩
    rw [entries_extractions] at hmem
    obtain ⟨e, he, heq⟩ := List.mem_map.1 hmem
    refine ⟨_, List.mem_append_right _ (List.mem_map_of_mem he), ?_⟩
    rw [List.mem_singleton.1 hname]
    exact congrArg some (Prod.mk.inj heq).1
  · exact absurd hname List.not_mem_nil

theorem exists_item_of_mem_namesUsed (h : s.Reachable table registry) {name : String}
    (hname : name ∈ s.select.namesUsed) : ∃ item ∈ s.items, item.name = some name := by
  rcases List.mem_append.1 hname with hc | ho
  · obtain ⟨c, hc, hname⟩ := List.mem_flatMap.1 hc
    rcases mem_conditions.1 hc with ⟨key, l, hl, rfl⟩ | ⟨term, -, rfl⟩
    · rw [Lookup.names_condition] at hname
      exact exists_item h (Query.mem_fields.2 (.inl (Query.mem_lookupFields.2 ⟨key, l, hl, rfl⟩)))
        hname
    · exact absurd hname List.not_mem_nil
  · obtain ⟨e, he, hname⟩ := List.mem_flatMap.1 ho
    rcases mem_ordered he with ⟨f, hf, rfl⟩ | ⟨-, rfl⟩
    · rw [Field.names_orderItem] at hname
      exact exists_item h (Query.mem_fields.2 (.inr hf)) hname
    · exact absurd hname List.not_mem_nil

theorem mem_rows_of_field {f : Field} (hf : f ∈ s.query.fields)
    (hr : .reverse ∉ s.query.orderFields) {row : RowName} (hrow : row ∈ f.expression.rows) :
    row ∈ s.select.rows := by
  rw [mem_rows]
  cases f with
  | column name => exact .inl (List.mem_singleton.1 hrow)
  | reverse =>
    refine .inr (.inr ⟨List.mem_singleton.1 hrow, Query.hasReverse_iff.2 ?_⟩)
    exact (Query.mem_fields.1 hf).resolve_right hr
  | datasets | property | scalar | list => exact absurd hrow List.not_mem_nil

theorem mem_rows_of_mem_rowsUsed (h : s.Reachable table registry) {row : RowName}
    (hrow : row ∈ s.select.rowsUsed) : row ∈ s.select.rows := by
  have hr := h.query.sound.reverse_not_mem_orderFields
  rcases List.mem_append.1 hrow with hrow | hrow
  · rcases List.mem_append.1 hrow with hrow | hrow
    · obtain ⟨item, hitem, hrow⟩ := List.mem_flatMap.1 hrow
      rw [mem_rows]
      rcases List.mem_append.1 hitem with hitem | hitem
      · obtain ⟨name, -, rfl⟩ := List.mem_map.1 hitem
        exact .inl (List.mem_singleton.1 hrow)
      · obtain ⟨e, -, rfl⟩ := List.mem_map.1 hitem
        exact .inl (List.mem_singleton.1 hrow)
    · obtain ⟨c, hc, hrow⟩ := List.mem_flatMap.1 hrow
      rcases mem_conditions.1 hc with ⟨key, l, hl, rfl⟩ | ⟨term, ht, rfl⟩
      · rw [Lookup.rows_condition] at hrow
        exact mem_rows_of_field
          (Query.mem_fields.2 (.inl (Query.mem_lookupFields.2 ⟨key, l, hl, rfl⟩))) hr hrow
      · exact mem_rows.2 (.inr (.inl ⟨List.mem_singleton.1 hrow, by rw [ht]; rfl⟩))
  · obtain ⟨e, he, hrow⟩ := List.mem_flatMap.1 hrow
    rcases mem_ordered he with ⟨f, hf, rfl⟩ | ⟨ht, rfl⟩
    · exact mem_rows_of_field (Query.mem_fields.2 (.inr hf)) hr
        (Field.rows_orderItem_subset f _ hrow)
    · exact mem_rows.2 (.inr (.inl ⟨List.mem_singleton.1 hrow, ht⟩))

/-- A condition refers to the rows of properties exactly where a lookup asks for any property. -/
theorem property_mem_conditions :
    (∃ c ∈ s.conditions, .property ∈ c.rows) ↔ s.query.hasReverse := by
  rw [Query.hasReverse_iff, Query.mem_lookupFields]
  constructor
  · rintro ⟨c, hc, hrow⟩
    rcases mem_conditions.1 hc with ⟨key, l, hl, rfl⟩ | ⟨term, -, rfl⟩
    · rw [Lookup.rows_condition, Field.property_mem_rows] at hrow
      exact ⟨key, l, hl, hrow⟩
    · exact absurd (List.mem_singleton.1 hrow) (by decide)
  · rintro ⟨key, l, hl, hf⟩
    refine ⟨l.condition key, mem_conditions.2 (.inl ⟨key, l, hl, rfl⟩), ?_⟩
    rw [Lookup.rows_condition, Field.property_mem_rows]
    exact hf

/-- The match refers to the rows of the index, whatever is left out of the tree. -/
theorem index_mem_rowsUsed {t : Select} (h : t.conditions = s.conditions) (ht : s.term.isSome) :
    .index ∈ t.rowsUsed := by
  obtain ⟨term, hterm⟩ := Option.isSome_iff_exists.1 ht
  have hfound : .found (.text (Term.matchExpression term)) ∈ t.conditions := by
    rw [h]
    exact mem_conditions.2 (.inr ⟨term, hterm, rfl⟩)
  refine List.mem_append_left _ (List.mem_append_right _ ?_)
  exact List.mem_flatMap.2 ⟨_, hfound, List.mem_singleton_self _⟩

theorem isSome_of_index_mem (h : s.Reachable table registry) (hrow : .index ∈ s.select.rowsUsed) :
    s.term.isSome := by
  rcases mem_rows.1 (mem_rows_of_mem_rowsUsed h hrow) with hr | ⟨-, ht⟩ | ⟨hr, -⟩
  · exact absurd hr (by decide)
  · exact ht
  · exact absurd hr (by decide)

theorem joined_of_rows (h : 1 < s.select.rows.length) : s.joined = true := by
  unfold joined
  unfold Select.rows select sources at h
  cases ht : s.term <;> cases hr : s.query.hasReverse <;> simp_all [Select.Source.rows]

theorem select_closed (h : s.Reachable table registry) : s.select.Closed where
  selected _ hname := exists_item_of_mem_namesUsed h hname
  bound _ hrow := mem_rows_of_mem_rowsUsed h hrow
  properties := property_mem_conditions.trans properties_mem_sources.symm
  index := Iff.trans ⟨isSome_of_index_mem h, index_mem_rowsUsed rfl⟩ found_mem_sources.symm
  qualified hrows e he := by
    rcases mem_ordered he with ⟨f, -, rfl⟩ | ⟨-, rfl⟩
    · rw [joined_of_rows hrows]
      exact Field.bares_orderItem_joined f
    · rfl

theorem inner_closed (h : s.Reachable table registry) : s.inner.Closed :=
  (select_closed h.unpaged).unpaged fun hindex =>
    index_mem_rowsUsed (s := s.unpaged) rfl (isSome_of_index_mem h.unpaged hindex)

/-- The texts of a search are written from closed trees, which hold the index exactly where there is
a term. The order has one item for each of its fields, none being left out, and the columns among
them are qualified where there are rows of other sources. -/
structure Closed (s : Search) : Prop where
  sql : s.sql = s.select.sql Select.hole
  countSql : s.countSql = "SELECT COUNT(*) FROM (" ++ s.inner.sql Select.hole ++ ")"
  schemaGroupsSql : s.schemaGroupsSql =
    "SELECT schema, COUNT(*) FROM (" ++ s.inner.sql Select.hole ++ ") GROUP BY schema"
  select : s.select.Closed
  inner : s.inner.Closed
  found : (∃ name, .found name ∈ s.select.sources) ↔ s.term.isSome
  found_inner : (∃ name, .found name ∈ s.inner.sources) ↔ s.term.isSome
  ordered : ∀ order, s.query.order = some order → ∃ items : List Select.Expression,
    s.select.order = some ⟨items, some order.direction⟩ ∧
      order.fields.map (·.orderExpression s.joined) = items.map (.ok ·.sql)
  qualified : 1 < s.select.rows.length → ∀ name,
    (Field.column name).orderExpression s.joined = .ok ("t." ++ name)

theorem order_items (h : s.Reachable table registry) {order : SortOrder}
    (ho : s.query.order = some order) : ∃ items : List Select.Expression,
      s.select.order = some ⟨items, some order.direction⟩ ∧
        order.fields.map (·.orderExpression s.joined) = items.map (.ok ·.sql) := by
  have hr := h.query.sound.reverse_not_mem_orderFields
  rw [Query.orderFields, ho] at hr
  refine ⟨order.fields.map (Field.orderItem s.joined), ?_, ?_⟩
  · rw [select, ordering, ho]
  · rw [List.map_map]
    refine List.map_congr_left fun f hf => ?_
    exact Field.orderExpression_eq (fun he => hr (he ▸ hf)) s.joined

theorem closed (h : s.Reachable table registry) : s.Closed where
  sql := sql_eq h
  countSql := countSql_eq h
  schemaGroupsSql := schemaGroupsSql_eq h
  select := select_closed h
  inner := inner_closed h
  found := found_mem_sources
  found_inner := found_mem_sources (s := s.unpaged)
  ordered _ ho := order_items h ho
  qualified hrows name := by
    rw [joined_of_rows hrows]
    rfl

end Search

/-! ## All statements -/

/-- **The statements of reachable searches and queries are closed.** A query is the search of its
rows without a term, and each of its aggregate statements is written around the tree over all
rows. -/
theorem statements_closed :
    (∀ s : Search, s.Reachable table registry → s.Closed) ∧
    ∀ q : Query, q.Reachable table registry →
      (⟨q, none⟩ : Search).Closed ∧ q.sql = (⟨q, none⟩ : Search).sql ∧
      q.countSql = (⟨q, none⟩ : Search).countSql ∧
      q.schemaGroupsSql = (⟨q, none⟩ : Search).schemaGroupsSql ∧
      ∀ requested a, Aggregation.new q requested = .ok a → ∀ st ∈ a.statements, ∃ field,
        a.fields.get? st.field = some field ∧
          st.sql = Aggregation.statementSql (q.inner.sql Select.hole) field st.function := by
  refine ⟨fun s h => s.closed h, fun q h => ⟨?_, rfl, rfl, rfl, fun requested a ha st hst => ?_⟩⟩
  · exact Search.closed (Search.reachable_of_query h)
  · obtain ⟨field, hfield, hsql, -⟩ := Aggregation.sql_of_mem h ha hst
    exact ⟨field, hfield, hsql⟩

/-- The statements of a search for a word among the entities that have a value in any property. -/
theorem closed_with_all_sources : ∃ s : Search, s.Reachable "ftm" Model.bundled.registry ∧
    s.select.sources = [.found "ftm", .properties] ∧ s.select.Closed ∧ s.inner.Closed := by
  have hq : (Query.Step.filter "reverse" (.text "x")).run (.new "ftm" Model.bundled.registry) =
      .ok _ := rfl
  have h := Search.Reachable.new (some "jane") (.step _ .new hq)
  have hclosed := (@statements_closed "ftm" Model.bundled.registry).1 _ h
  exact ⟨_, h, by decide +kernel, hclosed.select, hclosed.inner⟩

end EntityQuery
