import Mathlib.Tactic
import EntityQuery.Proofs.ByteOrder
import EntityQuery.Proofs.Names
import EntityQuery.Proofs.Select

/-!
# Question marks and values

The text of a statement and the values that are bound to it are made apart from each other. There is
a question mark for each value all the same, in the condition that the value was asked for by.

* `Select.fills`: filled with its operands, a tree with question marks is the tree that holds them;
* **`Search.aligned`**: so it is with all texts of a reachable search.
-/

namespace EntityQuery

open Text

variable {table : String} {registry : Registry}

/-! ## Trees -/

namespace Select

/-- The comparison has a place for each of the operands. -/
def Comparison.Takes : Comparison → List Json → Prop
  | .absent _, operands => operands = []
  | .relation _, _ | .among _, _ => True

/-- A condition without question marks but for its operands. -/
inductive Condition.Plain : Condition → Prop
  | compare {subject : Expression} {c : Comparison} {operands : List Json} :
      Text.Plain subject.sql → c.Takes operands → Plain (.compare subject c operands)
  | anyOf {list subject : Expression} {c : Comparison} {operands : List Json} :
      Text.Plain list.sql → Text.Plain subject.sql → c.Takes operands →
        Plain (.anyOf list subject c operands)
  | found (term : Json) : Plain (.found term)

/-- A tree without question marks but for its operands. -/
structure Plain (s : Select) : Prop where
  items : ∀ item ∈ s.items, Text.Plain item.sql
  sources : ∀ source ∈ s.sources, Text.Plain source.sql
  conditions : ∀ c ∈ s.conditions, c.Plain
  ordered : ∀ e ∈ s.ordered, Text.Plain e.sql

theorem fills_operands (write : Json → String) (operands : List Json) :
    Fills (", ".intercalate (operands.map hole)) (operands.map write)
      (", ".intercalate (operands.map write)) := by
  have h := Fills.intercalate (by decide : Text.Plain ", ") operands hole write
    (fun operand => [write operand]) fun operand _ => Fills.hole (write operand)
  rw [← List.map_eq_flatMap] at h
  exact h

theorem Comparison.fills (write : Json → String) {c : Comparison} {operands : List Json}
    (h : c.Takes operands) :
    Fills (c.sql (operands.map hole)) (operands.map write) (c.sql (operands.map write)) := by
  have hoperands := fills_operands write operands
  cases c with
  | relation r =>
    have hsign : Text.Plain (" " ++ r.sign ++ " ") := by cases r <;> decide
    exact hoperands.plain_append hsign
  | among negated =>
    have hopen : Text.Plain (if negated then " NOT IN (" else " IN (") := by
      cases negated <;> decide
    exact (hoperands.plain_append hopen).append_plain (by decide)
  | absent expected =>
    have hnone : operands = [] := h
    subst hnone
    cases expected <;> exact Fills.plain (by decide)

theorem Condition.fills (write : Json → String) {c : Condition} (h : c.Plain) :
    Fills (c.sql hole) (c.operands.map write) (c.sql write) := by
  cases h with
  | compare hsubject htakes =>
    have hopen : Text.Plain "(" := by decide
    have hfills := (Comparison.fills write htakes).plain_append (hopen.append hsubject)
    exact hfills.append_plain (by decide)
  | anyOf hlist hsubject htakes =>
    have hopen : Text.Plain "(EXISTS (SELECT 1 FROM json_each(" := by decide
    have hwhere : Text.Plain ") WHERE " := by decide
    have hfills := (Comparison.fills write htakes).plain_append
      (((hopen.append hlist).append hwhere).append hsubject)
    exact hfills.append_plain (by decide)
  | found term =>
    have hmatch : Text.Plain "s.text MATCH " := by decide
    exact (Fills.hole (write term)).plain_append hmatch

theorem Order.plain {order : Order} (h : ∀ e ∈ order.items, Text.Plain e.sql) :
    Text.Plain order.sql := by
  have hitems : Text.Plain (", ".intercalate (order.items.map Expression.sql)) := by
    refine Text.Plain.intercalate (by decide) fun text htext => ?_
    obtain ⟨e, he, rfl⟩ := List.mem_map.1 htext
    exact h e he
  refine hitems.append ?_
  cases order.direction with
  | none => decide
  | some direction => cases direction <;> decide

end Select

namespace Statement

theorem plain_spaced {part : Option String} (h : ∀ text, part = some text → Text.Plain text) :
    Text.Plain (spaced part) := by
  cases part with
  | none => decide
  | some text =>
    have hspace : Text.Plain " " := by decide
    exact hspace.append (h text rfl)

theorem plain_limitPart (s : Statement) : Text.Plain (spaced s.limitPart) := by
  have hwindow : ∀ limit offset : Option Int, Text.Plain
      ("LIMIT " ++ (limit.getD (-1)).repr ++ " OFFSET " ++ (offset.getD 0).repr) := by
    intro limit offset
    have hlimit : Text.Plain "LIMIT " := by decide
    have hoffset : Text.Plain " OFFSET " := by decide
    exact ((hlimit.append (plain_repr _)).append hoffset).append (plain_repr _)
  refine plain_spaced fun text htext => ?_
  unfold limitPart at htext
  split at htext
  · cases htext
  · rw [← Option.some.inj htext]
    exact hwindow _ _

variable {s s' : Statement}

/-- A text is filled where its conditions are, if there is no question mark elsewhere. -/
theorem fills_render {values : List String} (hselect : s'.select = s.select)
    (hsource : s'.source = s.source) (horder : s'.order = s.order) (hlimit : s'.limit = s.limit)
    (hoffset : s'.offset = s.offset) (hs : Text.Plain s.selectPart) (hf : Text.Plain s.source)
    (ho : ∀ text, s.order = some text → Text.Plain text)
    (hw : Fills (spaced s.wherePart) values (spaced s'.wherePart)) :
    Fills s.render values s'.render := by
  have hopen : Text.Plain "SELECT " := by decide
  have hfrom : Text.Plain " FROM " := by decide
  have hby : Text.Plain "ORDER BY " := by decide
  have hselectPart : s'.selectPart = s.selectPart := by rw [selectPart, selectPart, hselect]
  have horderPart : s'.orderPart = s.orderPart := by rw [orderPart, orderPart, horder]
  have hlimitPart : s'.limitPart = s.limitPart := by rw [limitPart, limitPart, hlimit, hoffset]
  have hplain : Text.Plain (spaced s.orderPart) := by
    refine plain_spaced fun text htext => ?_
    obtain ⟨text, ht, rfl⟩ := Option.map_eq_some_iff.1 htext
    exact hby.append (ho text ht)
  have hfills := hw.plain_append (((hopen.append hs).append hfrom).append hf)
  unfold render
  rw [hselectPart, hsource, horderPart, hlimitPart]
  exact (hfills.append_plain hplain).append_plain (plain_limitPart s)

end Statement

namespace Select

theorem fills_where (write : Json → String) {s : Select} (h : ∀ c ∈ s.conditions, c.Plain) :
    Fills (Statement.spaced (s.statement hole).wherePart) (s.operands.map write)
      (Statement.spaced (s.statement write).wherePart) := by
  have hplain : Text.Plain (" " ++ "WHERE ") := by decide
  have hfills := Fills.intercalate (by decide : Text.Plain " AND ") s.conditions
    (Condition.sql hole) (Condition.sql write) (fun c => c.operands.map write)
    fun c hc => Condition.fills write (h c hc)
  rw [← List.map_flatMap] at hfills
  unfold Statement.wherePart statement operands
  cases hc : s.conditions with
  | nil =>
    have hempty : Text.Plain "" := by decide
    exact Fills.plain hempty
  | cons c rest =>
    rw [hc] at hfills
    have hspaced := hfills.plain_append hplain
    rw [String.append_assoc, String.append_assoc] at hspaced
    exact hspaced

/-- Filled with its operands, a tree with question marks is the tree that holds them. -/
theorem fills (write : Json → String) {s : Select} (h : s.Plain) :
    Fills (s.sql hole) (s.operands.map write) (s.sql write) := by
  have hselect : Text.Plain (", ".intercalate (s.items.map Item.sql)) := by
    refine Text.Plain.intercalate (by decide) fun text htext => ?_
    obtain ⟨item, hitem, rfl⟩ := List.mem_map.1 htext
    exact h.items item hitem
  have hsource : Text.Plain (", ".intercalate (s.sources.map Source.sql)) := by
    refine Text.Plain.intercalate (by decide) fun text htext => ?_
    obtain ⟨source, hsource, rfl⟩ := List.mem_map.1 htext
    exact h.sources source hsource
  have horder : ∀ text, (s.statement hole).order = some text → Text.Plain text := by
    intro text htext
    obtain ⟨order, ho, rfl⟩ := Option.map_eq_some_iff.1 htext
    refine Order.plain fun e he => h.ordered e ?_
    rw [ordered, ho]
    exact he
  exact Statement.fills_render rfl rfl rfl rfl rfl hselect hsource horder
    (fills_where write h.conditions)

end Select

/-! ## Searches -/

namespace Field

theorem plain_expression {f : Field} (h : f.Plain) : Text.Plain f.expression.sql := by
  rw [sql_expression]
  exact h.reference

theorem plain_orderItem {f : Field} (h : f.Plain) (joined : Bool) :
    Text.Plain (f.orderItem joined).sql := by
  have hexpression := plain_expression h
  cases f with
  | column name =>
    cases joined with
    | false => exact h.name name rfl
    | true => exact hexpression
  | property name numeric =>
    cases numeric with
    | false => exact hexpression
    | true =>
      have hcast : Text.Plain "CAST(" := by decide
      have hopen : Text.Plain "json_extract(" := by decide
      have hclose : Text.Plain ", '$[0]')" := by decide
      have hnumeric : Text.Plain " AS NUMERIC)" := by decide
      exact (hcast.append ((hopen.append h.reference).append hclose)).append hnumeric
  | datasets | scalar | list | reverse => exact hexpression

end Field

theorem Lookup.plain_condition {key : String} {l : Lookup}
    (h : Predicate.compile registry key l.value = .ok l.predicate) (hf : l.predicate.field.Plain) :
    (l.condition key).Plain := by
  have htakes : l.predicate.test.comparison.Takes (asked key l.value) := by
    rw [← Predicate.values_compile h, Predicate.values]
    cases l.predicate.test <;> trivial
  have helement : Text.Plain (if l.predicate.field.isNumeric then
      Select.Expression.number .element else .element).sql := by
    cases l.predicate.field.isNumeric <;> decide
  have hexpression := Field.plain_expression hf
  simp only [condition]
  split
  · exact .anyOf hexpression helement htakes
  · exact .compare hexpression htakes

theorem Query.Sound.plain_of_mem_fields {q : Query} (h : q.Sound table registry)
    (hr : registry.Wordy) {f : Field} (hf : f ∈ q.fields) : f.Plain := by
  obtain ⟨key, hkey⟩ := h.exists_resolve hf
  exact Field.plain_of_resolve hr hkey

namespace Search

variable {s : Search}

theorem plain_items (h : s.Reachable table registry) (hr : registry.Wordy) {item : Select.Item}
    (hitem : item ∈ s.items) : Text.Plain item.sql := by
  rcases List.mem_append.1 hitem with hitem | hitem
  · have hbase : ∀ name ∈ ["id", "schema", "entity"],
        Text.Plain (Select.Item.sql ⟨.column .entity name, none⟩) := by decide
    obtain ⟨name, hname, rfl⟩ := List.mem_map.1 hitem
    exact hbase name hname
  · obtain ⟨e, he, rfl⟩ := List.mem_map.1 hitem
    obtain ⟨f, hf, hsome⟩ := List.mem_filterMap.1 (Dict.mem_of_mem_entries_ofList he)
    obtain ⟨path, hpath, rfl⟩ := Option.map_eq_some_iff.1 hsome
    have hplain := h.query.sound.plain_of_mem_fields hr hf
    have hopen : Text.Plain "json_extract(t.entity, '$." := by decide
    have hclose : Text.Plain "')" := by decide
    have has : Text.Plain " AS " := by decide
    exact (((hopen.append (hplain.path path hpath)).append hclose).append has).append
      hplain.reference

theorem plain_sources (ht : Text.Plain s.query.table) {source : Select.Source}
    (hsource : source ∈ s.sources) : Text.Plain source.sql := by
  have hentities : Text.Plain (Select.Source.entities s.query.table).sql :=
    ht.append (by decide)
  have hfound : Text.Plain (Select.Source.found s.query.table).sql := by
    have hjoin : Text.Plain "__fts s LEFT JOIN " := by decide
    have hon : Text.Plain " t ON s.id = t.id" := by decide
    exact ((ht.append hjoin).append ht).append hon
  rcases List.mem_cons.1 hsource with rfl | hsource
  · split
    · exact hfound
    · exact hentities
  · split at hsource
    · rw [List.mem_singleton.1 hsource]
      decide
    · exact absurd hsource List.not_mem_nil

theorem select_plain (h : s.Reachable table registry) (hr : registry.Wordy)
    (ht : EntityTable.isName table = true) : s.select.Plain where
  items _ hitem := plain_items h hr hitem
  sources _ hsource := by
    have htable : Text.Plain s.query.table := by
      rw [h.query.sound.table_eq]
      exact plain_of_isName ht
    exact plain_sources htable hsource
  conditions c hc := by
    rcases mem_conditions.1 hc with ⟨key, l, hl, rfl⟩ | ⟨term, -, rfl⟩
    · refine Lookup.plain_condition (h.query.sound.compiled key l hl) ?_
      refine h.query.sound.plain_of_mem_fields hr (Query.mem_fields.2 (.inl ?_))
      exact Query.mem_lookupFields.2 ⟨key, l, hl, rfl⟩
    · exact .found _
  ordered e he := by
    rcases mem_ordered he with ⟨f, hf, rfl⟩ | ⟨-, rfl⟩
    · have hplain := h.query.sound.plain_of_mem_fields hr (Query.mem_fields.2 (.inr hf))
      exact Field.plain_orderItem hplain _
    · decide

theorem inner_plain (h : s.Reachable table registry) (hr : registry.Wordy)
    (ht : EntityTable.isName table = true) : s.inner.Plain := by
  have hplain := select_plain h.unpaged hr ht
  exact ⟨hplain.items, hplain.sources, hplain.conditions, fun _ he => absurd he List.not_mem_nil⟩

/-- The texts of a search are filled with its values. The conditions are those of the lookups in
order of the bytes of their keys, each with what its lookup asks for, and at last the match. -/
structure Aligned (write : Json → String) (s : Search) : Prop where
  keys : s.query.lookups.entries.Pairwise fun a b => Text.bytes a.1 < Text.bytes b.1
  conditions : s.select.conditions = s.query.lookups.entries.map (fun e => e.2.condition e.1) ++
    match s.term with
    | some term => [.found (.text (Term.matchExpression term))]
    | none => []
  inner_conditions : s.inner.conditions = s.select.conditions
  lookup : ∀ e ∈ s.query.lookups.entries,
    (e.2.condition e.1).operands = Lookup.asked e.1 e.2.value ∧
      (e.2.condition e.1).sql Select.hole = "(" ++ e.2.predicate.sql ++ ")"
  sql : Fills s.sql (s.parameters.map write) (s.select.sql write)
  countSql : Fills s.countSql (s.parameters.map write)
    ("SELECT COUNT(*) FROM (" ++ s.inner.sql write ++ ")")
  schemaGroupsSql : Fills s.schemaGroupsSql (s.parameters.map write)
    ("SELECT schema, COUNT(*) FROM (" ++ s.inner.sql write ++ ") GROUP BY schema")

/-- **The texts of a reachable search are filled with its values.** -/
theorem aligned (h : s.Reachable table registry) (hr : registry.Wordy)
    (ht : EntityTable.isName table = true) (write : Json → String) : s.Aligned write := by
  have hselect := Select.fills write (select_plain h hr ht)
  have hinner := Select.fills write (inner_plain h hr ht)
  have hparameters : s.inner.operands = s.parameters := (parameters_eq h).symm
  rw [hparameters] at hinner
  rw [← parameters_eq h] at hselect
  refine ⟨?_, rfl, rfl, fun e he => ⟨Lookup.operands_condition e.1 e.2, ?_⟩, ?_, ?_, ?_⟩
  · exact s.query.lookups.increasing.imp fun hlt => Text.bytes_lt_iff.2 hlt
  · exact Lookup.sql_condition (h.query.sound.compiled e.1 e.2 (Dict.mem_entries_iff.1 he))
  · rw [sql_eq h]
    exact hselect
  · have hopen : Text.Plain "SELECT COUNT(*) FROM (" := by decide
    rw [countSql_eq h]
    exact (hinner.plain_append hopen).append_plain (by decide)
  · have hopen : Text.Plain "SELECT schema, COUNT(*) FROM (" := by decide
    rw [schemaGroupsSql_eq h]
    exact (hinner.plain_append hopen).append_plain (by decide)

end Search

end EntityQuery
