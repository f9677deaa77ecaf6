import Mathlib.Tactic
import EntityQuery.Proofs.BoundValues
import EntityQuery.Proofs.Literals

/-!
# Keys in statements

Any text may be offered as a key. Of one that is accepted, a statement holds the name if a registry
declares it, or else its slug, and its path in a literal. All of these are words and paths, so that
no key adds to a statement anything that a reader of SQL would take for more than a name.

* `Field.Vetted`, `Field.vetted_of_resolve`: what a statement shows of an accepted key;
* `Select.Vetted`, `Select.inert`: a tree whose names are words, and whose paths are words with
  points between them, is written as an inert text;
* **`keys_cannot_inject`**: the fields of all keys are vetted, and all texts of reachable queries,
  searches and aggregations are contained.
-/

namespace EntityQuery

open Text

variable {table : String} {registry : Registry}

/-! ## Fields -/

namespace Field

/-- What a statement shows of a field is the extraction of a path, and a slug, a qualified column or
the value of any property. -/
structure Vetted (registry : Registry) (f : Field) : Prop where
  expression : ∀ expression, f.expression? = some expression → ∃ path : String,
    IsDotted path.toList ∧ expression = "json_extract(t.entity, '$." ++ path ++ "')"
  reference : IsWord f.reference.toList ∨
    (∃ name, registry.isMeta name = true ∧ f.reference = "t." ++ name) ∨ f.reference = "r.value"

namespace Resolved

variable {f : Field}

theorem isDotted_path (h : Resolved registry f) (hr : registry.Wordy) {path : String}
    (hpath : f.path? = some path) : IsDotted path.toList := by
  cases h with
  | column | reverse => cases hpath
  | datasets =>
    cases hpath
    exact isDotted_of_isWord (by decide) (by decide)
  | @property name hne hproperty =>
    cases hpath
    -- a property without a name would end the path in a point
    have hname : name.toList ≠ [] := fun he => hne (String.toList_eq_nil_iff.1 he)
    refine ⟨["properties".toList, name.toList], by simp, fun segment hs => ?_, by simp⟩
    rcases List.mem_pair.1 hs with rfl | rfl
    · exact ⟨by decide, by decide⟩
    · exact ⟨hname, hr name (.inr hproperty)⟩
  | scalar _ hdotted =>
    cases hpath
    exact hdotted
  | list hdotted =>
    cases hpath
    exact hdotted

/-- What is extracted is selected under a word. -/
theorem isWord_reference (h : Resolved registry f) {path : String} (hpath : f.path? = some path) :
    IsWord f.reference.toList := by
  cases h with
  | column | reverse => cases hpath
  | datasets => exact (by decide : IsWord "datasets".toList)
  | property | scalar | list => exact isWord_slug _

end Resolved

theorem vetted_of_resolve (hr : registry.Wordy) {key : String} {f : Field}
    (h : resolve registry key = .ok f) : f.Vetted registry := by
  have hresolved := resolved_of_resolve h
  refine ⟨fun expression he => ?_, ?_⟩
  · obtain ⟨path, hpath, rfl⟩ := Option.map_eq_some_iff.1 he
    exact ⟨path, hresolved.isDotted_path hr hpath, rfl⟩
  · cases hresolved with
    | @column name hmeta => exact .inr (.inl ⟨name, hmeta, rfl⟩)
    | datasets => exact .inl (by decide : IsWord "datasets".toList)
    | property | scalar | list => exact .inl (isWord_slug _)
    | reverse => exact .inr (.inr rfl)

end Field

/-! ## Trees -/

namespace Select

/-- The names in an expression are words, and its paths are words with points between them. -/
def Expression.Vetted : Expression → Prop
  | .column _ name | .bare name | .selected name => IsWord name.toList
  | .extraction path => IsDotted path.toList
  | .element => True
  | .first list => list.Vetted
  | .number value => value.Vetted

/-- The names in a source are words. -/
def Source.Vetted : Source → Prop
  | .entities table | .found table => IsWord table.toList
  | .properties => True

/-- The names in what is selected are words, and its paths are words with points between them. -/
def Item.Vetted (item : Item) : Prop :=
  item.expression.Vetted ∧ ∀ name, item.name = some name → IsWord name.toList

/-- All names in a tree are words, and all paths are words with points between them. -/
structure Vetted (s : Select) : Prop where
  items : ∀ item ∈ s.items, item.Vetted
  sources : ∀ source ∈ s.sources, source.Vetted
  conditions : ∀ c ∈ s.conditions, ∀ e ∈ c.expressions, e.Vetted
  ordered : ∀ e ∈ s.ordered, e.Vetted

theorem inert_extraction {path : String} (h : IsDotted path.toList) :
    Inert ("json_extract(t.entity, '$." ++ path ++ "')") := by
  have hopen : Inert "json_extract(t.entity, " := inert_of_quiet (by decide)
  have hliteral : Inert ("'" ++ ("$." ++ path) ++ "')") :=
    inert_literal (by rw [String.toList_append]; exact .path h)
  have hsplit : "json_extract(t.entity, '$." ++ path ++ "')" =
      "json_extract(t.entity, " ++ ("'" ++ ("$." ++ path) ++ "')") := by
    apply String.toList_inj.1
    simp
  rw [hsplit]
  exact hopen.append hliteral

theorem Expression.inert {e : Expression} (h : e.Vetted) : Inert e.sql := by
  induction e with
  | column row name =>
    have hrow : Inert (row.word ++ ".") := by cases row <;> exact inert_of_quiet (by decide)
    rw [sql_column]
    exact hrow.append (inert_of_isWord h)
  | bare name | selected name => exact inert_of_isWord h
  | extraction path =>
    rw [sql_extraction]
    exact inert_extraction h
  | element => exact inert_of_quiet (by decide)
  | first list ih =>
    have hopen : Inert "json_extract(" := inert_of_quiet (by decide)
    have hcomma : Inert ", " := inert_of_quiet (by decide)
    have hfirst : Inert ("'" ++ "$[0]" ++ "')") := inert_literal .first
    have hclose : ", '$[0]')" = ", " ++ ("'" ++ "$[0]" ++ "')") := by decide
    rw [sql_first, hclose]
    exact (hopen.append (ih h)).append (hcomma.append hfirst)
  | number value ih =>
    have hopen : Inert "CAST(" := inert_of_quiet (by decide)
    rw [sql_number]
    exact (hopen.append (ih h)).append (inert_of_quiet (by decide))

theorem Item.inert {item : Item} (h : item.Vetted) : Inert item.sql := by
  obtain ⟨expression, name⟩ := item
  cases name with
  | none => exact Expression.inert h.1
  | some name =>
    have has : Inert " AS " := inert_of_quiet (by decide)
    exact ((Expression.inert h.1).append has).append (inert_of_isWord (h.2 name rfl))

theorem Source.inert {source : Source} (h : source.Vetted) : Inert source.sql := by
  cases source with
  | entities table => exact (inert_of_isWord h).append (inert_of_quiet (by decide))
  | found table =>
    have htable : Inert table := inert_of_isWord h
    have hjoin : Inert "__fts s LEFT JOIN " := inert_of_quiet (by decide)
    exact ((htable.append hjoin).append htable).append (inert_of_quiet (by decide))
  | properties =>
    have hopen : Inert "json_each(t.entity, " := inert_of_quiet (by decide)
    have hpath : IsDotted "properties".toList :=
      isDotted_of_isWord (by decide) (by decide)
    have hliteral : Inert ("'" ++ "$.properties" ++ "')") := inert_literal (.path hpath)
    have hsplit : "json_each(t.entity, '$.properties') r" =
        "json_each(t.entity, " ++ ("'" ++ "$.properties" ++ "')") ++ " r" := by decide
    rw [sql, hsplit]
    exact (hopen.append hliteral).append (inert_of_quiet (by decide))

theorem Comparison.inert (c : Comparison) (operands : List Json) :
    Inert (c.sql (operands.map hole)) := by
  have hoperands : Inert (", ".intercalate (operands.map hole)) := by
    refine Inert.intercalate (inert_of_quiet (by decide)) fun text htext => ?_
    obtain ⟨operand, -, rfl⟩ := List.mem_map.1 htext
    exact inert_of_quiet (by decide : IsQuiet "?")
  cases c with
  | relation r =>
    have hsign : Inert (" " ++ r.sign ++ " ") := by cases r <;> exact inert_of_quiet (by decide)
    exact hsign.append hoperands
  | among negated =>
    have hopen : Inert (if negated then " NOT IN (" else " IN (") := by
      cases negated <;> exact inert_of_quiet (by decide)
    exact (hopen.append hoperands).append (inert_of_quiet (by decide))
  | absent expected =>
    have hnull : Inert " IS NULL" := inert_of_quiet (by decide)
    have hnotNull : Inert " IS NOT NULL" := inert_of_quiet (by decide)
    cases expected
    · exact hnotNull
    · exact hnull

theorem Condition.inert {c : Condition} (h : ∀ e ∈ c.expressions, e.Vetted) :
    Inert (c.sql hole) := by
  have hclose : Inert ")" := inert_of_quiet (by decide)
  cases c with
  | compare subject c operands =>
    have hopen : Inert "(" := inert_of_quiet (by decide)
    have hsubject := Expression.inert (h subject (by simp [expressions]))
    exact ((hopen.append hsubject).append (c.inert operands)).append hclose
  | anyOf list subject c operands =>
    have hopen : Inert "(EXISTS (SELECT 1 FROM json_each(" := inert_of_quiet (by decide)
    have hwhere : Inert ") WHERE " := inert_of_quiet (by decide)
    have hlist := Expression.inert (h list (by simp [expressions]))
    have hsubject := Expression.inert (h subject (by simp [expressions]))
    exact ((((hopen.append hlist).append hwhere).append hsubject).append (c.inert operands)).append
      (inert_of_quiet (by decide))
  | found term => exact inert_of_quiet (by decide : IsQuiet "s.text MATCH ?")

theorem Order.inert {order : Order} (h : ∀ e ∈ order.items, e.Vetted) : Inert order.sql := by
  have hitems : Inert (", ".intercalate (order.items.map Expression.sql)) := by
    refine Inert.intercalate (inert_of_quiet (by decide)) fun text htext => ?_
    obtain ⟨e, he, rfl⟩ := List.mem_map.1 htext
    exact Expression.inert (h e he)
  refine hitems.append ?_
  cases order.direction with
  | none => exact inert_of_quiet (by decide)
  | some direction => cases direction <;> exact inert_of_quiet (by decide)

end Select

namespace Statement

theorem inert_spaced {part : Option String} (h : ∀ text, part = some text → Inert text) :
    Inert (spaced part) := by
  cases part with
  | none => exact inert_of_quiet (by decide)
  | some text =>
    have hspace : Inert " " := inert_of_quiet (by decide)
    exact hspace.append (h text rfl)

theorem inert_limitPart (s : Statement) : Inert (spaced s.limitPart) := by
  have hlimit : Inert "LIMIT " := inert_of_quiet (by decide)
  have hoffset : Inert " OFFSET " := inert_of_quiet (by decide)
  refine inert_spaced fun text htext => ?_
  unfold limitPart at htext
  split at htext
  · cases htext
  · rw [← Option.some.inj htext]
    exact ((hlimit.append (inert_repr _)).append hoffset).append (inert_repr _)

/-- A statement of inert parts is inert: the words between them are quiet, and so is its window. -/
theorem inert_render {s : Statement} (hselect : ∀ text ∈ s.select, Inert text)
    (hsource : Inert s.source) (hconditions : ∀ text ∈ s.conditions, Inert text)
    (horder : ∀ text, s.order = some text → Inert text) : Inert s.render := by
  have hopen : Inert "SELECT " := inert_of_quiet (by decide)
  have hfrom : Inert " FROM " := inert_of_quiet (by decide)
  have hcomma : Inert ", " := inert_of_quiet (by decide)
  have hand : Inert " AND " := inert_of_quiet (by decide)
  have hwhere : Inert "WHERE " := inert_of_quiet (by decide)
  have hby : Inert "ORDER BY " := inert_of_quiet (by decide)
  have hwherePart : Inert (spaced s.wherePart) := by
    refine inert_spaced fun text htext => ?_
    rw [wherePart] at htext
    split_ifs at htext
    rw [← Option.some.inj htext]
    exact hwhere.append (hand.intercalate hconditions)
  have horderPart : Inert (spaced s.orderPart) := by
    refine inert_spaced fun text htext => ?_
    obtain ⟨order, ho, rfl⟩ := Option.map_eq_some_iff.1 htext
    exact hby.append (horder order ho)
  have hselectPart := hopen.append (hcomma.intercalate hselect)
  exact ((((hselectPart.append hfrom).append hsource).append hwherePart).append horderPart).append
    s.inert_limitPart

end Statement

/-- A tree of words and paths is written as an inert text. -/
theorem Select.inert {s : Select} (h : s.Vetted) : Inert (s.sql hole) := by
  refine Statement.inert_render ?_ ?_ ?_ ?_
  · intro text htext
    obtain ⟨item, hitem, rfl⟩ := List.mem_map.1 htext
    exact Item.inert (h.items item hitem)
  · refine Inert.intercalate (inert_of_quiet (by decide)) fun text htext => ?_
    obtain ⟨source, hsource, rfl⟩ := List.mem_map.1 htext
    exact Source.inert (h.sources source hsource)
  · intro text htext
    obtain ⟨c, hc, rfl⟩ := List.mem_map.1 htext
    exact Condition.inert (h.conditions c hc)
  · intro text htext
    obtain ⟨order, ho, rfl⟩ := Option.map_eq_some_iff.1 htext
    refine Order.inert fun e he => h.ordered e ?_
    rw [ordered, ho]
    exact he

/-! ## Searches -/

namespace Field.Resolved

variable {f : Field}

theorem vetted_expression (h : Resolved registry f) (hr : registry.Wordy) :
    f.expression.Vetted := by
  cases h with
  | @column name hmeta => exact hr name (.inl hmeta)
  | datasets => exact (by decide : IsWord "datasets".toList)
  | property | scalar | list => exact isWord_slug _
  | reverse => exact (by decide : IsWord "value".toList)

theorem vetted_orderItem (h : Resolved registry f) (hr : registry.Wordy) (joined : Bool) :
    (f.orderItem joined).Vetted := by
  have hexpression := h.vetted_expression hr
  cases f with
  | column name => cases joined <;> exact hexpression
  | property name numeric => cases numeric <;> exact hexpression
  | datasets | scalar | list | reverse => exact hexpression

end Field.Resolved

theorem Query.Sound.resolved {q : Query} (h : q.Sound table registry) {f : Field}
    (hf : f ∈ q.fields) : f.Resolved registry := by
  obtain ⟨key, hkey⟩ := h.exists_resolve hf
  exact Field.resolved_of_resolve hkey

namespace Search

variable {s : Search}

theorem vetted_items (h : s.query.Sound table registry) (hr : registry.Wordy) {item : Select.Item}
    (hitem : item ∈ s.items) : item.Vetted := by
  rcases List.mem_append.1 hitem with hitem | hitem
  · have hbase : ∀ name ∈ ["id", "schema", "entity"], IsWord name.toList := by decide
    obtain ⟨name, hname, rfl⟩ := List.mem_map.1 hitem
    exact ⟨hbase name hname, by simp⟩
  · obtain ⟨e, he, rfl⟩ := List.mem_map.1 hitem
    obtain ⟨f, hf, hsome⟩ := List.mem_filterMap.1 (Dict.mem_of_mem_entries_ofList he)
    obtain ⟨path, hpath, rfl⟩ := Option.map_eq_some_iff.1 hsome
    have hresolved := h.resolved hf
    refine ⟨hresolved.isDotted_path hr hpath, fun name hname => ?_⟩
    rw [← Option.some.inj hname]
    exact hresolved.isWord_reference hpath

theorem vetted_sources (ht : IsWord s.query.table.toList) {source : Select.Source}
    (hsource : source ∈ s.sources) : source.Vetted := by
  rcases List.mem_cons.1 hsource with rfl | hsource
  · split <;> exact ht
  · split at hsource
    · rw [List.mem_singleton.1 hsource]
      trivial
    · exact absurd hsource List.not_mem_nil

theorem vetted_condition {key : String} {l : Lookup} (h : l.predicate.field.Resolved registry)
    (hr : registry.Wordy) {e : Select.Expression} (he : e ∈ (l.condition key).expressions) :
    e.Vetted := by
  have hexpression := h.vetted_expression hr
  have helement : (if l.predicate.field.isNumeric then
      Select.Expression.number .element else .element).Vetted := by
    split <;> trivial
  simp only [Lookup.condition] at he
  split at he
  · rcases List.mem_pair.1 he with rfl | rfl
    · exact hexpression
    · exact helement
  · rw [List.mem_singleton.1 he]
    exact hexpression

theorem select_vetted (h : s.query.Sound table registry) (hr : registry.Wordy)
    (ht : IsWord table.toList) : s.select.Vetted where
  items _ hitem := vetted_items h hr hitem
  sources _ hsource := vetted_sources (by rw [h.table_eq]; exact ht) hsource
  conditions c hc e he := by
    rcases mem_conditions.1 hc with ⟨key, l, hl, rfl⟩ | ⟨term, -, rfl⟩
    · have hfield := Query.mem_lookupFields.2 ⟨key, l, hl, rfl⟩
      exact vetted_condition (h.resolved (Query.mem_fields.2 (.inl hfield))) hr he
    · rw [List.mem_singleton.1 he]
      exact (by decide : IsWord "text".toList)
  ordered e he := by
    rcases mem_ordered he with ⟨f, hf, rfl⟩ | ⟨-, rfl⟩
    · exact (h.resolved (Query.mem_fields.2 (.inr hf))).vetted_orderItem hr _
    · exact (by decide : IsWord "rank".toList)

theorem inner_inert (h : s.Reachable table registry) (hr : registry.Wordy)
    (ht : IsWord table.toList) : Inert (s.inner.sql Select.hole) := by
  have hvetted := select_vetted h.unpaged.query.sound hr ht
  refine Select.inert ⟨hvetted.items, hvetted.sources, hvetted.conditions, fun _ he => ?_⟩
  exact absurd he List.not_mem_nil

/-- All texts of a search are contained. -/
structure Contained (s : Search) : Prop where
  sql : Text.Contained s.sql
  countSql : Text.Contained s.countSql
  schemaGroupsSql : Text.Contained s.schemaGroupsSql

theorem contained (h : s.Reachable table registry) (hr : registry.Wordy)
    (ht : IsWord table.toList) : s.Contained := by
  have hcount : Inert "SELECT COUNT(*) FROM (" := inert_of_quiet (by decide)
  have hgroups : Inert "SELECT schema, COUNT(*) FROM (" := inert_of_quiet (by decide)
  have hinner := inner_inert h hr ht
  refine ⟨?_, ?_, ?_⟩
  · rw [sql_eq h]
    exact (Select.inert (select_vetted h.query.sound hr ht)).contained
  · rw [countSql_eq h]
    exact ((hcount.append hinner).append (inert_of_quiet (by decide))).contained
  · rw [schemaGroupsSql_eq h]
    exact ((hgroups.append hinner).append (inert_of_quiet (by decide))).contained

end Search

/-! ## Aggregations -/

namespace Aggregation

variable {field : Field}

theorem inert_argument (h : field.Resolved registry) (hr : registry.Wordy) :
    Inert (argument field) := by
  have hvalue : Inert "value" := inert_of_quiet (by decide)
  have hexpression := Select.Expression.inert (h.vetted_expression hr)
  rw [Field.sql_expression] at hexpression
  cases h with
  | column | reverse => exact hexpression
  | datasets | property | list => exact hvalue
  | scalar _ hdotted => exact Select.inert_extraction hdotted

theorem inert_listSource (h : field.Resolved registry) (hr : registry.Wordy) :
    Inert (listSource field) := by
  have hempty : Inert "" := inert_of_quiet (by decide)
  have hlist : ∀ path, field.path? = some path →
      Inert (", json_each(" ++ Field.extraction path ++ ")") := by
    intro path hpath
    have hopen : Inert ", json_each(" := inert_of_quiet (by decide)
    have hextraction := Select.inert_extraction (h.isDotted_path hr hpath)
    exact (hopen.append hextraction).append (inert_of_quiet (by decide))
  cases h with
  | column | reverse | scalar => exact hempty
  | datasets | property | list => exact hlist _ rfl

theorem inert_statementSql (h : field.Resolved registry) (hr : registry.Wordy) (f : Aggregate)
    {inner : String} (hinner : Inert inner) : Inert (statementSql inner field f) := by
  have hselect : Inert "SELECT " := inert_of_quiet (by decide)
  have has : Inert " AS " := inert_of_quiet (by decide)
  have hname : Inert f.resultName := by cases f <;> exact inert_of_quiet (by decide)
  have hfrom : Inert " FROM (" := inert_of_quiet (by decide)
  have hend : Inert ") t" := inert_of_quiet (by decide)
  have hfunction : Inert (f.sql (argument field)) := by
    refine (Inert.append ?_ (inert_argument h hr)).append (inert_of_quiet (by decide))
    cases f <;> exact inert_of_quiet (by decide)
  have hopen := (((hselect.append hfunction).append has).append hname).append hfrom
  rw [statementSql_eq]
  exact ((hopen.append hinner).append hend).append (inert_listSource h hr)

variable {q : Query} {requested : Aggregations} {a : Aggregation}

theorem contained (h : q.Reachable table registry) (hr : registry.Wordy) (ht : IsWord table.toList)
    (ha : new q requested = .ok a) {st : AggregateStatement} (hst : st ∈ a.statements) :
    Contained st.sql := by
  obtain ⟨field, hfield, hsql, -⟩ := sql_of_mem h ha hst
  have hresolved := Field.resolved_of_resolve (resolve_of_get? h ha hfield)
  have hinner := Search.inner_inert (Search.reachable_of_query h) hr ht
  rw [hsql]
  exact (inert_statementSql hresolved hr st.function hinner).contained

end Aggregation

/-! ## All keys -/

/-- **No key reaches out of the place of a name.** Whatever text is accepted as a key of a lookup,
of an order or of an aggregation stands in statements as words and paths only, and so all texts of
reachable queries, searches and aggregations are contained: their literals are paths or the mark of
a first item, and the rest neither quotes, opens a comment nor ends the statement. -/
theorem keys_cannot_inject (hr : registry.Wordy) {t : EntityTable}
    (ht : EntityTable.new table = .ok t) :
    (∀ key value p, Predicate.compile registry key value = .ok p → p.field.Vetted registry) ∧
    (∀ key f, Query.orderField registry key = .ok f → f.Vetted registry) ∧
    (∀ q : Query, q.Reachable table registry →
      (∀ f ∈ q.fields, f.Vetted registry) ∧
      Contained q.sql ∧ Contained q.countSql ∧ Contained q.schemaGroupsSql ∧
      ∀ requested a, Aggregation.new q requested = .ok a →
        (∀ name f, a.fields.get? name = some f → f.Vetted registry) ∧
          ∀ st ∈ a.statements, Contained st.sql) ∧
    ∀ s : Search, s.Reachable table registry →
      Contained s.sql ∧ Contained s.countSql ∧ Contained s.schemaGroupsSql := by
  have hname := isWord_of_isName (EntityTable.new_eq_ok ht).1
  refine ⟨fun key value p hp => ?_, fun key f hf => ?_, fun q h => ?_, fun s h => ?_⟩
  · exact Field.vetted_of_resolve hr (Predicate.compile_eq_ok_iff.1 hp).1
  · exact Field.vetted_of_resolve hr (Query.orderField_eq_ok_iff.1 hf).1
  · have hsearch := Search.contained (Search.reachable_of_query h) hr hname
    refine ⟨fun f hf => ?_, hsearch.sql, hsearch.countSql, hsearch.schemaGroupsSql,
      fun requested a ha => ⟨fun name f hf => ?_, fun st hst => ?_⟩⟩
    · obtain ⟨key, hkey⟩ := h.sound.exists_resolve hf
      exact Field.vetted_of_resolve hr hkey
    · exact Field.vetted_of_resolve hr (Aggregation.resolve_of_get? h ha hf)
    · exact Aggregation.contained h hr hname ha hst
  · have hsearch := Search.contained h hr hname
    exact ⟨hsearch.sql, hsearch.countSql, hsearch.schemaGroupsSql⟩

/-- A list below an extra member, asked for a value that is written like SQL. -/
theorem list_key_contained : ∃ q, Query.Reachable "ftm" Model.bundled.registry q ∧
    q.parameters = [.text "'; --"] ∧
      q.sql = "SELECT t.id, t.schema, t.entity, json_extract(t.entity, '$.a.b') AS context_a_b " ++
        "FROM ftm t WHERE (EXISTS (SELECT 1 FROM json_each(context_a_b) WHERE value LIKE ?)) " ++
        "LIMIT -1 OFFSET 3" ∧ Contained q.sql := by
  have hq : (Query.Step.filter "context.a.b[]__like" (.text "'; --")).run
      (.new "ftm" Model.bundled.registry) = .ok _ := rfl
  have h := Query.Reachable.step (.slice (some 3) none none) (.step _ .new hq) rfl
  refine ⟨_, h, rfl, by decide +kernel, ?_⟩
  exact ((keys_cannot_inject Model.wordy_bundled rfl).2.2.1 _ h).2.1

end EntityQuery
