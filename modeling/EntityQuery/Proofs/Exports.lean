import Mathlib.Tactic
import EntityQuery.Proofs.FanOut
import EntityQuery.Proofs.Names
import EntityQuery.Registry.Model

/-!
# Columns of the inner statement

An aggregate statement has the rows of another statement as its `t`, and that statement selects the
id, the schema and the document of each entity, and extractions. Whatever is extracted is extracted
from the document. But a column is read as it is, and the inner statement selects no column for its
sake.

* `Select.Summary`: an aggregate statement as a tree, around the text of the inner one;
* `Select.exports`, `Query.exports_inner`: the columns that a statement has when it is a source;
* `Field.sql_summary`, `Field.mem_reads_summary`: the statement for a field, and what it reads;
* **`Aggregation.reads_base_iff`**: aggregate statements read only what each inner statement selects
  exactly where every column that is aggregated is one of these.
-/

namespace EntityQuery

variable {table : String} {registry : Registry}

/-! ## Trees -/

namespace Select

/-- The columns of `t` that an expression reads. Extractions are made from the document. -/
def Expression.reads : Expression → List String
  | .column .entity name => [name]
  | .extraction _ => ["entity"]
  | .first list => list.reads
  | .number value => value.reads
  | .column .property _ | .column .index _ | .bare _ | .selected _ | .element => []

/-- The name of what is selected, if it has one. -/
def Item.exported? (item : Item) : Option String :=
  match item.name, item.expression with
  | some name, _ => some name
  | none, .column _ name => some name
  | none, _ => none

/-- The columns that the rows of a tree have where they are a source. -/
def exports (s : Select) : List String := s.items.filterMap Item.exported?

/-- A statement that applies a function to all rows of an inner one, called `t`: to an expression,
for each value of a list if there is one. -/
structure Summary where
  function : Aggregate
  subject : Expression
  list : Option Expression

/-- The text of a summary of the rows of an inner statement. -/
def Summary.sql (s : Summary) (inner : String) : String :=
  "SELECT " ++ s.function.sql s.subject.sql ++ " AS " ++ s.function.resultName ++ " FROM (" ++
    inner ++ ") t" ++
      match s.list with
      | some list => ", json_each(" ++ list.sql ++ ")"
      | none => ""

/-- The columns of `t` that a summary reads. -/
def Summary.reads (s : Summary) : List String :=
  s.subject.reads ++
    match s.list with
    | some list => list.reads
    | none => []

end Select

/-! ## The summary for a field -/

open Select in
/-- The summary for a field and a function: of a column or a single extracted value, or of each
value of an extracted list. -/
def Field.summary (f : Aggregate) : Field → Summary
  | .column name => ⟨f, .column .entity name, none⟩
  | .scalar _ path => ⟨f, .extraction path, none⟩
  | .datasets => ⟨f, .element, some (.extraction "datasets")⟩
  | .property name _ => ⟨f, .element, some (.extraction ("properties." ++ name))⟩
  | .list _ path => ⟨f, .element, some (.extraction path)⟩
  | .reverse => ⟨f, .column .property "value", none⟩

theorem Field.sql_summary (field : Field) (f : Aggregate) (inner : String) :
    (field.summary f).sql inner = Aggregation.statementSql inner field f := by
  rw [Aggregation.statementSql_eq]
  cases field <;> rfl

theorem Field.mem_reads_summary {field : Field} {f : Aggregate} {name : String} :
    name ∈ (field.summary f).reads ↔
      field = .column name ∨ field.path?.isSome ∧ name = "entity" := by
  cases field <;>
    simp [summary, Select.Summary.reads, Select.Expression.reads, path?, eq_comm]

/-- A key is given a column only if it names a meta field other than the list of datasets. -/
theorem Field.isMeta_of_resolve {key name : String}
    (h : Field.resolve registry key = .ok (.column name)) :
    registry.isMeta name = true ∧ name ≠ Field.datasetName := by
  unfold Field.resolve at h
  cases ho : Field.ofName? registry (Key.base key) with
  | none => simp [ho] at h
  | some field =>
    simp only [ho, Except.ok.injEq] at h
    subst h
    unfold Field.ofName? at ho
    split_ifs at ho
    · cases ho
    · unfold Field.extra? at ho
      simp only at ho
      split_ifs at ho <;> cases ho
    · unfold Field.declared? at ho
      split_ifs at ho with hm hd
      all_goals cases ho
      exact ⟨hm, by simpa using hd⟩

namespace Aggregation

/-- The columns that each statement of a query selects. -/
def baseNames : List String := ["id", "schema", "entity"]

/-- The name is, to a database, that of a column that each statement of a query selects. -/
def IsBase (name : String) : Prop := ∃ base ∈ baseNames, SameName base name

instance (name : String) : Decidable (IsBase name) := by unfold IsBase; infer_instance

/-- The summaries of the pairs of an aggregation, in order. -/
def summaries (a : Aggregation) : List Select.Summary :=
  a.requested.pairs.filterMap fun p => (a.fields.get? p.1).map (Field.summary p.2)

/-- All columns that the summaries read are columns that each statement of a query selects. -/
def ReadsBase (a : Aggregation) : Prop := ∀ s ∈ a.summaries, ∀ name ∈ s.reads, IsBase name

end Aggregation

/-- Inside an aggregate statement are the base columns and what is extracted for the lookups. -/
theorem Query.exports_inner (q : Query) :
    q.inner.exports = Aggregation.baseNames ++ q.unpaged.paths.keys := by
  have hitems : q.inner.items =
      Aggregation.baseNames.map (fun name => ⟨.column .entity name, none⟩) ++
        q.unpaged.paths.entries.map fun e => ⟨.extraction e.2, some e.1⟩ := rfl
  rw [Select.exports, hitems, List.filterMap_append, List.filterMap_map, List.filterMap_map,
    Dict.keys]
  congr 1
  exact congrFun List.filterMap_eq_map _

namespace Aggregation

variable {q : Query} {requested : Aggregations} {a : Aggregation}

theorem sql_statements (h : q.Reachable table registry) (ha : new q requested = .ok a) :
    a.statements.map (·.sql) = a.summaries.map (·.sql (q.inner.sql Select.hole)) := by
  have hinner : q.unpaged.statement = q.inner.statement Select.hole :=
    Search.inner_statement (Search.reachable_of_query h)
  rw [statements, summaries, query_eq ha, hinner, List.map_filterMap, List.map_filterMap]
  refine List.filterMap_congr fun p _ => ?_
  rw [Option.map_map, Option.map_map]
  refine congrArg (Option.map · _) (funext fun field => ?_)
  exact (Field.sql_summary field p.2 _).symm

theorem readsBase_iff (ha : new q requested = .ok a) : a.ReadsBase ↔
    ∀ p ∈ requested.pairs, ∀ name, Field.resolve q.registry p.1 = .ok (.column name) →
      IsBase name := by
  constructor
  · intro h p hp name hname
    obtain ⟨field, hfield, hresolve, -⟩ := field_of_mem ha hp
    rw [hresolve, Except.ok.injEq] at hname
    refine h (field.summary p.2) ?_ name (Field.mem_reads_summary.2 (.inl hname))
    rw [summaries, requested_eq ha]
    exact List.mem_filterMap.2 ⟨p, hp, by rw [hfield]; rfl⟩
  · intro h s hs name hname
    rw [summaries, requested_eq ha, List.mem_filterMap] at hs
    obtain ⟨p, hp, hs⟩ := hs
    obtain ⟨field, hfield, hresolve, -⟩ := field_of_mem ha hp
    rw [hfield, Option.map_some, Option.some.injEq] at hs
    rw [← hs, Field.mem_reads_summary] at hname
    rcases hname with rfl | ⟨-, rfl⟩
    · exact h p hp name hresolve
    · exact ⟨"entity", by decide, rfl⟩

/-- A column can be aggregated alone, over every row of a table. -/
theorem exists_new_column {key name : String}
    (h : Field.resolve registry key = .ok (.column name)) :
    ∃ a, new (.new table registry) (Aggregations.empty.add .count key) = .ok a := by
  cases ha : new (.new table registry) (Aggregations.empty.add .count key) with
  | ok a => exact ⟨a, rfl⟩
  | error e =>
    have hlisted := Aggregations.listed_empty.add .count key
    obtain ⟨⟨field, hfield, hunserved⟩, -⟩ := resolveAll_refused (Outcome.map_eq_error_iff.1 ha)
    obtain ⟨f, hf⟩ := hlisted.exists_mem_pairs hfield
    rcases Aggregations.mem_pairs_add.1 hf with ⟨rfl, -⟩ | hf
    · rcases hunserved with ⟨e, he⟩ | hr
      · exact absurd (h.symm.trans he) (by simp)
      · exact absurd (h.symm.trans hr) (by simp)
    · exact absurd hf List.not_mem_nil

/-- **Aggregate statements read base columns only, exactly where no other column is aggregated.**
Each statement of an accepted aggregation is a summary of its inner statement, which selects the
base columns whatever is aggregated. By a registry all accepted aggregations read nothing else
exactly if it gives no key another column. -/
theorem reads_base_iff (registry : Registry) :
    (∀ table q requested a, q.Reachable table registry → new q requested = .ok a →
      a.statements.map (·.sql) = a.summaries.map (·.sql (q.inner.sql Select.hole)) ∧
      q.inner.exports = baseNames ++ q.unpaged.paths.keys ∧
      (a.ReadsBase ↔ ∀ p ∈ requested.pairs, ∀ name,
        Field.resolve registry p.1 = .ok (.column name) → IsBase name)) ∧
    ((∀ table q requested a, q.Reachable table registry → new q requested = .ok a → a.ReadsBase) ↔
      ∀ key name, Field.resolve registry key = .ok (.column name) → IsBase name) := by
  have hone : ∀ {table q requested a}, q.Reachable table registry → new q requested = .ok a →
      (a.ReadsBase ↔ ∀ p ∈ requested.pairs, ∀ name,
        Field.resolve registry p.1 = .ok (.column name) → IsBase name) := by
    intro table q requested a h ha
    rw [readsBase_iff ha, h.sound.registry_eq]
  refine ⟨fun table q requested a h ha => ⟨sql_statements h ha, q.exports_inner, hone h ha⟩, ?_⟩
  constructor
  · intro hall key name hkey
    obtain ⟨a, ha⟩ := @exists_new_column "entities" registry key name hkey
    refine (hone .new ha).1 (hall _ _ _ a .new ha) (key, .count) ?_ name hkey
    exact Aggregations.mem_pairs_add.2 (.inl ⟨rfl, rfl⟩)
  · intro hall table q requested a h ha
    exact (hone h ha).2 fun p _ name hname => hall p.1 name hname

/-- The bundled model gives keys no other columns, so by it every accepted aggregation reads base
columns only: say, a sum of a property's values and a count of schemata. -/
theorem bundled_reads_base :
    (∀ table q requested a, q.Reachable table Model.bundled.registry →
      new q requested = .ok a → a.ReadsBase) ∧
    ∃ q a, q.Reachable "ftm" Model.bundled.registry ∧
      q.lookupFields = [.scalar "context.foo" "foo"] ∧
      new q ((Aggregations.empty.add .sum "amount").add .count "schema") = .ok a ∧
      a.summaries.map (·.reads) = [["entity"], ["schema"]] ∧ a.ReadsBase ∧
      a.statements.map (·.sql) = a.summaries.map (·.sql (q.inner.sql Select.hole)) ∧
      q.inner.exports = ["id", "schema", "entity", "context_foo"] := by
  have hall : ∀ table q requested a, q.Reachable table Model.bundled.registry →
      new q requested = .ok a → a.ReadsBase := by
    refine (reads_base_iff Model.bundled.registry).2.2 fun key name h => ?_
    obtain ⟨hmeta, hne⟩ := Field.isMeta_of_resolve h
    have hname : name ∈ Model.defaultMetaFields := List.contains_iff_mem.1 hmeta
    have hbase : ∀ name ∈ Model.defaultMetaFields, name ≠ Field.datasetName → IsBase name := by
      decide
    exact hbase name hname hne
  refine ⟨hall, ?_⟩
  obtain ⟨q, a, hq, ha, hlookups, hreads, hpaths⟩ : ∃ q a,
      (Query.Step.filter "context.foo" (.text "x")).run (.new "ftm" Model.bundled.registry) =
        .ok q ∧
      new q ((Aggregations.empty.add .sum "amount").add .count "schema") = .ok a ∧
      q.lookupFields = [.scalar "context.foo" "foo"] ∧
      a.summaries.map (·.reads) = [["entity"], ["schema"]] ∧
      q.unpaged.paths.keys = ["context_foo"] :=
    ⟨_, _, rfl, rfl, rfl, by decide +kernel, by decide +kernel⟩
  have h : q.Reachable "ftm" Model.bundled.registry := .step _ .new hq
  obtain ⟨hsql, hexports, -⟩ := (reads_base_iff Model.bundled.registry).1 _ _ _ _ h ha
  rw [hpaths] at hexports
  exact ⟨q, a, h, hlookups, ha, hreads, hall _ _ _ _ h ha, hsql, hexports⟩

/-- With one more meta field a statement reads a column that its inner statement does not have under
any name. -/
theorem origin_not_exported : ∃ q a,
    q.Reachable "ftm" (Model.empty.withMetaField "origin").registry ∧
      new q (Aggregations.empty.add .count "origin") = .ok a ∧
      a.statements.map (·.sql) =
        ["SELECT COUNT(t.origin) AS aggCount FROM (SELECT t.id, t.schema, t.entity FROM ftm t) t"] ∧
      (∃ s ∈ a.summaries, "origin" ∈ s.reads) ∧
      ∀ name ∈ q.inner.exports, ¬ SameName name "origin" := by
  refine ⟨_, _, .new, rfl, by decide +kernel, ?_, by decide +kernel⟩
  exact ⟨_, List.mem_singleton.2 rfl, by decide⟩

end Aggregation

end EntityQuery
