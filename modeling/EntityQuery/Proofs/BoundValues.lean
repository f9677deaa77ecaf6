import Mathlib.Tactic
import EntityQuery.Proofs.Calls
import EntityQuery.Proofs.Placeholders

/-!
# Bound values

What a store gives to its database has a question mark for each value, and each value stands for
what it was asked for by.

* `Aggregation.fills`: aggregate statements are filled with their values;
* `Store.makes_put_balanced`: changes have a question mark for each value;
* **`values_aligned`**: all texts of searches, queries and aggregations are filled with their
  values, and these texts and values are what a store gives to its database.
-/

namespace EntityQuery

open Text

variable {table : String} {registry : Registry}

/-! ## Aggregations -/

namespace Aggregation

/-- Each field is the one that its name can be ordered by. -/
def Named (registry : Registry) (fields : Dict Field) : Prop :=
  ∀ name f, fields.get? name = some f → Query.orderField registry name = .ok f

theorem Named.insert {fields : Dict Field} (h : Named registry fields) {name : String} {f : Field}
    (hf : Query.orderField registry name = .ok f) : Named registry (fields.insert name f) := by
  intro key g hg
  rw [Dict.get?_insert] at hg
  split_ifs at hg with hkey
  · cases hg
    rw [hkey]
    exact hf
  · exact h key g hg

theorem named_resolveAll {names : List String} {fields : Dict Field}
    (h : resolveAll registry names = .ok fields) : Named registry fields := by
  have hempty : Named registry .empty := by simp [Named]
  refine Outcome.foldlM_induct (fun fields name fields' hfields hname => ?_) hempty h
  obtain ⟨f, hf, rfl⟩ := Outcome.map_eq_ok_iff.1 hname
  exact hfields.insert hf

theorem named_fields {q : Query} {requested : Aggregations} {a : Aggregation}
    (h : new q requested = .ok a) : Named q.registry a.fields := by
  obtain ⟨fields, hfields, rfl⟩ := Outcome.map_eq_ok_iff.1 h
  exact named_resolveAll hfields

/-- The fields of an aggregation are those that their names stand for. -/
theorem resolve_of_get? {q : Query} {requested : Aggregations} {a : Aggregation}
    (h : q.Reachable table registry) (ha : new q requested = .ok a) {name : String} {field : Field}
    (hfield : a.fields.get? name = some field) : Field.resolve registry name = .ok field := by
  have horder := named_fields ha name field hfield
  rw [h.sound.registry_eq] at horder
  exact (Query.orderField_eq_ok_iff.1 horder).1

theorem plain_extraction {path : String} (h : Plain path) : Plain (Field.extraction path) := by
  have hopen : Plain "json_extract(t.entity, '$." := by decide
  exact (hopen.append h).append (by decide)

theorem plain_argument {field : Field} (h : field.Plain) : Plain (argument field) := by
  have hvalue : Plain "value" := by decide
  cases field with
  | column | reverse => exact h.reference
  | scalar name path => exact plain_extraction (h.path path rfl)
  | datasets | property | list => exact hvalue

theorem plain_listSource {field : Field} (h : field.Plain) : Plain (listSource field) := by
  have hempty : Plain "" := by decide
  have hlist : ∀ path, field.path? = some path →
      Plain (", json_each(" ++ Field.extraction path ++ ")") := by
    intro path hpath
    have heach : Plain ", json_each(" := by decide
    exact (heach.append (plain_extraction (h.path path hpath))).append (by decide)
  cases field with
  | column | reverse | scalar => exact hempty
  | datasets | property | list => exact hlist _ rfl

theorem fills_statementSql {field : Field} (h : field.Plain) (f : Aggregate)
    {inner inner' : String} {values : List String} (hinner : Fills inner values inner') :
    Fills (statementSql inner field f) values (statementSql inner' field f) := by
  have hselect : Plain "SELECT " := by decide
  have has : Plain " AS " := by decide
  have hfrom : Plain " FROM (" := by decide
  have hend : Plain ") t" := by decide
  have hclose : Plain ")" := by decide
  have hname : Plain f.resultName := by cases f <;> decide
  have hfunction : Plain (f.sql (argument field)) := by
    refine (Plain.append ?_ (plain_argument h)).append hclose
    cases f <;> decide
  have hopen := (((hselect.append hfunction).append has).append hname).append hfrom
  rw [statementSql_eq, statementSql_eq]
  exact ((hinner.plain_append hopen).append_plain hend).append_plain (plain_listSource h)

/-- Each aggregate statement is filled with its values. -/
theorem fills {q : Query} {requested : Aggregations} {a : Aggregation}
    (h : q.Reachable table registry) (hr : registry.Wordy)
    (ht : EntityTable.isName table = true) (ha : new q requested = .ok a) (write : Json → String)
    {st : AggregateStatement} (hst : st ∈ a.statements) :
    ∃ field, a.fields.get? st.field = some field ∧
      Fills st.sql (st.parameters.map write)
        (statementSql (q.inner.sql write) field st.function) := by
  obtain ⟨field, hfield, hsql, hparameters⟩ := sql_of_mem h ha hst
  have hplain := Field.plain_of_resolve hr (resolve_of_get? h ha hfield)
  have hinner := Select.fills write (Search.inner_plain (Search.reachable_of_query h) hr ht)
  refine ⟨field, hfield, ?_⟩
  rw [hsql, hparameters]
  exact fills_statementSql hplain st.function hinner

end Aggregation

/-! ## Stores -/

/-- A call has a question mark for each value. -/
def Call.Balanced (call : Call) : Prop := call.sql.toList.count '?' = call.parameters.length

theorem count_around {name : String} (h : Plain name) (before after : String) :
    (before ++ name ++ after).toList.count '?' =
      before.toList.count '?' + after.toList.count '?' := by
  have hname : name.toList.count '?' = 0 := List.count_eq_zero.2 h
  rw [String.toList_append, String.toList_append, List.count_append, List.count_append, hname,
    Nat.add_zero]

namespace EntityTable

variable {t : EntityTable}

theorem new_eq_ok (h : EntityTable.new table = .ok t) : isName table = true ∧ t.name = table := by
  unfold EntityTable.new at h
  split_ifs at h with ht
  cases h
  exact ⟨ht, rfl⟩

/-- The names in a table hold no question mark. -/
structure Plain (t : EntityTable) : Prop where
  name : Text.Plain t.name
  columns : ∀ c ∈ t.columns, Text.Plain c.name
  indexes : ∀ i ∈ t.indexes, Text.Plain i.name ∧ ∀ column ∈ i.columns, Text.Plain column

theorem plain_of_new (h : EntityTable.new table = .ok t) : t.Plain := by
  have ht : Text.Plain table := plain_of_isName (new_eq_ok h).1
  have hidx : Text.Plain "idx_" := by decide
  have hcolumns : ∀ name ∈ ["id", "schema", "dataset", "entity"], Text.Plain name := by decide
  unfold EntityTable.new at h
  split_ifs at h
  cases h
  refine ⟨ht, fun c hc => hcolumns c.name ?_, fun i hi => ?_⟩
  · exact List.mem_map_of_mem (f := Column.name) hc
  · rcases List.mem_pair.1 hi with rfl | rfl
    · exact ⟨(hidx.append ht).append (by decide), by simp; decide⟩
    · exact ⟨(hidx.append ht).append (by decide), by simp; decide⟩

theorem plain_tableDefinition (h : t.Plain) : Text.Plain t.tableDefinition := by
  have hcreate : Text.Plain "CREATE TABLE IF NOT EXISTS " := by decide
  have hopen : Text.Plain " (\n" := by decide
  have hindent : Text.Plain "    " := by decide
  have hspace : Text.Plain " " := by decide
  have hcolumns : Text.Plain (",\n".intercalate (t.columns.map columnDefinition)) := by
    refine Text.Plain.intercalate (by decide) fun text htext => ?_
    obtain ⟨c, hc, rfl⟩ := List.mem_map.1 htext
    have htype : Text.Plain c.type.word := by cases c.type <;> decide
    refine (((hindent.append (h.columns c hc)).append hspace).append htype).append ?_
    cases c.nullable <;> decide
  exact (((hcreate.append h.name).append hopen).append hcolumns).append (by decide)

theorem plain_indexDefinition (h : t.Plain) {i : Index} (hi : i ∈ t.indexes) :
    Text.Plain (t.indexDefinition i) := by
  have hcreate : Text.Plain "CREATE " := by decide
  have hunique : Text.Plain (if i.unique then "UNIQUE " else "") := by
    cases i.unique <;> decide
  have hindex : Text.Plain "INDEX IF NOT EXISTS " := by decide
  have hon : Text.Plain " ON " := by decide
  have hopen : Text.Plain " (" := by decide
  have hcolumns : Text.Plain (", ".intercalate i.columns) :=
    Text.Plain.intercalate (by decide) (h.indexes i hi).2
  have hname := ((hcreate.append hunique).append hindex).append (h.indexes i hi).1
  exact ((((hname.append hon).append h.name).append hopen).append hcolumns).append (by decide)

theorem plain_definitions (h : t.Plain) {sql : String} (hsql : sql ∈ t.definitions) :
    Text.Plain sql := by
  rcases List.mem_append.1 hsql with hsql | hsql
  · rcases List.mem_cons.1 hsql with rfl | hsql
    · exact plain_tableDefinition h
    · obtain ⟨i, hi, rfl⟩ := List.mem_map.1 hsql
      exact plain_indexDefinition h hi
  · have hcreate : Text.Plain "CREATE VIRTUAL TABLE IF NOT EXISTS " := by decide
    have hending : Text.Plain Search.indexEnding := by decide
    rw [List.mem_singleton.1 hsql]
    exact (hcreate.append (h.name.append hending)).append (by decide)

end EntityTable

namespace Store

variable {σ : Type} {s : Store}

theorem makes_create_balanced (h : s.table.Plain) (db : Database σ) :
    (s.create db.recorded).Makes Call.Balanced :=
  makes_create db fun _ hsql => List.count_eq_zero.2 (EntityTable.plain_definitions h hsql)

theorem makes_put_balanced (h : s.table.Plain) (db : Database σ) (e : Entity) :
    (s.put db.recorded e).Makes Call.Balanced := by
  have hending : Plain Search.indexEnding := by decide
  have hindex : Plain s.table.indexTable := h.name.append hending
  refine makes_put db ?_ ?_ ?_
  · have hcount : "INSERT OR REPLACE INTO ".toList.count '?' +
        " (id, schema, dataset, entity) VALUES (?, ?, ?, ?)".toList.count '?' = 4 := by decide
    exact (count_around h.name _ _).trans hcount
  · have hcount : "DELETE FROM ".toList.count '?' + " WHERE id = ?".toList.count '?' = 1 := by
      decide
    exact (count_around hindex _ _).trans hcount
  · have hcount : "INSERT INTO ".toList.count '?' +
        " (id, text) VALUES (?, ?)".toList.count '?' = 2 := by decide
    exact (count_around hindex _ _).trans hcount

end Store

/-! ## All values -/

/-- **All texts are filled with the values that are bound to them, and a store gives its database
these texts with these values.** This holds over every registry of plain names and every table that
is accepted, whatever texts are put in the places of the values. -/
theorem values_aligned (hr : registry.Wordy) {t : EntityTable}
    (ht : EntityTable.new table = .ok t) (write : Json → String) :
    (∀ s : Search, s.Reachable table registry → s.Aligned write) ∧
    (∀ q : Query, q.Reachable table registry →
      (⟨q, none⟩ : Search).Aligned write ∧ q.sql = (⟨q, none⟩ : Search).sql ∧
      q.countSql = (⟨q, none⟩ : Search).countSql ∧
      q.schemaGroupsSql = (⟨q, none⟩ : Search).schemaGroupsSql ∧
      q.parameters = (⟨q, none⟩ : Search).parameters ∧
      ∀ requested a, Aggregation.new q requested = .ok a → ∀ st ∈ a.statements, ∃ field,
        a.fields.get? st.field = some field ∧
          Fills st.sql (st.parameters.map write)
            (Aggregation.statementSql (q.inner.sql write) field st.function)) ∧
    ∀ (σ : Type) (db : Database σ),
      (∀ s : Search, s.Reachable table registry →
        (Store.search db.recorded s).Makes (· = ⟨s.sql, s.parameters⟩)) ∧
      (∀ q : Query, q.Reachable table registry →
        (Store.entities db.recorded q).Makes (· = ⟨q.sql, q.parameters⟩) ∧
        (Store.count db.recorded q).Makes (· = ⟨q.countSql, q.parameters⟩) ∧
        (Store.stats db.recorded q).Makes (· = ⟨q.schemaGroupsSql, q.parameters⟩) ∧
        ∀ requested a, Aggregation.new q requested = .ok a →
          (Store.aggregations db.recorded a).Makes
            (fun call => ∃ st ∈ a.statements, call = ⟨st.sql, st.parameters⟩)) ∧
      ∀ store, Store.new table registry = .ok store →
        (store.create db.recorded).Makes Call.Balanced ∧
        (∀ e, (store.put db.recorded e).Makes Call.Balanced) ∧
        ∀ es, (store.putAll db.recorded es).Makes Call.Balanced := by
  have hname := (EntityTable.new_eq_ok ht).1
  refine ⟨fun s h => Search.aligned h hr hname write, fun q h => ?_, fun σ db => ⟨?_, ?_, ?_⟩⟩
  · refine ⟨Search.aligned (Search.reachable_of_query h) hr hname write, rfl, rfl, rfl, rfl, ?_⟩
    exact fun requested a ha st hst => Aggregation.fills h hr hname ha write hst
  · exact fun s _ => Store.makes_found db rfl
  · intro q _
    refine ⟨Store.makes_found db rfl, Store.makes_count db rfl, Store.makes_stats db rfl, ?_⟩
    exact fun requested a _ => Store.makes_aggregations db fun st hst => ⟨st, hst, rfl⟩
  · intro store hstore
    have hplain : store.table.Plain := by
      rw [Store.new, ht] at hstore
      cases hstore
      exact EntityTable.plain_of_new ht
    have hput := Store.makes_put_balanced hplain db
    refine ⟨Store.makes_create_balanced hplain db, hput, fun es => ?_⟩
    exact Store.makes_putAll db fun e _ => hput e

/-- A question mark in a value takes the place of none in the text. -/
theorem values_aligned_bundled : ∃ q, Query.Reachable "ftm" Model.bundled.registry q ∧
    q.parameters = [.text "sanctions?", .text "companies"] ∧
      (⟨q, none⟩ : Search).Aligned Json.compact := by
  have hq : (Query.Step.filter "dataset" (.array [.text "sanctions?", .text "companies"])).run
      (.new "ftm" Model.bundled.registry) = .ok _ := rfl
  have h := Query.Reachable.step _ .new hq
  have haligned := @values_aligned "ftm" _ Model.wordy_bundled _ rfl Json.compact
  exact ⟨_, h, rfl, (haligned.2.1 _ h).1⟩

end EntityQuery
