import Mathlib.Tactic
import EntityQuery.Proofs.Calls
import EntityQuery.Proofs.Select
import EntityQuery.Registry.Bundled

/-!
# All rows

Counts and aggregates are taken of all rows that the lookups of a query ask for. They are written
around one text, which has neither an order nor a window, so that it does not matter which order and
window the query has been given.

* `Search.allRows`: the text for all rows, up to the conditions;
* `Query.Step.Arranges`: the steps that change the order or the window only;
* `Query.unpaged_runAll`, `Search.unpaged_runAll`: however many of them leave all rows as they are;
* **`counts_over_all_rows`**: the texts around all rows, and the steps that leave them.
-/

namespace EntityQuery

/-- The text for all rows that a search finds: columns, sources and conditions, and nothing after
them. -/
def Search.allRows (s : Search) : String :=
  "SELECT " ++ ", ".intercalate s.query.unpaged.columns ++ " FROM " ++ s.statement.source ++
    Statement.spaced s.statement.wherePart

/-- The text for all rows that the lookups of a query ask for. -/
def Query.allRows (q : Query) : String := (⟨q, none⟩ : Search).allRows

/-- Without an order and a window, a statement ends with its conditions. -/
theorem Statement.render_unpaged (s : Statement) : s.unpaged.render =
    "SELECT " ++ s.selectPart ++ " FROM " ++ s.source ++ spaced s.wherePart := by
  have horder : spaced s.unpaged.orderPart = "" := rfl
  have hlimit : spaced s.unpaged.limitPart = "" := rfl
  rw [render, horder, hlimit, String.append_empty, String.append_empty]
  rfl

theorem Search.render_unpaged (s : Search) : s.unpaged.statement.unpaged.render = s.allRows := by
  rw [Statement.render_unpaged, allRows]
  obtain ⟨q, term⟩ := s
  cases term <;> rfl

theorem Query.sql_unpaged (q : Query) : q.unpaged.sql = q.allRows :=
  Search.render_unpaged ⟨q, none⟩

/-! ## Orders and windows -/

namespace Query

variable {q q' : Query} {steps : List Step}

/-- The step changes the order or the window, and no lookup. -/
def Step.Arranges : Step → Prop
  | .filterAll _ | .filter _ _ => False
  | .orderBy _ _ | .row _ | .slice _ _ _ | .page _ _ | .withLimit _ | .withOffset _ | .unpaged =>
    True

theorem SameButWindow.unpaged_eq (h : q.SameButWindow q') : q'.unpaged = q.unpaged := by
  obtain ⟨limit, offset, rfl⟩ := h
  rfl

theorem Step.unpaged_run {s : Step} (hs : s.Arranges) (h : s.run q = .ok q') :
    q'.unpaged = q.unpaged := by
  cases s with
  | filterAll filters => exact hs.elim
  | filter key value => exact hs.elim
  | orderBy keys direction =>
    obtain ⟨fields, -, -, rfl⟩ := orderBy_eq_ok_iff.1 h
    rfl
  | row index => exact (sameButWindow_of_row h).unpaged_eq
  | slice start stop step => exact (sameButWindow_of_slice h).unpaged_eq
  | page number size => exact (sameButWindow_of_page h).unpaged_eq
  | withLimit limit => exact (sameButWindow_of_withLimit h).unpaged_eq
  | withOffset offset => exact (sameButWindow_of_withOffset h).unpaged_eq
  | unpaged =>
    cases h
    rfl

/-- The query that steps make, one after the other. -/
def runAll (q : Query) (steps : List Step) : Except QueryError Query :=
  steps.foldlM (fun q s => s.run q) q

/-- However many orders and windows come one after the other, all rows are the same. -/
theorem unpaged_runAll (hs : ∀ s ∈ steps, s.Arranges) (h : q.runAll steps = .ok q') :
    q'.unpaged = q.unpaged :=
  Outcome.foldlM_view (fun s hmem _ _ hrun => Step.unpaged_run (hs s hmem) hrun) h

end Query

namespace Search

variable {s s' : Search} {steps : List Query.Step}

/-- The search that steps make, one after the other. -/
def runAll (s : Search) (steps : List Query.Step) : Except QueryError Search :=
  steps.foldlM (fun s step => s.step step.run) s

theorem unpaged_runAll (hs : ∀ step ∈ steps, step.Arranges) (h : s.runAll steps = .ok s') :
    s'.unpaged = s.unpaged := by
  refine Outcome.foldlM_view (fun step hmem p p' hrun => ?_) h
  obtain ⟨q, hq, rfl⟩ := Outcome.map_eq_ok_iff.1 hrun
  have hunpaged : q.unpaged = p.query.unpaged := Query.Step.unpaged_run (hs step hmem) hq
  rw [unpaged, unpaged, withQuery, withQuery, withQuery, hunpaged]

theorem parameters_unpaged (s : Search) : s.unpaged.parameters = s.parameters := by
  obtain ⟨q, term⟩ := s
  cases term <;> rfl

end Search

/-! ## Aggregates -/

namespace Aggregation

variable {q : Query} {requested : Aggregations} {a : Aggregation}

/-- An aggregate statement has the text for all rows inside, and binds the values of the query. -/
theorem sql_around_allRows (h : new q requested = .ok a) {st : AggregateStatement}
    (hst : st ∈ a.statements) : st.parameters = q.parameters ∧
      ∃ field, a.fields.get? st.field = some field ∧
        st.sql = "SELECT " ++ st.function.sql (argument field) ++ " AS " ++
          st.function.resultName ++ " FROM (" ++ q.unpaged.sql ++ ") t" ++ listSource field := by
  obtain ⟨fields, -, rfl⟩ := Outcome.map_eq_ok_iff.1 h
  obtain ⟨⟨name, f⟩, -, hsome⟩ := List.mem_filterMap.1 hst
  obtain ⟨field, hfield, rfl⟩ := Option.map_eq_some_iff.1 hsome
  exact ⟨rfl, field, hfield, statementSql_eq _ field f⟩

/-- What is asked of all rows is the same whatever the order and the window. -/
theorem statements_unpaged (q : Query) (requested : Aggregations) :
    (new q.unpaged requested).map statements = (new q requested).map statements := by
  rw [new, new, Outcome.map_map, Outcome.map_map]
  rfl

end Aggregation

/-! ## All statements -/

/-- **Counts and aggregates are taken of all rows that the lookups ask for.** They are written
around one text without an order and a window and bind the values of the query, and no order and no
window that a query or a search is given changes any of them. -/
theorem counts_over_all_rows :
    (∀ q : Query,
      q.unpaged.sql = q.allRows ∧
      q.countSql = "SELECT COUNT(*) FROM (" ++ q.unpaged.sql ++ ")" ∧
      q.schemaGroupsSql = "SELECT schema, COUNT(*) FROM (" ++ q.unpaged.sql ++
        ") GROUP BY schema" ∧
      (∀ (σ : Type) (db : Database σ),
        (Store.count db.recorded q).Makes (· = ⟨q.countSql, q.parameters⟩) ∧
        (Store.stats db.recorded q).Makes (· = ⟨q.schemaGroupsSql, q.parameters⟩)) ∧
      (∀ requested a, Aggregation.new q requested = .ok a → ∀ st ∈ a.statements,
        st.parameters = q.parameters ∧ ∃ field, a.fields.get? st.field = some field ∧
          st.sql = "SELECT " ++ st.function.sql (Aggregation.argument field) ++ " AS " ++
            st.function.resultName ++ " FROM (" ++ q.unpaged.sql ++ ") t" ++
            Aggregation.listSource field) ∧
      ∀ steps q', (∀ s ∈ steps, s.Arranges) → q.runAll steps = .ok q' →
        q'.unpaged.sql = q.unpaged.sql ∧ q'.parameters = q.parameters ∧
        q'.countSql = q.countSql ∧ q'.schemaGroupsSql = q.schemaGroupsSql ∧
        ∀ requested, (Aggregation.new q' requested).map (·.statements) =
          (Aggregation.new q requested).map (·.statements)) ∧
    ∀ s : Search,
      s.countSql = "SELECT COUNT(*) FROM (" ++ s.allRows ++ ")" ∧
      s.schemaGroupsSql = "SELECT schema, COUNT(*) FROM (" ++ s.allRows ++ ") GROUP BY schema" ∧
      ∀ steps s', (∀ step ∈ steps, step.Arranges) → s.runAll steps = .ok s' →
        s'.countSql = s.countSql ∧ s'.schemaGroupsSql = s.schemaGroupsSql ∧
        s'.parameters = s.parameters := by
  refine ⟨fun q => ⟨q.sql_unpaged, rfl, rfl, fun σ db => ⟨?_, ?_⟩, ?_, ?_⟩, fun s => ⟨?_, ?_, ?_⟩⟩
  · exact Store.makes_count db rfl
  · exact Store.makes_stats db rfl
  · exact fun requested a ha st hst => Aggregation.sql_around_allRows ha hst
  · intro steps q' hsteps h
    have hunpaged := Query.unpaged_runAll hsteps h
    have hparameters : q'.unpaged.parameters = q.unpaged.parameters := by rw [hunpaged]
    refine ⟨by rw [hunpaged], hparameters, ?_, ?_, fun requested => ?_⟩
    · rw [Query.countSql, hunpaged, Query.countSql]
    · rw [Query.schemaGroupsSql, hunpaged, Query.schemaGroupsSql]
    · rw [← Aggregation.statements_unpaged q', hunpaged, Aggregation.statements_unpaged]
  · rw [← s.render_unpaged]
    rfl
  · rw [← s.render_unpaged]
    rfl
  · intro steps s' hsteps h
    have hunpaged := Search.unpaged_runAll hsteps h
    refine ⟨?_, ?_, ?_⟩
    · rw [Search.countSql, hunpaged, Search.countSql]
    · rw [Search.schemaGroupsSql, hunpaged, Search.schemaGroupsSql]
    · rw [← s'.parameters_unpaged, hunpaged, Search.parameters_unpaged]

/-- The second page of an ordered query is counted as the whole query is. -/
theorem second_page_counted : ∃ q q', Query.Reachable "ftm" Model.bundled.registry q ∧
    q.runAll [.orderBy ["schema", "context.foo"] .descending, .page 2 10] = .ok q' ∧
      q'.sql ≠ q.sql ∧ q'.countSql = q.countSql := by
  have hq : (Query.Step.filter "dataset" (.text "x")).run (.new "ftm" Model.bundled.registry) =
      .ok _ := rfl
  have hsteps : ∀ s ∈ [Query.Step.orderBy ["schema", "context.foo"] .descending, .page 2 10],
      s.Arranges := by
    intro s hs
    rcases List.mem_pair.1 hs with rfl | rfl <;> trivial
  have hcount : ∀ q q' : Query,
      q.runAll [.orderBy ["schema", "context.foo"] .descending, .page 2 10] = .ok q' →
        q'.countSql = q.countSql := by
    intro q q' h
    obtain ⟨-, -, -, -, -, hsame⟩ := counts_over_all_rows.1 q
    exact (hsame _ q' hsteps h).2.2.1
  refine ⟨_, _, .step _ .new hq, rfl, by decide +kernel, ?_⟩
  exact hcount _ _ rfl

end EntityQuery
