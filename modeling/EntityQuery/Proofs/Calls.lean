import Mathlib.Tactic
import EntityQuery.Store

/-!
# Calls of a store

A store reaches its database by statements with bound values only. Here a database keeps a record of
those that it is given, so that something can be said of all of them.

* `Database.recorded`: a database with a record of its calls;
* `Work.Makes`: every call that is made is of a kind;
* `Store.makes_found`, `Store.makes_aggregations`, `Store.makes_put`: the calls of a store.
-/

namespace EntityQuery

/-- A statement that a database is given, with the values bound to it. -/
structure Call where
  sql : String
  parameters : List Json

variable {σ α β : Type} {P : Call → Prop}

namespace Work

/-- Work on a database, noted down as a call. -/
def noted (call : Call) (w : Work σ α) : Work (σ × List Call) α :=
  ExceptT.mk fun s =>
    let after := w.run.run s.1
    (after.1, after.2, s.2 ++ [call])

/-- Every call that the work makes is of a kind, whether it fails or not. -/
def Makes (P : Call → Prop) (w : Work (σ × List Call) α) : Prop :=
  ∀ s, ∃ made, (w.run.run s).2.2 = s.2 ++ made ∧ ∀ call ∈ made, P call

theorem makes_noted {call : Call} (h : P call) (w : Work σ α) : (noted call w).Makes P := by
  intro s
  refine ⟨[call], rfl, fun c hc => ?_⟩
  rw [List.mem_singleton.1 hc]
  exact h

theorem makes_pure (a : α) : Makes P (pure a : Work (σ × List Call) α) := by
  intro s
  exact ⟨[], (List.append_nil _).symm, fun _ h => absurd h List.not_mem_nil⟩

theorem makes_throw (e : QueryError) : Makes P (throw e : Work (σ × List Call) α) := by
  intro s
  exact ⟨[], (List.append_nil _).symm, fun _ h => absurd h List.not_mem_nil⟩

theorem run_bind (w : Work σ α) (f : α → Work σ β) (s : σ) : (w >>= f).run.run s =
    match (w.run.run s).1 with
    | .ok a => (f a).run.run (w.run.run s).2
    | .error e => (.error e, (w.run.run s).2) := by
  rw [ExceptT.run_bind, StateT.run_bind]
  obtain ⟨result, after⟩ := w.run.run s
  cases result with
  | ok a => rfl
  | error e => rfl

theorem makes_bind {w : Work (σ × List Call) α} {f : α → Work (σ × List Call) β}
    (hw : w.Makes P) (hf : ∀ a, (f a).Makes P) : Makes P (w >>= f) := by
  intro s
  obtain ⟨made, hmade, hp⟩ := hw s
  rw [run_bind]
  cases (w.run.run s).1 with
  | error e => exact ⟨made, hmade, hp⟩
  | ok a =>
    obtain ⟨made', hmade', hp'⟩ := hf a (w.run.run s).2
    refine ⟨made ++ made', ?_, fun c hc => ?_⟩
    · rw [← List.append_assoc, ← hmade]
      exact hmade'
    · rcases List.mem_append.1 hc with hc | hc
      · exact hp c hc
      · exact hp' c hc

theorem makes_forM {f : α → Work (σ × List Call) Unit} {items : List α}
    (h : ∀ a ∈ items, (f a).Makes P) : Makes P (items.forM f) := by
  induction items with
  | nil => exact makes_pure _
  | cons a items ih =>
    refine makes_bind (h a List.mem_cons_self) fun _ => ?_
    exact ih fun b hb => h b (List.mem_cons_of_mem _ hb)

theorem makes_foldlM {f : β → α → Work (σ × List Call) β} {items : List α}
    (h : ∀ b, ∀ a ∈ items, (f b a).Makes P) (b : β) : Makes P (items.foldlM f b) := by
  induction items generalizing b with
  | nil => exact makes_pure _
  | cons a items ih =>
    rw [List.foldlM_cons]
    refine makes_bind (h b a List.mem_cons_self) fun b' => ?_
    exact ih (fun b'' a' ha' => h b'' a' (List.mem_cons_of_mem _ ha')) b'

end Work

/-- A database with a record of the calls that are made to it. -/
def Database.recorded (db : Database σ) : Database (σ × List Call) where
  execute sql parameters := (db.execute sql parameters).noted ⟨sql, parameters⟩
  fetch sql parameters := (db.fetch sql parameters).noted ⟨sql, parameters⟩

namespace Store

variable (db : Database σ)

theorem makes_execute {sql : String} {parameters : List Json} (h : P ⟨sql, parameters⟩) :
    (db.recorded.execute sql parameters).Makes P :=
  Work.makes_noted h _

theorem makes_fetch {sql : String} {parameters : List Json} (h : P ⟨sql, parameters⟩) :
    (db.recorded.fetch sql parameters).Makes P :=
  Work.makes_noted h _

/-! ## Answers -/

theorem makes_found {statement : Statement} (h : P ⟨statement.render, statement.parameters⟩) :
    (found db.recorded statement).Makes P := by
  refine Work.makes_bind (makes_fetch db h) fun rows => ?_
  cases rows.mapM entityOf with
  | ok es => exact Work.makes_pure es
  | error e => exact Work.makes_throw e

theorem makes_count {q : Query} (h : P ⟨q.countSql, q.parameters⟩) :
    (count db.recorded q).Makes P :=
  Work.makes_bind (makes_fetch db h) fun _ => Work.makes_pure _

theorem makes_stats {q : Query} (h : P ⟨q.schemaGroupsSql, q.parameters⟩) :
    (stats db.recorded q).Makes P :=
  Work.makes_bind (makes_fetch db h) fun _ => Work.makes_pure _

theorem makes_aggregations {a : Aggregation} (h : ∀ st ∈ a.statements, P ⟨st.sql, st.parameters⟩) :
    (aggregations db.recorded a).Makes P := by
  refine Work.makes_foldlM (fun values st hst => ?_) _
  exact Work.makes_bind (makes_fetch db (h st hst)) fun _ => Work.makes_pure _

/-! ## Changes -/

variable {s : Store}

theorem makes_create (h : ∀ sql ∈ s.table.definitions, P ⟨sql, []⟩) :
    (s.create db.recorded).Makes P :=
  Work.makes_forM fun sql hsql => makes_execute db (h sql hsql)

theorem makes_put {e : Entity} (hput : P ⟨s.table.insertSql, rowValues e⟩)
    (hdelete : P ⟨s.table.indexDeleteSql, [.text e.id]⟩)
    (hindex : P ⟨s.table.indexInsertSql, [.text e.id, .text (s.searchText e)]⟩) :
    (s.put db.recorded e).Makes P := by
  refine Work.makes_bind (makes_execute db hput) fun _ => ?_
  refine Work.makes_bind (makes_execute db hdelete) fun _ => ?_
  simp only
  split
  · exact makes_execute db hindex
  · exact Work.makes_pure ()

theorem makes_putAll {es : List Entity} (h : ∀ e ∈ es, (s.put db.recorded e).Makes P) :
    (s.putAll db.recorded es).Makes P :=
  Work.makes_bind (Work.makes_forM h) fun _ => Work.makes_pure _

end Store

end EntityQuery
