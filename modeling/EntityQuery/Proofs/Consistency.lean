import Mathlib.Tactic
import EntityQuery.Proofs.Calls
import EntityQuery.Registry.Bundled

/-!
# Tables and their indexes

An entity is put in three calls, and a database may fail at any of them: the row may have been
replaced and the texts in the index not yet. What is left then does no harm, and the next put of
the entity mends it.

* `Contents`, `Database.keeping`: a table and its index, in a database whose calls may fail;
* `Store.history`: the attempts to put entities in a run of changes;
* `Store.put_cases`: all that a put can do;
* `Contents.Consistent`: the index follows the table, and both follow the last attempt for each
  entity if it succeeded;
* `Contents.Consistent.put`: each put keeps this, however far it gets;
* **`index_follows_table`**: so it is after any changes with any calls that fail.
-/

namespace EntityQuery

/-! ## Databases that may fail -/

/-- The rows of an entity table by id, and the texts in its index, each under an id. -/
structure Contents where
  rows : Dict (List Json)
  index : List (String × String)

namespace Contents

/-- No rows and no texts. -/
def empty : Contents := ⟨.empty, []⟩

/-- A row in place of the one of the same id. -/
def replace (c : Contents) (id : String) (row : List Json) : Contents :=
  { c with rows := c.rows.insert id row }

/-- No texts under an id. -/
def unindex (c : Contents) (id : String) : Contents :=
  { c with index := c.index.filter (·.1 != id) }

/-- One more text under an id. -/
def addText (c : Contents) (id text : String) : Contents :=
  { c with index := c.index ++ [(id, text)] }

/-- What a statement makes of the contents of a table. The three changes are known by their texts;
any other statement changes nothing. -/
def execute (t : EntityTable) (sql : String) (parameters : List Json) (c : Contents) : Contents :=
  match parameters with
  | [.text id, schema, dataset, document] =>
    if sql = t.insertSql then c.replace id [.text id, schema, dataset, document] else c
  | [.text id] => if sql = t.indexDeleteSql then c.unindex id else c
  | [.text id, .text text] => if sql = t.indexInsertSql then c.addText id text else c
  | _ => c

/-- The texts in the index under an id. -/
def texts (c : Contents) (id : String) : List String :=
  (c.index.filter (·.1 == id)).map (·.2)

variable (c : Contents) (id id' text : String) (row : List Json)

@[simp] theorem texts_replace : (c.replace id row).texts id' = c.texts id' := rfl

@[simp] theorem rows_unindex : (c.unindex id).rows = c.rows := rfl

@[simp] theorem rows_addText : (c.addText id text).rows = c.rows := rfl

theorem get?_replace : (c.replace id row).rows.get? id' =
    if id' = id then some row else c.rows.get? id' := Dict.get?_insert _ _ _ _

theorem texts_unindex : (c.unindex id).texts id' = if id' = id then [] else c.texts id' := by
  rw [texts, unindex, List.filter_filter]
  split_ifs with h
  · rw [h, List.map_eq_nil_iff, List.filter_eq_nil_iff]
    simp
  · rw [texts]
    congr 2
    funext e
    by_cases he : e.1 = id' <;> simp [he, h]

theorem texts_addText : (c.addText id text).texts id' =
    if id' = id then c.texts id' ++ [text] else c.texts id' := by
  rw [texts, addText, List.filter_append, List.map_append]
  split_ifs with h
  · simp [texts, h]
  · have hne : id ≠ id' := fun he => h he.symm
    simp [texts, hne]

theorem mem_index_iff : (id, text) ∈ c.index ↔ text ∈ c.texts id := by
  simp [texts]

end Contents

/-- A database that keeps an entity table and its index. Its calls are numbered; one that has a
fault fails with it and changes nothing. -/
def Database.keeping (t : EntityTable) (faults : ℕ → Option QueryError)
    (fetch : String → List Json → Work (Contents × ℕ) (List Row)) : Database (Contents × ℕ) where
  execute sql parameters := ExceptT.mk fun (c, calls) =>
    match faults calls with
    | some fault => (.error fault, c, calls + 1)
    | none => (.ok (), c.execute t sql parameters, calls + 1)
  fetch := fetch

/-! ## Changes and attempts -/

/-- A call of a store that changes what it keeps. -/
inductive Change
  | put (e : Entity)
  | putAll (es : List Entity)

/-- An attempt to put an entity, and what came of it. -/
structure Attempt where
  entity : Entity
  outcome : Except QueryError Unit

namespace Store

variable {σ : Type} (s : Store) (db : Database σ)

/-- The state after a change, whether it failed or not. -/
def change (st : σ) : Change → σ
  | .put e => ((s.put db e).run.run st).2
  | .putAll es => ((s.putAll db es).run.run st).2

/-- The attempts to put entities one after the other. None follows one that failed. -/
def attempts : List Entity → σ → List Attempt
  | [], _ => []
  | e :: es, st =>
    let after := (s.put db e).run.run st
    ⟨e, after.1⟩ :: match after.1 with
      | .ok _ => attempts es after.2
      | .error _ => []

/-- The attempts that a change comes to. -/
def changeAttempts (st : σ) : Change → List Attempt
  | .put e => [⟨e, ((s.put db e).run.run st).1⟩]
  | .putAll es => s.attempts db es st

/-- The state after changes, one after the other. -/
def changeAll (changes : List Change) (st : σ) : σ := changes.foldl (s.change db) st

/-- The attempts of changes, one after the other. -/
def history : List Change → σ → List Attempt
  | [], _ => []
  | c :: cs, st => s.changeAttempts db st c ++ history cs (s.change db st c)

end Store

/-- The last attempt to put an entity of an id. -/
def lastAttempt? (history : List Attempt) (id : String) : Option Attempt :=
  history.reverse.find? (·.entity.id == id)

theorem lastAttempt?_concat (history : List Attempt) (a : Attempt) (id : String) :
    lastAttempt? (history ++ [a]) id =
      if a.entity.id = id then some a else lastAttempt? history id := by
  rw [lastAttempt?, List.reverse_append, List.reverse_singleton, List.singleton_append,
    List.find?_cons]
  by_cases h : a.entity.id = id
  · simp [h]
  · simp [h, beq_false_of_ne h, lastAttempt?]

/-- The row of an entity: the id, the schema, the first dataset if there is any, the document. -/
def Entity.row (e : Entity) : List Json :=
  [.text e.id, .text e.schema, match e.datasets with
    | dataset :: _ => .text dataset
    | [] => .null, .text e.document.compact]

/-- The index follows the table, and both follow the attempts to put entities. -/
structure Contents.Consistent (s : Store) (history : List Attempt) (c : Contents) : Prop where
  /-- There is one text under an id at most. -/
  single : ∀ id, (c.texts id).length ≤ 1
  /-- A text in the index is under an id that has the row of an entity. -/
  row_of_text : ∀ id text, (id, text) ∈ c.index →
    ∃ a ∈ history, a.entity.id = id ∧ c.rows.get? id = some a.entity.row
  /-- After an attempt that succeeded there is the row of the entity, and its text if it is found by
  any. -/
  last : ∀ id a, lastAttempt? history id = some a → a.outcome = .ok () →
    c.rows.get? id = some a.entity.row ∧
      c.texts id = if s.searchText a.entity = "" then [] else [s.searchText a.entity]

/-! ## One put -/

/-- All that a put can do: it fails before anything is done, after the row, or after the texts of
the id are gone; or it succeeds, with a text in the index unless there is none to be found by. -/
inductive Store.Puts (s : Store) (e : Entity) (c : Contents) :
    Except QueryError Unit → Contents → Prop
  | untouched (fault : QueryError) : Puts s e c (.error fault) c
  | replaced (fault : QueryError) : Puts s e c (.error fault) (c.replace e.id e.row)
  | unindexed (fault : QueryError) :
      Puts s e c (.error fault) ((c.replace e.id e.row).unindex e.id)
  | bare : s.searchText e = "" → Puts s e c (.ok ()) ((c.replace e.id e.row).unindex e.id)
  | indexed : s.searchText e ≠ "" → Puts s e c (.ok ())
      (((c.replace e.id e.row).unindex e.id).addText e.id (s.searchText e))

theorem Store.rowValues_eq (e : Entity) : rowValues e = e.row := by
  rw [rowValues, Entity.row]
  cases e.datasets <;> rfl

section Keeping

variable {s : Store} {faults : ℕ → Option QueryError}
  {fetch : String → List Json → Work (Contents × ℕ) (List Row)} {e : Entity}

theorem run_execute (t : EntityTable) (sql : String) (parameters : List Json) (c : Contents)
    (n : ℕ) : (((Database.keeping t faults fetch).execute sql parameters).run.run (c, n)) =
      match faults n with
      | some fault => (.error fault, c, n + 1)
      | none => (.ok (), c.execute t sql parameters, n + 1) := rfl

theorem Contents.execute_insert (t : EntityTable) (c : Contents) :
    c.execute t t.insertSql (Store.rowValues e) = c.replace e.id e.row := by
  rw [Store.rowValues_eq]
  exact if_pos rfl

theorem Contents.execute_delete (t : EntityTable) (c : Contents) (id : String) :
    c.execute t t.indexDeleteSql [.text id] = c.unindex id := if_pos rfl

theorem Contents.execute_index (t : EntityTable) (c : Contents) (id text : String) :
    c.execute t t.indexInsertSql [.text id, .text text] = c.addText id text := if_pos rfl

theorem Store.put_cases (s : Store) (faults : ℕ → Option QueryError)
    (fetch : String → List Json → Work (Contents × ℕ) (List Row)) (e : Entity) (c : Contents)
    (n : ℕ) : s.Puts e c ((s.put (.keeping s.table faults fetch) e).run.run (c, n)).1
      ((s.put (.keeping s.table faults fetch) e).run.run (c, n)).2.1 := by
  rw [Store.put, Work.run_bind, run_execute, Contents.execute_insert]
  cases faults n with
  | some fault => exact .untouched fault
  | none =>
    simp only [Work.run_bind, run_execute, Contents.execute_delete]
    cases faults (n + 1) with
    | some fault => exact .replaced fault
    | none =>
      by_cases htext : s.searchText e = ""
      · rw [if_neg (by simp [htext])]
        exact .bare htext
      · rw [if_pos (by simpa using htext), run_execute, Contents.execute_index]
        cases faults (n + 1 + 1) with
        | some fault => exact .unindexed fault
        | none => exact .indexed htext

end Keeping

namespace Store.Puts

variable {s : Store} {e : Entity} {c c' : Contents} {outcome : Except QueryError Unit}

/-- A put leaves everything alone that is kept of other ids. -/
theorem frame (h : s.Puts e c outcome c') {id : String} (hne : id ≠ e.id) :
    c'.rows.get? id = c.rows.get? id ∧ c'.texts id = c.texts id := by
  cases h with
  | untouched => exact ⟨rfl, rfl⟩
  | replaced | unindexed | bare | indexed =>
    simp [Contents.get?_replace, Contents.texts_unindex, Contents.texts_addText, hne]

/-- The row is the one of the entity unless nothing is done. -/
theorem row_self (h : s.Puts e c outcome c') :
    c' = c ∨ c'.rows.get? e.id = some e.row := by
  cases h with
  | untouched => exact .inl rfl
  | replaced | unindexed | bare | indexed => exact .inr (by simp [Contents.get?_replace])

/-- The texts of the id stay, or go, or one new text takes their place. -/
theorem texts_self (h : s.Puts e c outcome c') : c'.texts e.id = c.texts e.id ∨
    c'.texts e.id = [] ∨ c'.texts e.id = [s.searchText e] := by
  cases h with
  | untouched | replaced => exact .inl rfl
  | unindexed | bare => exact .inr (.inl (by simp [Contents.texts_unindex]))
  | indexed =>
    exact .inr (.inr (by simp [Contents.texts_addText, Contents.texts_unindex]))

/-- After a put that succeeded there is the row of the entity, and its text if there is any. -/
theorem kept (h : s.Puts e c (.ok ()) c') : c'.rows.get? e.id = some e.row ∧
    c'.texts e.id = if s.searchText e = "" then [] else [s.searchText e] := by
  cases h with
  | bare htext => simp [Contents.get?_replace, Contents.texts_unindex, htext]
  | indexed htext =>
    simp [Contents.get?_replace, Contents.texts_addText, Contents.texts_unindex, htext]

end Store.Puts

namespace Contents.Consistent

variable {s : Store} {history : List Attempt} {c c' : Contents}

theorem empty : Contents.empty.Consistent s [] where
  single id := Nat.zero_le 1
  row_of_text id text h := absurd h List.not_mem_nil
  last id a h := by simp [lastAttempt?] at h

/-- **Each put keeps the contents consistent,** however far it gets. -/
theorem put (h : c.Consistent s history) {e : Entity} {outcome : Except QueryError Unit}
    (hp : s.Puts e c outcome c') : c'.Consistent s (history ++ [⟨e, outcome⟩]) where
  single id := by
    by_cases hid : id = e.id
    · subst hid
      rcases hp.texts_self with ht | ht | ht
      · rw [ht]
        exact h.single e.id
      · simp [ht]
      · simp [ht]
    · rw [(hp.frame hid).2]
      exact h.single id
  row_of_text id text ht := by
    have hkept : (id, text) ∈ c.index → c'.rows.get? id = c.rows.get? id → ∃ a ∈
        history ++ [⟨e, outcome⟩], a.entity.id = id ∧ c'.rows.get? id = some a.entity.row := by
      intro hmem hrow
      obtain ⟨a, ha, hid, hget⟩ := h.row_of_text id text hmem
      exact ⟨a, List.mem_append_left _ ha, hid, hrow.trans hget⟩
    by_cases hid : id = e.id
    · -- a text of before may outlast the row that it was made of, but not without another row
      subst hid
      rcases hp.row_self with rfl | hrow
      · exact hkept ht rfl
      · exact ⟨⟨e, outcome⟩, by simp, rfl, hrow⟩
    · obtain ⟨hrow, htexts⟩ := hp.frame hid
      refine hkept ?_ hrow
      rw [Contents.mem_index_iff, ← htexts, ← Contents.mem_index_iff]
      exact ht
  last id a ha hok := by
    rw [lastAttempt?_concat] at ha
    split_ifs at ha with hid
    · cases ha
      subst hid hok
      exact hp.kept
    · obtain ⟨hrow, htexts⟩ := hp.frame (Ne.symm hid)
      rw [hrow, htexts]
      exact h.last id a ha hok

end Contents.Consistent

/-! ## Runs -/

namespace Store

variable {σ : Type} (s : Store) (db : Database σ)

theorem run_putAll (es : List Entity) (st : σ) : (s.putAll db es).run.run st =
    (((es.forM (s.put db)).run.run st).1.map fun _ => es.length,
      ((es.forM (s.put db)).run.run st).2) := by
  rw [putAll, Work.run_bind]
  cases ((es.forM (s.put db)).run.run st).1 <;> rfl

theorem run_forM_cons (e : Entity) (es : List Entity) (st : σ) :
    ((e :: es).forM (s.put db)).run.run st = match ((s.put db e).run.run st).1 with
      | .ok _ => (es.forM (s.put db)).run.run ((s.put db e).run.run st).2
      | .error fault => (.error fault, ((s.put db e).run.run st).2) := by
  refine (Work.run_bind (s.put db e) (fun _ => es.forM (s.put db)) st).trans ?_
  cases ((s.put db e).run.run st).1 <;> rfl

/-- If entities are all put, each of them has been attempted, and no attempt has failed. -/
theorem attempts_of_ok {es : List Entity} {st : σ}
    (h : ((es.forM (s.put db)).run.run st).1 = .ok ()) :
    s.attempts db es st = es.map (⟨·, .ok ()⟩) := by
  induction es generalizing st with
  | nil => rfl
  | cons e es ih =>
    rw [run_forM_cons] at h
    rw [attempts]
    cases hput : ((s.put db e).run.run st).1 with
    | ok _ =>
      rw [hput] at h
      simp only [List.map_cons, ih h]
    | error fault =>
      rw [hput] at h
      cases h

/-- If a put fails, the entities before it have been put, and none has been attempted after it. -/
theorem attempts_of_error {es : List Entity} {st : σ} {fault : QueryError}
    (h : ((es.forM (s.put db)).run.run st).1 = .error fault) : ∃ before e after,
      es = before ++ e :: after ∧
        s.attempts db es st = before.map (⟨·, .ok ()⟩) ++ [⟨e, .error fault⟩] := by
  induction es generalizing st with
  | nil => cases h
  | cons e es ih =>
    rw [run_forM_cons] at h
    rw [attempts]
    cases hput : ((s.put db e).run.run st).1 with
    | ok _ =>
      rw [hput] at h
      obtain ⟨before, e', after, rfl, hattempts⟩ := ih h
      exact ⟨e :: before, e', after, rfl, by simp only [hattempts]; rfl⟩
    | error fault' =>
      rw [hput] at h
      cases h
      exact ⟨[], e, es, rfl, rfl⟩

end Store

section Keeping

variable {s : Store} {faults : ℕ → Option QueryError}
  {fetch : String → List Json → Work (Contents × ℕ) (List Row)} {history : List Attempt}

/-- Puts one after the other keep the contents consistent; the first that fails is the last. -/
theorem Contents.Consistent.forM {es : List Entity} {st : Contents × ℕ}
    (h : st.1.Consistent s history) :
    ((es.forM (s.put (.keeping s.table faults fetch))).run.run st).2.1.Consistent s
      (history ++ s.attempts (.keeping s.table faults fetch) es st) := by
  induction es generalizing st history with
  | nil =>
    rw [Store.attempts, List.append_nil]
    exact h
  | cons e es ih =>
    have hput := h.put (s.put_cases faults fetch e st.1 st.2)
    rw [Store.run_forM_cons, Store.attempts]
    cases ho : ((s.put (.keeping s.table faults fetch) e).run.run st).1 with
    | ok _ =>
      rw [ho] at hput
      simpa using ih hput
    | error fault =>
      rw [ho] at hput
      exact hput

theorem Contents.Consistent.change {st : Contents × ℕ} (h : st.1.Consistent s history)
    (c : Change) : (s.change (.keeping s.table faults fetch) st c).1.Consistent s
      (history ++ s.changeAttempts (.keeping s.table faults fetch) st c) := by
  cases c with
  | put e => exact h.put (s.put_cases faults fetch e st.1 st.2)
  | putAll es =>
    rw [Store.change, Store.run_putAll]
    exact h.forM

theorem Contents.Consistent.changeAll {st : Contents × ℕ} (h : st.1.Consistent s history)
    (changes : List Change) :
    (s.changeAll (.keeping s.table faults fetch) changes st).1.Consistent s
      (history ++ s.history (.keeping s.table faults fetch) changes st) := by
  induction changes generalizing st history with
  | nil =>
    rw [Store.history, List.append_nil]
    exact h
  | cons c cs ih =>
    rw [Store.history, ← List.append_assoc]
    exact ih (h.change c)

end Keeping

/-- **The index follows the table after any changes, whichever calls fail.** It holds one text of an
entity at most, and only of entities that have a row; and where the last attempt to put an entity
succeeded, the row and the text are those of the entity. Entities that are put together have all
been put if their number is returned; if there is an error, those before the one that failed have
been, and no other has been attempted. -/
theorem index_follows_table (s : Store) (faults : ℕ → Option QueryError)
    (fetch : String → List Json → Work (Contents × ℕ) (List Row)) (changes : List Change) :
    let db := Database.keeping s.table faults fetch
    let reached := s.changeAll db changes (.empty, 0)
    reached.1.Consistent s (s.history db changes (.empty, 0)) ∧
    ∀ es, match ((s.putAll db es).run.run reached).1 with
      | .ok n => n = es.length ∧ s.attempts db es reached = es.map (⟨·, .ok ()⟩)
      | .error fault => ∃ before e after, es = before ++ e :: after ∧
          s.attempts db es reached = before.map (⟨·, .ok ()⟩) ++ [⟨e, .error fault⟩] := by
  intro db reached
  have hempty : (Contents.empty, 0).1.Consistent s [] := Contents.Consistent.empty
  refine ⟨hempty.changeAll changes, fun es => ?_⟩
  rw [Store.run_putAll]
  cases h : ((es.forM (s.put db)).run.run reached).1 with
  | ok _ => exact ⟨rfl, s.attempts_of_ok db h⟩
  | error fault => exact s.attempts_of_error db h

/-- A second put that fails at its last call has taken the text of the entity out of the index. -/
example : ∀ s, Store.new "ftm" Model.bundled.registry = .ok s →
    let e := (Entity.new "1" "Person").withProperty "name" "J"
    let faults n := if n = 5 then some QueryError.json else none
    let db := Database.keeping s.table faults fun _ _ => pure []
    (s.changeAll db [.put e] (.empty, 0)).1.texts "1" = ["J"] ∧
      (s.changeAll db [.put e, .put e] (.empty, 0)).1.texts "1" = [] := by
  intro s hs
  cases hs
  decide +kernel

end EntityQuery
