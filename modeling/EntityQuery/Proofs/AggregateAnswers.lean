import Mathlib.Tactic
import EntityQuery.Proofs.Calls
import EntityQuery.Proofs.FanOut
import EntityQuery.Registry.Bundled

/-!
# Answers of aggregate statements

The statements of an aggregation are run one after the other, and the first row of each answer is
put under the field and the function that its statement is for. Fields and functions are shared by
statements, but no two statements are for the same pair, so that no answer takes the place of
another one.

* `Answered`: a database answers calls, one after the other;
* `AggregateStatement.answer`: the value that an answer gives;
* `AggregateValues.get?_setAll`: values that are set under different keys are all found;
* `Store.run_aggregations`, `Store.run_aggregations_refused`: the run of all statements, and of
  those up to the first one that fails;
* **`Store.answers_by_pair`**: each pair that was asked for has the value of its own statement.
-/

namespace EntityQuery

/-! ## Answers -/

/-- A database answers calls one after the other, from one of its states on to another. -/
inductive Answered {σ : Type} (db : Database σ) : σ → List Call → List (List Row) → σ → Prop
  | nil {st : σ} : Answered db st [] [] st
  | cons {st mid after : σ} {call : Call} {calls : List Call} {rows : List Row}
      {answers : List (List Row)} :
      (db.fetch call.sql call.parameters).run.run st = (.ok rows, mid) →
        Answered db mid calls answers after →
          Answered db st (call :: calls) (rows :: answers) after

/-- Either all calls are answered, or there is a first one that fails. -/
theorem answered_or_refused {σ : Type} (db : Database σ) (calls : List Call) (st : σ) :
    (∃ answers after, Answered db st calls answers after) ∨
      ∃ before failing rest answers mid e after, calls = before ++ failing :: rest ∧
        Answered db st before answers mid ∧
        (db.fetch failing.sql failing.parameters).run.run mid = (.error e, after) := by
  induction calls generalizing st with
  | nil => exact .inl ⟨[], st, .nil⟩
  | cons call calls ih =>
    obtain ⟨⟨result, mid⟩, hrun⟩ :
      ∃ outcome, (db.fetch call.sql call.parameters).run.run st = outcome := ⟨_, rfl⟩
    cases result with
    | error e => exact .inr ⟨[], call, calls, [], st, e, mid, rfl, .nil, hrun⟩
    | ok rows =>
      rcases ih mid with ⟨answers, after, h⟩ | ⟨before, failing, rest, answers, mid', e, after,
        rfl, h, hfailing⟩
      · exact .inl ⟨_, after, .cons hrun h⟩
      · exact .inr ⟨call :: before, failing, rest, _, mid', e, after, rfl, .cons hrun h, hfailing⟩

theorem Answered.length_eq {σ : Type} {db : Database σ} {st after : σ} {calls : List Call}
    {answers : List (List Row)} (h : Answered db st calls answers after) :
    calls.length = answers.length := by
  induction h with
  | nil => rfl
  | cons _ _ ih => rw [List.length_cons, List.length_cons, ih]

namespace AggregateStatement

/-- The call of a statement. -/
def call (s : AggregateStatement) : Call := ⟨s.sql, s.parameters⟩

/-- The value that an answer gives: what stands under the name of the function's result in the first
row, and `null` if there is no row or nothing of that name. -/
def answer (s : AggregateStatement) (rows : List Row) : Json :=
  (rows.head?.bind (·.columns.get? s.function.resultName)).getD .null

/-- A column that is `null` makes no difference. -/
theorem answer_eq (s : AggregateStatement) (rows : List Row) :
    (rows.head?.bind (·.value? s.function.resultName)).getD .null = s.answer rows := by
  rw [answer]
  cases rows with
  | nil => rfl
  | cons row rows =>
    rw [List.head?_cons, Option.bind_some, Option.bind_some, Row.value?]
    cases row.columns.get? s.function.resultName with
    | none => rfl
    | some value => cases value <;> rfl

end AggregateStatement

/-! ## Values -/

namespace Aggregate

theorem word_injective {f g : Aggregate} (h : f.word = g.word) : f = g := by
  cases f <;> cases g <;> first | rfl | exact absurd h (by decide)

end Aggregate

namespace AggregateValues

theorem get?_set (v : AggregateValues) (field function f g : String) (value : Json) :
    (v.set field function value).get? f g =
      if f = field ∧ g = function then some value else v.get? f g := by
  rw [set, get?, get?, Dict.alter, Dict.get?_insert]
  by_cases hf : f = field
  · subst hf
    rw [if_pos rfl, Option.bind_some, Dict.get?_insert]
    by_cases hg : g = function
    · rw [if_pos hg, if_pos ⟨rfl, hg⟩]
    · rw [if_neg hg, if_neg (fun h => hg h.2)]
      cases v.fields.get? f <;> rfl
  · rw [if_neg hf, if_neg (fun h => hf h.1)]

/-- The values of statements, each with its answer, under their fields and functions. -/
def setAll (v : AggregateValues) (answered : List (AggregateStatement × List Row)) :
    AggregateValues :=
  answered.foldl (fun v p => v.set p.1.field p.1.function.word (p.1.answer p.2)) v

variable {v : AggregateValues} {answered : List (AggregateStatement × List Row)}

theorem setAll_cons (v : AggregateValues) (p : AggregateStatement × List Row)
    (answered : List (AggregateStatement × List Row)) : v.setAll (p :: answered) =
      (v.set p.1.field p.1.function.word (p.1.answer p.2)).setAll answered := rfl

theorem get?_setAll_of_not_mem {field word : String}
    (h : ∀ p ∈ answered, ¬ (field = p.1.field ∧ word = p.1.function.word)) :
    (v.setAll answered).get? field word = v.get? field word := by
  induction answered generalizing v with
  | nil => rfl
  | cons p answered ih =>
    rw [setAll_cons, ih fun p' hp' => h p' (List.mem_cons_of_mem _ hp'), get?_set,
      if_neg (h p List.mem_cons_self)]

/-- Values that are set for different pairs are all found. -/
theorem get?_setAll
    (hpairs : (answered.map fun p => (p.1.field, p.1.function)).Nodup)
    {p : AggregateStatement × List Row} (hp : p ∈ answered) :
    (v.setAll answered).get? p.1.field p.1.function.word = some (p.1.answer p.2) := by
  induction answered generalizing v with
  | nil => exact absurd hp List.not_mem_nil
  | cons p' answered ih =>
    rw [List.map_cons, List.nodup_cons] at hpairs
    rw [setAll_cons]
    rcases List.mem_cons.1 hp with rfl | hp
    · -- no statement after it is for the same pair
      rw [get?_setAll_of_not_mem, get?_set, if_pos ⟨rfl, rfl⟩]
      rintro p' hp' ⟨hfield, hword⟩
      refine hpairs.1 (List.mem_map.2 ⟨p', hp', ?_⟩)
      rw [hfield, Aggregate.word_injective hword]
    · exact ih hpairs.2 hp

/-- Nothing is found but what has been set. -/
theorem isSome_get?_setAll {field word : String} :
    ((v.setAll answered).get? field word).isSome ↔ (v.get? field word).isSome ∨
      ∃ f, (field, f) ∈ answered.map (fun p => (p.1.field, p.1.function)) ∧ word = f.word := by
  induction answered generalizing v with
  | nil => simp [setAll]
  | cons p answered ih =>
    rw [setAll_cons, ih, get?_set, List.map_cons]
    by_cases hp : field = p.1.field ∧ word = p.1.function.word
    · rw [if_pos hp]
      simp [hp]
    · rw [if_neg hp]
      refine or_congr Iff.rfl (exists_congr fun f => and_congr_left fun hword => ?_)
      rw [List.mem_cons, Prod.mk.injEq]
      refine (or_iff_right fun h => hp ⟨h.1, ?_⟩).symm
      rw [hword, h.2]

end AggregateValues

/-! ## Runs -/

namespace Store

variable {σ : Type} {db : Database σ}

theorem run_recorded_fetch (db : Database σ) (sql : String) (parameters : List Json) (st : σ)
    (record : List Call) : (db.recorded.fetch sql parameters).run.run (st, record) =
      (((db.fetch sql parameters).run.run st).1, ((db.fetch sql parameters).run.run st).2,
        record ++ [⟨sql, parameters⟩]) := rfl

/-- A statement that is answered sets the value of its pair. -/
theorem run_aggregate {values : AggregateValues} {s : AggregateStatement} {st mid : σ}
    {rows : List Row} (h : (db.fetch s.sql s.parameters).run.run st = (.ok rows, mid))
    (record : List Call) : (aggregate db.recorded values s).run.run (st, record) =
      (.ok (values.set s.field s.function.word (s.answer rows)), mid, record ++ [s.call]) := by
  rw [aggregate, Work.run_bind, run_recorded_fetch, h, ← AggregateStatement.answer_eq]
  rfl

/-- A statement that fails is the last call, and sets nothing. -/
theorem run_aggregate_refused {values : AggregateValues} {s : AggregateStatement} {st mid : σ}
    {e : QueryError} (h : (db.fetch s.sql s.parameters).run.run st = (.error e, mid))
    (record : List Call) : (aggregate db.recorded values s).run.run (st, record) =
      (.error e, mid, record ++ [s.call]) := by
  rw [aggregate, Work.run_bind, run_recorded_fetch, h]
  rfl

/-- Statements that are all answered set the values of all their pairs. -/
theorem run_aggregations {statements : List AggregateStatement} {st after : σ}
    {answers : List (List Row)}
    (h : Answered db st (statements.map (·.call)) answers after) (values : AggregateValues)
    (record : List Call) :
    (statements.foldlM (aggregate db.recorded) values).run.run (st, record) =
      (.ok (values.setAll (statements.zip answers)), after,
        record ++ statements.map (·.call)) := by
  induction statements generalizing st answers values record with
  | nil =>
    cases h
    rw [List.map_nil, List.append_nil]
    rfl
  | cons s statements ih =>
    cases h with
    | cons hrun h =>
      rw [List.foldlM_cons, Work.run_bind, run_aggregate hrun]
      refine (ih h _ _).trans ?_
      rw [List.zip_cons_cons, AggregateValues.setAll_cons, List.map_cons, List.append_assoc,
        List.singleton_append]

/-- The first statement that fails ends the run. -/
theorem run_aggregations_refused {statements : List AggregateStatement} {st mid after : σ}
    {before rest : List Call} {failing : Call} {answers : List (List Row)} {e : QueryError}
    (hcalls : statements.map (·.call) = before ++ failing :: rest)
    (h : Answered db st before answers mid)
    (hfailing : (db.fetch failing.sql failing.parameters).run.run mid = (.error e, after))
    (values : AggregateValues) (record : List Call) :
    (statements.foldlM (aggregate db.recorded) values).run.run (st, record) =
      (.error e, after, record ++ before ++ [failing]) := by
  induction h generalizing statements values record with
  | nil =>
    obtain ⟨s, statements', rfl, rfl, -⟩ := List.map_eq_cons_iff.1 hcalls
    rw [List.foldlM_cons, Work.run_bind, run_aggregate_refused hfailing, List.append_nil]
  | cons hrun _ ih =>
    obtain ⟨s, statements', rfl, rfl, htail⟩ := List.map_eq_cons_iff.1 hcalls
    rw [List.foldlM_cons, Work.run_bind, run_aggregate hrun]
    refine (ih htail hfailing _ _).trans ?_
    rw [List.append_assoc record, List.singleton_append]

/-- The pairs that the statements of an aggregation are for are the pairs that are asked for. -/
theorem pairs_statements {q : Query} {requested : Aggregations} {a : Aggregation}
    (ha : Aggregation.new q requested = .ok a) :
    a.statements.map (fun s => (s.field, s.function)) = requested.pairs := by
  have hfor := Aggregation.statements_for ha
  generalize a.statements = statements at hfor
  generalize requested.pairs = pairs at hfor
  induction hfor with
  | nil => rfl
  | cons h _ ih => rw [List.map_cons, ih, h.field, h.function]

/-- **Each pair that was asked for has the value of its own statement.** The statements of an
aggregation are its calls, in order. If all of them are answered, there is a value for each pair
that was asked for and for no other, and it is the one that the answer of the pair's own statement
gives. Otherwise there is a first one that fails: its error is the result, and it is the last
call. -/
theorem answers_by_pair (calls : List (Aggregate × String)) (q : Query) {a : Aggregation}
    (ha : Aggregation.new q (Aggregations.addAll .empty calls) = .ok a) :
    List.Forall₂ (Aggregation.IsFor q) (Aggregations.addAll .empty calls).pairs a.statements ∧
    ∀ {σ : Type} (db : Database σ) (st : σ) (record : List Call),
      (∀ answers after, Answered db st (a.statements.map (·.call)) answers after →
        ∃ values, (aggregations db.recorded a).run.run (st, record) =
            (.ok values, after, record ++ a.statements.map (·.call)) ∧
          List.Forall₂ (fun s rows => values.get? s.field s.function.word = some (s.answer rows))
            a.statements answers ∧
          ∀ field word, (values.get? field word).isSome ↔
            ∃ f, (f, field) ∈ calls ∧ word = f.word) ∧
      (∀ before failing rest answers mid e after,
        a.statements.map (·.call) = before ++ failing :: rest →
        Answered db st before answers mid →
        (db.fetch failing.sql failing.parameters).run.run mid = (.error e, after) →
          (aggregations db.recorded a).run.run (st, record) =
            (.error e, after, record ++ before ++ [failing])) ∧
      ((∃ answers after, Answered db st (a.statements.map (·.call)) answers after) ∨
        ∃ before failing rest answers mid e after,
          a.statements.map (·.call) = before ++ failing :: rest ∧
          Answered db st before answers mid ∧
          (db.fetch failing.sql failing.parameters).run.run mid = (.error e, after)) := by
  refine ⟨Aggregation.statements_for ha, fun db st record => ⟨fun answers after h => ?_,
    fun before failing rest answers mid e after hcalls h hfailing =>
      run_aggregations_refused hcalls h hfailing .empty record,
    answered_or_refused db _ st⟩⟩
  have hlength : a.statements.length = answers.length := by
    rw [← h.length_eq, List.length_map]
  have hpairs : (a.statements.zip answers).map (fun p => (p.1.field, p.1.function)) =
      (Aggregations.addAll .empty calls).pairs := by
    rw [← pairs_statements ha]
    nth_rewrite 2 [← List.map_fst_zip hlength.le]
    rw [List.map_map]
    rfl
  have hnodup : (Aggregations.addAll .empty calls).pairs.Nodup :=
    (Aggregations.listed_empty.addAll calls).ordered.imp Aggregations.Before.ne
  rw [← hpairs] at hnodup
  refine ⟨_, run_aggregations h .empty record, ?_, fun field word => ?_⟩
  · rw [List.forall₂_iff_zip]
    exact ⟨hlength, fun hmem => AggregateValues.get?_setAll hnodup hmem⟩
  · have hempty : ¬ (AggregateValues.empty.get? field word).isSome := Bool.false_ne_true
    have hnone : ∀ f, (field, f) ∉ Aggregations.empty.pairs := fun f => List.not_mem_nil
    rw [AggregateValues.isSome_get?_setAll, hpairs, or_iff_right hempty]
    exact exists_congr fun f => and_congr_left fun _ =>
      Aggregations.mem_pairs_addAll.trans (or_iff_left (hnone f))

/-- Two functions of a field and one of another have values of their own, and a statement that fails
is the last one. -/
theorem maximum_and_counts_answered : ∃ a,
    Aggregation.new (.new "ftm" Model.bundled.registry)
      (Aggregations.addAll .empty [(.max, "id"), (.count, "schema"), (.count, "id")]) = .ok a ∧
    (∃ values record, (aggregations (Database.recorded ⟨fun _ _ => pure (), fun _ _ =>
          pure [⟨.ofList [("aggCount", .int 3), ("aggMax", .text "z")]⟩]⟩) a).run.run ((), []) =
        (.ok values, (), record) ∧ record.length = 3 ∧
      values.get? "id" "count" = some (.int 3) ∧ values.get? "id" "max" = some (.text "z") ∧
      ¬ (values.get? "schema" "max").isSome) ∧
    ∃ record, (aggregations (Database.recorded ⟨fun _ _ => pure (), fun _ _ =>
          ExceptT.mk fun n => (if n = 1 then .error .json else .ok [], n + 1)⟩) a).run.run (0, []) =
        (.error .json, 2, record) ∧ record.length = 2 := by
  obtain ⟨a, ha⟩ : ∃ a, Aggregation.new (.new "ftm" Model.bundled.registry)
    (Aggregations.addAll .empty [(.max, "id"), (.count, "schema"), (.count, "id")]) = .ok a :=
    ⟨_, rfl⟩
  have hpairs := pairs_statements ha
  have hlist : (Aggregations.addAll .empty [(.max, "id"), (.count, "schema"),
    (.count, "id")]).pairs = [("id", .count), ("id", .max), ("schema", .count)] := by decide
  rw [hlist] at hpairs
  obtain ⟨s₁, rest, hs, h₁, hpairs⟩ := List.map_eq_cons_iff.1 hpairs
  obtain ⟨s₂, rest', rfl, h₂, hpairs⟩ := List.map_eq_cons_iff.1 hpairs
  obtain ⟨s₃, rest'', rfl, -, hpairs⟩ := List.map_eq_cons_iff.1 hpairs
  obtain rfl := List.map_eq_nil_iff.1 hpairs
  obtain ⟨-, hruns⟩ := answers_by_pair _ _ ha
  rw [hs] at hruns
  refine ⟨a, ha, ?_, ?_⟩
  · obtain ⟨hanswered, -⟩ := hruns ⟨fun _ _ => pure (), fun _ _ =>
      pure [⟨.ofList [("aggCount", .int 3), ("aggMax", .text "z")]⟩]⟩ () []
    obtain ⟨values, hrun, hvalues, hsome⟩ :=
      hanswered _ _ (.cons rfl (.cons rfl (.cons rfl .nil)))
    rw [List.forall₂_cons, List.forall₂_cons] at hvalues
    obtain ⟨hcount, hmax, -⟩ := hvalues
    rw [Prod.mk.injEq] at h₁ h₂
    rw [AggregateStatement.answer, h₁.1, h₁.2] at hcount
    rw [AggregateStatement.answer, h₂.1, h₂.2] at hmax
    refine ⟨values, _, hrun, rfl, hcount, hmax, fun h => ?_⟩
    obtain ⟨f, hf, hword⟩ := (hsome _ _).1 h
    obtain rfl : f = .max := Aggregate.word_injective hword.symm
    exact absurd hf (by decide)
  · obtain ⟨-, hrefused, -⟩ := hruns ⟨fun _ _ => pure (), fun _ _ =>
      ExceptT.mk fun n => (if n = 1 then .error .json else .ok [], n + 1)⟩ 0 []
    exact ⟨_, hrefused [s₁.call] s₂.call [s₃.call] _ _ _ _ rfl (.cons rfl .nil) rfl, rfl⟩

end Store

end EntityQuery
