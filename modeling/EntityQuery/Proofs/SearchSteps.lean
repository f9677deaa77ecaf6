import Mathlib.Tactic
import EntityQuery.Proofs.AllRows

/-!
# Steps of searches

A search goes through the steps of its query, and at the end its statement is that of the query with
a match: rows come from the index joined with the table, their text has to match, and the order is
written for both sources or is the rank.

* `Select.matching`: a tree with a match;
* `Search.select_matching`: the tree of a search is that of its query with a match;
* `Search.term_new_eq_some_iff`: the term of a search that is made;
* `Search.runAll_eq`: the steps of a search are the steps of its query;
* `Search.AddsMatch`: what the statement of a search has in common with that of its query, and what
  it adds;
* **`Search.steps_follow_query`**: however many steps a search goes through.
-/

namespace EntityQuery

variable {table : String} {registry : Registry}

/-! ## Trees with a match -/

namespace Select

/-- An expression where several sources have columns: a column stands with its row. -/
def Expression.qualified : Expression → Expression
  | .bare name => .column .entity name
  | e => e

/-- A source with the index joined to the entities. -/
def Source.indexed : Source → Source
  | .entities table => .found table
  | source => source

/-- An order whose columns stand with their rows. -/
def Order.qualified (order : Order) : Order :=
  ⟨order.items.map Expression.qualified, order.direction⟩

/-- The order by the rank in the index. -/
def byRank : Order := ⟨[.column .index "rank"], none⟩

/-- The tree whose rows match a term as well. Without an order of their own they come by rank. -/
def matching (s : Select) (term : Json) : Select :=
  { s with
    sources := s.sources.map Source.indexed
    conditions := s.conditions ++ [.found term]
    order := some ((s.order.map Order.qualified).getD byRank) }

end Select

theorem Field.qualified_orderItem (joined : Bool) (f : Field) :
    (f.orderItem joined).qualified = f.orderItem true := by
  cases f with
  | column name => cases joined <;> rfl
  | property name numeric => cases numeric <;> rfl
  | datasets | scalar | list | reverse => rfl

namespace Search

variable {s : Search} {term : String}

theorem sources_matching (h : s.term = some term) :
    s.sources = (⟨s.query, none⟩ : Search).sources.map Select.Source.indexed := by
  rw [sources, sources, h]
  cases s.query.hasReverse <;> rfl

theorem conditions_matching (h : s.term = some term) : s.conditions =
    (⟨s.query, none⟩ : Search).conditions ++ [.found (.text (Term.matchExpression term))] := by
  rw [conditions, conditions, h, List.append_nil]

theorem ordering_matching (h : s.term = some term) : s.ordering = some
    (((⟨s.query, none⟩ : Search).ordering.map Select.Order.qualified).getD Select.byRank) := by
  have hjoined : s.joined = true := by rw [joined, h, Option.isSome_some, Bool.or_true]
  rw [ordering, ordering, hjoined, h]
  cases s.query.order with
  | none => rfl
  | some order =>
    have hitems : (order.fields.map (Field.orderItem (⟨s.query, none⟩ : Search).joined)).map
        Select.Expression.qualified = order.fields.map (Field.orderItem true) := by
      rw [List.map_map]
      exact List.map_congr_left fun f _ => Field.qualified_orderItem _ f
    simp only [Option.map_some, Option.getD_some, Select.Order.qualified, hitems]

/-- The tree of a search is that of its query with a match of the term. -/
theorem select_matching (h : s.term = some term) :
    s.select = s.query.select.matching (.text (Term.matchExpression term)) := by
  have hitems : s.items = (⟨s.query, none⟩ : Search).items := rfl
  rw [select, sources_matching h, conditions_matching h, ordering_matching h, hitems]
  rfl

/-! ## Terms -/

/-- A search has the normal form of the term that it is made with, unless that is empty. -/
theorem term_new_eq_some_iff {q : Query} {given : Option String} : (new q given).term = some term ↔
    ∃ text, given = some text ∧ term = Term.normalize text ∧ term ≠ "" := by
  rw [new, Option.filter_eq_some_iff, Option.map_eq_some_iff]
  constructor
  · rintro ⟨⟨text, rfl, rfl⟩, hne⟩
    exact ⟨text, rfl, rfl, by simpa using hne⟩
  · rintro ⟨text, rfl, rfl, hne⟩
    exact ⟨⟨text, rfl, rfl⟩, by simpa using hne⟩

theorem term_new_eq_none_iff {q : Query} {given : Option String} : (new q given).term = none ↔
    ∀ text, given = some text → Term.normalize text = "" := by
  rw [Option.eq_none_iff_forall_ne_some]
  simp only [ne_eq, term_new_eq_some_iff]
  constructor
  · intro h text htext
    by_contra hne
    exact h _ ⟨text, htext, rfl, hne⟩
  · rintro h term ⟨text, htext, rfl, hne⟩
    exact hne (h text htext)

/-- The last value that a search binds is the expression for its term. -/
theorem getLast?_parameters (h : s.term = some term) :
    s.parameters.getLast? = some (.text (Term.matchExpression term)) := by
  rw [parameters, parameters_statement, h]
  exact List.getLast?_concat

/-! ## Steps -/

/-- The steps of a search are the steps of its query, and the term stays as it is. -/
theorem runAll_eq (q : Query) (term : Option String) (steps : List Query.Step) :
    (⟨q, term⟩ : Search).runAll steps = (q.runAll steps).map (⟨·, term⟩) :=
  Outcome.foldlM_map (g := fun q => (⟨q, term⟩ : Search)) (fun _ _ => rfl) steps q

/-- What the statement of a search has in common with that of its query, and what it adds. -/
structure AddsMatch (s : Search) (term : String) : Prop where
  select : s.statement.select = s.query.statement.select
  limit : s.statement.limit = s.query.statement.limit
  offset : s.statement.offset = s.query.statement.offset
  conditions : s.statement.conditions = s.query.statement.conditions ++ ["s.text MATCH ?"]
  parameters : s.statement.parameters =
    s.query.statement.parameters ++ [.text (Term.matchExpression term)]
  source : ∃ others, others ∈ ["", ", json_each(t.entity, '$.properties') r"] ∧
    s.query.statement.source = s.query.table ++ " t" ++ others ∧
    s.statement.source =
      s.query.table ++ "__fts s LEFT JOIN " ++ s.query.table ++ " t ON s.id = t.id" ++ others
  ordered : ∀ order, s.query.order = some order → s.statement.order = some (order.sql true)
  unordered : s.query.order = none → s.statement.order = some "s.rank"
  tree : s.query.statement = s.query.select.statement Select.hole ∧
    s.statement =
      (s.query.select.matching (.text (Term.matchExpression term))).statement Select.hole

theorem exists_source (s : Search) : ∃ others,
    others ∈ ["", ", json_each(t.entity, '$.properties') r"] ∧
    s.query.source = s.query.table ++ " t" ++ others ∧
    s.source = s.query.table ++ "__fts s LEFT JOIN " ++ s.query.table ++ " t ON s.id = t.id" ++
      others := by
  cases hr : s.query.hasReverse with
  | false =>
    refine ⟨"", by simp, by simp [Query.source, hr], String.toList_inj.1 ?_⟩
    simp [source, indexTable, indexEnding, hr]
  | true =>
    refine ⟨", json_each(t.entity, '$.properties') r", by simp, String.toList_inj.1 ?_,
      String.toList_inj.1 ?_⟩
    · simp [Query.source, Query.reverseSource, hr]
    · simp [source, indexTable, indexEnding, Query.reverseSource, hr]

theorem addsMatch (h : s.Reachable table registry) (hterm : s.term = some term) :
    s.AddsMatch term := by
  have hs : s.statement = { s.query.statement with
      source := s.source
      conditions := s.query.statement.conditions ++ ["s.text MATCH ?"]
      parameters := s.query.statement.parameters ++ [.text (Term.matchExpression term)]
      order := some s.order } := by
    rw [statement, hterm]
  refine ⟨by rw [hs], by rw [hs], by rw [hs], by rw [hs], by rw [hs], ?_, fun order ho => ?_,
    fun ho => ?_, statement_eq (reachable_of_query h.query), ?_⟩
  · rw [hs]
    exact exists_source s
  · rw [hs, Search.order, ho]
  · rw [hs, Search.order, ho]
  · rw [← select_matching hterm, ← statement_eq h]

theorem Reachable.runAll {s' : Search} {steps : List Query.Step} (h : s.Reachable table registry)
    (hs : s.runAll steps = .ok s') : s'.Reachable table registry :=
  Outcome.foldlM_induct (fun _ step _ hreach hrun => .step step hreach hrun) h hs

/-- **A search goes through the steps of its query and adds a match.** However many steps there are,
it is refused where its query is, for the same cause, and keeps the normal form of the term that it
was made with. Its statement is that of its query if there is no term or an empty one, and adds a
match to it otherwise. -/
theorem steps_follow_query {q : Query} (h : q.Reachable table registry) (given : Option String)
    (steps : List Query.Step) :
    (new q given).runAll steps = (q.runAll steps).map (⟨·, (new q given).term⟩) ∧
    ((new q given).term = none ↔ ∀ text, given = some text → Term.normalize text = "") ∧
    (∀ term, (new q given).term = some term ↔
      ∃ text, given = some text ∧ term = Term.normalize text ∧ term ≠ "") ∧
    ∀ s, (new q given).runAll steps = .ok s →
      ((new q given).term = none → s.statement = s.query.statement) ∧
      ∀ term, (new q given).term = some term → s.AddsMatch term := by
  refine ⟨runAll_eq q _ steps, term_new_eq_none_iff, fun _ => term_new_eq_some_iff, fun s hs => ?_⟩
  have hterm : s.term = (new q given).term := by
    have hmap := (runAll_eq q (new q given).term steps).symm.trans hs
    obtain ⟨q', -, rfl⟩ := Outcome.map_eq_ok_iff.1 hmap
    rfl
  refine ⟨fun hnone => ?_, fun term hsome => ?_⟩
  · rw [statement, hterm, hnone]
  · exact addsMatch ((Reachable.new given h).runAll hs) (hterm.trans hsome)

/-- The second page of a search by a property of any name, in descending order of the ids, has both
sources and a qualified order. -/
theorem second_page_searched : ∃ s,
    (new (.new "ftm" Model.bundled.registry) (some " Müller ")).runAll
      [.filter "reverse" (.text "x"), .orderBy ["id"] .descending, .page 2 10] = .ok s ∧
    s.statement.source =
      "ftm__fts s LEFT JOIN ftm t ON s.id = t.id, json_each(t.entity, '$.properties') r" ∧
    s.statement.parameters = [.text "x", .text "\"Muller\""] ∧
    s.statement.order = some "t.id DESC" ∧ s.statement.offset = some 10 := by
  obtain ⟨q, hq, hplain, hbound, horder, hoffset, hname⟩ :
    ∃ q, (Query.new "ftm" Model.bundled.registry).runAll
        [.filter "reverse" (.text "x"), .orderBy ["id"] .descending, .page 2 10] = .ok q ∧
      q.statement.source = "ftm t, json_each(t.entity, '$.properties') r" ∧
      q.statement.parameters = [.text "x"] ∧ q.order = some ⟨[.column "id"], .descending⟩ ∧
      q.statement.offset = some 10 ∧ q.table = "ftm" := ⟨_, rfl, rfl, rfl, rfl, rfl, rfl⟩
  have hnormal : Term.normalize " Müller " = "Muller" := by decide +kernel
  obtain ⟨hrun, -, hterm, hstatement⟩ := steps_follow_query
    (.new : Query.Reachable "ftm" Model.bundled.registry _) (some " Müller ")
    [.filter "reverse" (.text "x"), .orderBy ["id"] .descending, .page 2 10]
  have hmuller := (hterm "Muller").2 ⟨_, rfl, hnormal.symm, by decide⟩
  rw [hq, hmuller] at hrun
  have hadds := (hstatement _ hrun).2 _ hmuller
  refine ⟨_, hrun, ?_, ?_, ?_, hadds.offset.trans hoffset⟩
  · obtain ⟨others, hothers, hrest, hsource⟩ := hadds.source
    simp only [hplain, hname] at hrest hsource
    rcases List.mem_pair.1 hothers with rfl | rfl
    · exact absurd hrest (by decide)
    · rw [hsource]
      decide
  · have hquoted : Term.matchExpression "Muller" = "\"Muller\"" := by decide
    rw [hadds.parameters, hbound, hquoted]
    rfl
  · rw [hadds.ordered _ horder]
    decide

end Search

end EntityQuery
