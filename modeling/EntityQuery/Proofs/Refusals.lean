import Mathlib.Tactic
import EntityQuery.Proofs.SearchTerm

/-!
# Refusals

A request is refused at many places: where its numbers are read, where its terms are measured, where
names are resolved and where lookups, orders and windows are put together. None of them blames the
storage.

* `QueryError.OfRequest`, `QueryError.isClient_iff`: what is wrong with a request, against what is
  wrong with the storage;
* `Request.ofPairs_refused`, `Request.toSearch_refused`, `Request.toAggregation_refused`,
  `Aggregation.refused`: why each of the operations is refused;
* **`Request.refused_as_client`**: whatever is refused is refused as a fault of the request.
-/

namespace EntityQuery

variable {table : String} {registry : Registry} {e : QueryError}

/-! ## Causes -/

/-- What is wrong with a request: a step of its query is refused, or its schema or its term is. -/
inductive QueryError.OfRequest : QueryError → Prop
  | step {e : QueryError} : e.OfStep → OfRequest e
  | schema (name : String) : OfRequest (.invalidSchema name)
  | term (term : String) : OfRequest (.invalidSearchTerm term)

theorem QueryError.OfStep.isClient (h : e.OfStep) : e.isClient = true := by
  cases h <;> rfl

theorem QueryError.OfRequest.isClient (h : e.OfRequest) : e.isClient = true := by
  cases h with
  | step h => exact h.isClient
  | schema name => rfl
  | term term => rfl

/-- A fault is the client's if it is one of a request or a word that names no aggregate function. -/
theorem QueryError.isClient_iff :
    e.isClient = true ↔ e.OfRequest ∨ ∃ name, e = .invalidAggregation name := by
  constructor
  · intro h
    cases e with
    | invalidField name => exact .inl (.step (.field name))
    | invalidOperator key => exact .inl (.step (.operator key))
    | invalidOperatorArity key => exact .inl (.step (.arity key))
    | invalidWindow fault => exact .inl (.step (.window fault))
    | limitOutOfRange limit => exact .inl (.step (.limit limit))
    | invalidValue field fault => exact .inl (.step (.value field fault))
    | invalidSchema name => exact .inl (.schema name)
    | invalidSearchTerm term => exact .inl (.term term)
    | invalidAggregation name => exact .inr ⟨name, rfl⟩
    | model fault => cases h
    | storage fault => cases h
    | file => cases h
    | json => cases h
  · rintro (h | ⟨name, rfl⟩)
    · exact h.isClient
    · rfl

/-! ## Aggregations -/

/-- An aggregation is refused for a field that is not served. -/
theorem Aggregation.refused {q : Query} {requested : Aggregations}
    (h : new q requested = .error e) : ∃ field, e = .invalidField field :=
  (resolveAll_refused (Outcome.map_eq_error_iff.1 h)).2

/-! ## Requests -/

namespace Request

variable {r : Request} {grouped : Dict (List String)} {key : String}

theorem integer_refused {default : Int} (h : integer grouped key default = .error e) :
    ∃ text, last? grouped key = some text ∧ e = .invalidValue key (.notInteger text) := by
  unfold integer at h
  cases htext : last? grouped key with
  | none =>
    rw [htext] at h
    cases h
  | some text =>
    simp only [htext] at h
    split at h
    · cases h
    · exact ⟨text, rfl, (Except.error.inj h).symm⟩

theorem withProperty_refused {lookups : Dict Json} (h : withProperty grouped lookups = .error e) :
    e = .invalidValue "prop" (.requires "value") ∨
      e = .invalidValue "value" (.requires "prop") := by
  unfold withProperty at h
  split at h
  · cases h
  · exact .inl (Except.error.inj h).symm
  · exact .inr (Except.error.inj h).symm
  · cases h

/-- Pairs make no request for a number that cannot be read or is too small, or for one of `prop` and
`value` without the other. -/
theorem ofPairs_refused {pairs : List (String × String)} {config : Config} {authenticated : Bool}
    (h : ofPairs pairs config authenticated = .error e) :
    (∃ field ∈ ["limit", "page", "prop", "value"], ∃ fault, e = .invalidValue field fault) ∨
      ∃ limit, e = .limitOutOfRange limit := by
  rcases Outcome.bind_eq_error_iff.1 h with h | ⟨limit, -, h⟩
  · obtain ⟨text, -, rfl⟩ := integer_refused h
    exact .inl ⟨"limit", by simp, _, rfl⟩
  rcases Outcome.bind_eq_error_iff.1 h with h | ⟨page, -, h⟩
  · obtain ⟨text, -, rfl⟩ := integer_refused h
    exact .inl ⟨"page", by simp, _, rfl⟩
  rcases Outcome.bind_eq_error_iff.1 h with h | ⟨lookups, -, h⟩
  · rcases withProperty_refused h with rfl | rfl
    · exact .inl ⟨"prop", by simp, _, rfl⟩
    · exact .inl ⟨"value", by simp, _, rfl⟩
  rcases Outcome.refuse_eq_error_iff.1 h with ⟨-, rfl⟩ | ⟨-, h⟩
  · exact .inl ⟨"page", by simp, _, rfl⟩
  rcases Outcome.refuse_eq_error_iff.1 h with ⟨-, rfl⟩ | ⟨-, h⟩
  · exact .inr ⟨limit, rfl⟩
  · cases h

theorem toQuery_ofRequest (h : r.toQuery table registry = .error e) : e.OfRequest := by
  rcases toQuery_refused h with h | ⟨schema, rfl⟩
  · exact .step h
  · exact .schema schema

/-- A search is refused for its term, or as its query is. -/
theorem toSearch_refused (h : r.toSearch table registry = .error e) :
    e = .invalidSearchTerm (r.term.getD "") ∨ r.toQuery table registry = .error e := by
  by_cases hshort : r.normalTerm.length < r.minSearchLength
  · rw [toSearch_of_short hshort] at h
    exact .inl (Except.error.inj h).symm
  · rw [toSearch_of_long hshort] at h
    exact .inr (Outcome.map_eq_error_iff.1 h)

/-- An aggregation is refused as its query is, or for a field that is not served. -/
theorem toAggregation_refused (h : r.toAggregation table registry = .error e) :
    r.toQuery table registry = .error e ∨ ∃ field, e = .invalidField field := by
  rcases Outcome.bind_eq_error_iff.1 h with h | ⟨q, -, h⟩
  · exact .inl h
  · exact .inr (Aggregation.refused h)

/-- **What is refused is refused as a fault of the request.** Whatever the configuration, the flag,
the registry, the table and the text of a request, none of its refusals is one of the storage: not
when it is read, and not when it becomes a query, a search or an aggregation. Neither is any refusal
of a step, be it of a query or of a search, nor of the aggregations of a query. -/
theorem refused_as_client :
    (∀ pairs config authenticated e,
      ofPairs pairs config authenticated = .error e → e.isClient = true) ∧
    (∀ text config authenticated e,
      ofQueryString text config authenticated = .error e → e.isClient = true) ∧
    (∀ (r : Request) table registry e,
      r.toQuery table registry = .error e ∨ r.toSearch table registry = .error e ∨
        r.toAggregation table registry = .error e → e.isClient = true) ∧
    (∀ (q : Query) (step : Query.Step) e, step.run q = .error e → e.isClient = true) ∧
    (∀ (s : Search) (step : Query.Step) e, s.step step.run = .error e → e.isClient = true) ∧
    ∀ (q : Query) (requested : Aggregations) e,
      Aggregation.new q requested = .error e → e.isClient = true := by
  have hpairs : ∀ pairs config authenticated e,
      ofPairs pairs config authenticated = .error e → e.isClient = true := by
    intro pairs config authenticated e h
    rcases ofPairs_refused h with ⟨field, -, fault, rfl⟩ | ⟨limit, rfl⟩
    · rfl
    · rfl
  have hquery : ∀ (r : Request) table registry e,
      r.toQuery table registry = .error e → e.isClient = true :=
    fun r table registry e h => (toQuery_ofRequest h).isClient
  have hstep : ∀ (q : Query) (step : Query.Step) e, step.run q = .error e → e.isClient = true :=
    fun q step e h => (Query.Step.ofStep_of_run h).isClient
  refine ⟨hpairs, fun text => hpairs (pairsOf text), ?_, hstep, ?_, ?_⟩
  · rintro r table registry e (h | h | h)
    · exact hquery r table registry e h
    · rcases toSearch_refused h with rfl | h
      · rfl
      · exact hquery r table registry e h
    · rcases toAggregation_refused h with h | ⟨field, rfl⟩
      · exact hquery r table registry e h
      · rfl
  · intro s step e h
    exact hstep s.query step e (Outcome.map_eq_error_iff.1 h)
  · intro q requested e h
    obtain ⟨field, rfl⟩ := Aggregation.refused h
    rfl

/-- A limit that is no number, a schema that is not known, an order by any property, two operators
in one key and a sum over any property: each is a fault of the request. -/
theorem refused_for_one_word :
    (∃ e, ofQueryString "?q=x&limit=ten" {} false = .error e ∧ e.isClient = true) ∧
    (∃ r e, ofPairs [("schema", "Nothing")] {} true = .ok r ∧
      r.toQuery "ftm" Model.bundled.registry = .error e ∧ e.isClient = true) ∧
    (∃ r e, ofPairs [("order_by", "-name,reverse")] {} true = .ok r ∧
      r.toAggregation "ftm" Model.bundled.registry = .error e ∧ e.isClient = true) ∧
    (∃ e, (Search.new (.new "ftm" Model.bundled.registry) none).step
      (Query.Step.filter "name__gt__lt" (.text "x")).run = .error e ∧ e.isClient = true) ∧
    ∃ e, Aggregation.new (.new "ftm" Model.bundled.registry) (.add .empty .sum "reverse") =
      .error e ∧ e.isClient = true := by
  obtain ⟨-, htext, hrequest, -, hsearch, hnew⟩ := refused_as_client
  have hlimit : ofQueryString "?q=x&limit=ten" {} false =
      .error (.invalidValue "limit" (.notInteger "ten")) := rfl
  have hkey : (Search.new (.new "ftm" Model.bundled.registry) none).step
      (Query.Step.filter "name__gt__lt" (.text "x")).run =
        .error (.invalidOperatorArity "name__gt__lt") := rfl
  have hsum : Aggregation.new (.new "ftm" Model.bundled.registry) (.add .empty .sum "reverse") =
      .error (.invalidField "reverse") := rfl
  have hschema : ∃ r, ofPairs [("schema", "Nothing")] {} true = .ok r ∧
      r.toQuery "ftm" Model.bundled.registry = .error (.invalidSchema "Nothing") := ⟨_, rfl, rfl⟩
  have horder : ∃ r, ofPairs [("order_by", "-name,reverse")] {} true = .ok r ∧
      r.toAggregation "ftm" Model.bundled.registry = .error (.invalidField "reverse") :=
    ⟨_, rfl, rfl⟩
  obtain ⟨r, hr, hschema⟩ := hschema
  obtain ⟨r', hr', horder⟩ := horder
  exact ⟨⟨_, hlimit, htext _ _ _ _ hlimit⟩, ⟨r, _, hr, hschema, hrequest _ _ _ _ (.inl hschema)⟩,
    ⟨r', _, hr', horder, hrequest _ _ _ _ (.inr (.inr horder))⟩, ⟨_, hkey, hsearch _ _ _ hkey⟩,
    ⟨_, hsum, hnew _ _ _ hsum⟩⟩

end Request

end EntityQuery
