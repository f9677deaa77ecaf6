import Mathlib.Tactic
import EntityQuery.Proofs.FanOut
import EntityQuery.Proofs.NormalForm
import EntityQuery.Proofs.RequestFilters
import EntityQuery.Proofs.SearchSteps
import EntityQuery.Proofs.SelectList
import EntityQuery.Proofs.Words

/-!
# Search terms

The term of a request is put into normal form to tell whether it is long enough, and once more when
the search is made. The second time changes nothing, so what is searched for is what was checked.

* `Term.bare`, `Term.nfd_normalize`: a normal term decomposes to what is left of the given one;
* `Term.normalize_normalize`: a normal term is its own normal form;
* `QueryError.OfStep`, `Query.Step.ofStep_of_run`: why steps of queries are refused;
* **`Request.searched_term_checked`**: a search is refused for its term exactly if that is too short
  in normal form, and otherwise binds the words of the normal form.
-/

namespace EntityQuery

variable {table : String} {registry : Registry}

/-! ## Normal forms -/

namespace Term

open Text.Normal

/-- What is left of a term in decomposed form without marks and without blanks at its ends. -/
def bare (term : String) : List Char := Text.trim ((nfd term.toList).filter (!isMark ·))

theorem bare_of_mem {term : String} {c : Char} (h : c ∈ bare term) : Bare c :=
  bare_of_mem_filter_nfd (Text.mem_of_mem_trim h)

theorem toList_normalize (term : String) : (normalize term).toList = compose (bare term) := by
  rw [normalize, String.toList_ofList, withoutMarks_eq]
  exact trim_compose fun c hc => (bare_of_mem_filter_nfd hc).not_isMark

theorem nfd_normalize (term : String) : nfd (normalize term).toList = bare term := by
  rw [toList_normalize, nfd_compose fun c hc => bare_of_mem hc]

theorem not_isMark_of_mem_nfd {term : String} {c : Char}
    (h : c ∈ nfd (normalize term).toList) : isMark c = false := by
  rw [nfd_normalize] at h
  exact (bare_of_mem h).not_isMark

theorem trim_normalize (term : String) :
    Text.trim (normalize term).toList = (normalize term).toList := by
  rw [normalize, String.toList_ofList, Text.trim_trim]

theorem normalize_normalize (term : String) : normalize (normalize term) = normalize term := by
  have hmarks : withoutMarks (normalize term).toList = (normalize term).toList := by
    rw [toList_normalize]
    exact withoutMarks_compose fun c hc => bare_of_mem hc
  rw [normalize, hmarks, trim_normalize, String.ofList_toList]

/-- A term in normal form: its own normal form, with no blank at either end and no mark, not even as
a part of another character. -/
structure IsNormal (term : String) : Prop where
  normalize_eq : normalize term = term
  not_isBlank_head : ∀ c, term.toList.head? = some c → Text.isBlank c = false
  not_isBlank_last : ∀ c, term.toList.getLast? = some c → Text.isBlank c = false
  not_isMark : ∀ c ∈ nfd term.toList, isMark c = false

theorem isNormal_normalize (term : String) : IsNormal (normalize term) where
  normalize_eq := normalize_normalize term
  not_isBlank_head := (Text.trim_eq_self_iff.1 (trim_normalize term)).1
  not_isBlank_last := (Text.trim_eq_self_iff.1 (trim_normalize term)).2
  not_isMark _ := not_isMark_of_mem_nfd

/-- A term that is not empty in normal form has a word. -/
theorem words_normalize_ne_nil {term : String} (h : normalize term ≠ "") :
    Text.words (normalize term).toList ≠ [] := by
  intro hwords
  have hnil := (Text.words_eq_nil_iff (trim_normalize term)).1 hwords
  exact h (String.toList_inj.1 hnil)

end Term

/-! ## Refusals -/

/-- Why a step of a query is refused. -/
inductive QueryError.OfStep : QueryError → Prop
  | field (name : String) : OfStep (.invalidField name)
  | operator (key : String) : OfStep (.invalidOperator key)
  | arity (key : String) : OfStep (.invalidOperatorArity key)
  | value (field : String) (fault : ValueFault) : OfStep (.invalidValue field fault)
  | window (fault : WindowFault) : OfStep (.invalidWindow fault)
  | limit (limit : Int) : OfStep (.limitOutOfRange limit)

theorem Predicate.ofStep_of_compile {key : String} {value : Json} {e : QueryError}
    (h : compile registry key value = .error e) : e.OfStep := by
  rcases Outcome.bind_eq_error_iff.1 h with h | ⟨field, -, h⟩
  · rw [Field.eq_invalidField_of_resolve h]
    exact .field key
  · rcases Outcome.bind_eq_error_iff.1 h with h | ⟨op, -, h⟩
    · rw [Operator.ofKey] at h
      split at h
      · cases h
      · split_ifs at h
        · cases h
          exact .arity key
        · split at h
          · cases h
          · cases h
            exact .operator key
    · split at h
      · cases h
      · cases h
        exact .value key _

namespace Query

variable {q : Query} {e : QueryError}

theorem ofStep_of_filter {key : String} {value : Json} (h : q.filter key value = .error e) :
    e.OfStep := by
  cases hn : value.isNull with
  | true =>
    rw [filter, if_pos hn] at h
    cases h
  | false =>
    cases hp : Predicate.compile q.registry key (merge (q.lookup? key) value) with
    | error e' =>
      have he : q.filter key value = .error e' := by simp [filter, hn, hp, bind, Except.bind]
      rw [he] at h
      cases h
      exact Predicate.ofStep_of_compile hp
    | ok p =>
      rw [((filter_eq_error_iff hn hp).1 h).2]
      exact .field _

theorem ofStep_of_filterAll {filters : List (String × Json)} (h : q.filterAll filters = .error e) :
    e.OfStep := by
  obtain ⟨f, -, q', h⟩ := Outcome.exists_of_foldlM_eq_error h
  exact ofStep_of_filter h

theorem ofStep_of_orderBy {keys : List String} {direction : Direction}
    (h : q.orderBy keys direction = .error e) : e.OfStep := by
  cases hk : keys.mapM (orderField q.registry) with
  | error e' =>
    have he : q.orderBy keys direction = .error e' := by simp [orderBy, hk, bind, Except.bind]
    rw [he] at h
    cases h
    obtain ⟨key, -, hkey⟩ := Outcome.exists_of_mapM_eq_error hk
    obtain ⟨-, name, rfl⟩ := Aggregation.orderField_refused hkey
    exact .field name
  | ok fields =>
    obtain ⟨f, -, rfl⟩ := orderBy_eq_error hk h
    exact .field f.name

theorem ofStep_of_range {start : Int} {stop : Option Int} (h : q.range start stop = .error e) :
    e.OfStep := by
  unfold range at h
  split_ifs at h
  · cases h
    exact .window _
  · cases stop with
    | none => cases h
    | some stop =>
      simp only at h
      split_ifs at h
      cases h
      exact .window _

theorem ofStep_of_page {page limit : Int} (h : q.page page limit = .error e) : e.OfStep := by
  rw [Query.page] at h
  split_ifs at h
  · cases h
    exact .window _
  · cases h
    exact .limit _
  · cases h
    exact .window _
  · exact ofStep_of_range h

theorem ofStep_of_row {index : Int} (h : q.row index = .error e) : e.OfStep := by
  rw [row] at h
  split_ifs at h
  cases h
  exact .window _

theorem ofStep_of_slice {start stop step : Option Int} (h : q.slice start stop step = .error e) :
    e.OfStep := by
  cases step with
  | none => exact ofStep_of_range h
  | some step =>
    simp only [slice] at h
    split_ifs at h
    · exact ofStep_of_range h
    · cases h
      exact .window _

theorem ofStep_of_withLimit {limit : Int} (h : q.withLimit limit = .error e) : e.OfStep := by
  rw [withLimit] at h
  split_ifs at h
  cases h
  exact .limit _

theorem ofStep_of_withOffset {offset : Int} (h : q.withOffset offset = .error e) : e.OfStep := by
  rw [withOffset] at h
  split_ifs at h
  cases h
  exact .window _

/-- **A step is refused for a field, an operator, a value or a window.** -/
theorem Step.ofStep_of_run {s : Step} (h : s.run q = .error e) : e.OfStep := by
  cases s with
  | filterAll filters => exact ofStep_of_filterAll h
  | filter key value => exact ofStep_of_filter h
  | orderBy keys direction => exact ofStep_of_orderBy h
  | row index => exact ofStep_of_row h
  | slice start stop step => exact ofStep_of_slice h
  | page number size => exact ofStep_of_page h
  | withLimit limit => exact ofStep_of_withLimit h
  | withOffset offset => exact ofStep_of_withOffset h
  | unpaged => cases h

end Query

namespace Request

variable {r : Request} {e : QueryError}

/-- The query of a request is refused for one of its steps or for an unknown schema. -/
theorem toQuery_refused (h : r.toQuery table registry = .error e) :
    e.OfStep ∨ ∃ schema, e = .invalidSchema schema := by
  rcases Outcome.bind_eq_error_iff.1 h with h | ⟨paged, -, h⟩
  · exact .inl (Query.ofStep_of_page h)
  · have hrest : ∀ ordered : Query, (do
        let query ← withSchema ordered r.schema
        query.filterAll r.lookups.entries) = .error e →
          e.OfStep ∨ ∃ schema, e = .invalidSchema schema := by
      intro ordered h
      rcases Outcome.bind_eq_error_iff.1 h with h | ⟨narrowed, -, h⟩
      · unfold withSchema at h
        split at h
        · cases h
        · split_ifs at h
          · exact .inl (Query.ofStep_of_filter h)
          · cases h
            exact .inr ⟨_, rfl⟩
      · exact .inl (Query.ofStep_of_filterAll h)
    simp only at h
    split_ifs at h
    · exact hrest paged h
    · rcases Outcome.bind_eq_error_iff.1 h with h | ⟨ordered, -, h⟩
      · exact .inl (Query.ofStep_of_orderBy h)
      · exact hrest ordered h

theorem toQuery_ne_invalidSearchTerm (term : String) :
    r.toQuery table registry ≠ .error (.invalidSearchTerm term) := by
  intro h
  rcases toQuery_refused h with h | ⟨schema, h⟩
  · cases h
  · cases h

/-! ## The term of a request -/

/-- The normal form of the term of a request, which is empty if there is none. -/
def normalTerm (r : Request) : String := (r.term.map Term.normalize).getD ""

/-- The term is the last value of its key, and its least length is the configured one. -/
theorem term_eq {pairs : List (String × String)} {config : Config} {authenticated : Bool}
    (hr : ofPairs pairs config authenticated = .ok r) :
    r.term = lastGiven? pairs "q" ∧ r.minSearchLength = config.minSearchLength := by
  obtain ⟨limit, page, lookups, -, -, -, -, -, rfl⟩ := ofPairs_eq_ok_iff.1 hr
  exact ⟨rfl, rfl⟩

theorem normalTerm_short_iff {n : Nat} (hn : 1 ≤ n) : r.normalTerm.length < n ↔
    r.term = none ∨ ∃ term, r.term = some term ∧ (Term.normalize term).length < n := by
  rw [normalTerm]
  cases r.term with
  | none =>
    have hpos : 0 < n := hn
    simpa using hpos
  | some term => simp

theorem toSearch_of_short (h : r.normalTerm.length < r.minSearchLength) :
    r.toSearch table registry = .error (.invalidSearchTerm (r.term.getD "")) := by
  rw [normalTerm] at h
  simp [toSearch, h, throw, throwThe, MonadExceptOf.throw, bind, Except.bind]

theorem toSearch_of_long (h : ¬ r.normalTerm.length < r.minSearchLength) :
    r.toSearch table registry =
      (r.toQuery table registry).map (Search.new · (some r.normalTerm)) := by
  rw [normalTerm] at h ⊢
  simp only [toSearch, h, if_false]
  cases r.toQuery table registry <;> rfl

/-- A search is refused for its term exactly if that is too short, whatever else there is to
refuse. -/
theorem toSearch_refused_iff : (∃ given, r.toSearch table registry =
      .error (.invalidSearchTerm given)) ↔ r.normalTerm.length < r.minSearchLength := by
  constructor
  · rintro ⟨given, h⟩
    by_contra hlong
    rw [toSearch_of_long hlong, Outcome.map_eq_error_iff] at h
    exact toQuery_ne_invalidSearchTerm given h
  · intro h
    exact ⟨_, toSearch_of_short h⟩

/-- The term of a search that is made is the normal form of the request's, though it is put into
normal form twice. -/
theorem term_toSearch {s : Search} (h : r.toSearch table registry = .ok s)
    (hmin : 1 ≤ r.minSearchLength) : ∃ term, r.term = some term ∧
      s.term = some (Term.normalize term) ∧ r.minSearchLength ≤ (Term.normalize term).length := by
  have hlong : ¬ r.normalTerm.length < r.minSearchLength := by
    intro hshort
    rw [toSearch_of_short hshort] at h
    cases h
  have hterm := (normalTerm_short_iff hmin).not.1 hlong
  push Not at hterm
  obtain ⟨hsome, hlength⟩ := hterm
  obtain ⟨term, hterm⟩ := Option.ne_none_iff_exists'.1 hsome
  rw [toSearch_of_long hlong, normalTerm, hterm] at h
  obtain ⟨q, -, rfl⟩ := Outcome.map_eq_ok_iff.1 h
  refine ⟨term, hterm, Search.term_new_eq_some_iff.2 ⟨_, rfl, ?_, ?_⟩, hlength term hterm⟩
  · exact (Term.normalize_normalize term).symm
  · intro hempty
    have hpos := hmin.trans (hlength term hterm)
    rw [hempty] at hpos
    exact absurd hpos (by decide)

/-- **What is searched for is what was checked.** A normal form stays as it is when it is put into
normal form again. So a search is refused for its term exactly if the request has none or one whose
normal form is too short; otherwise that normal form is the term, and the last value that is bound
quotes its words, of which there is at least one. -/
theorem searched_term_checked : (∀ term, Term.IsNormal (Term.normalize term)) ∧
    ∀ (r : Request) (config : Config) (table : String) (registry : Registry),
      r.minSearchLength = config.minSearchLength → 1 ≤ config.minSearchLength →
        ((∃ given, r.toSearch table registry = .error (.invalidSearchTerm given)) ↔
          r.term = none ∨ ∃ term, r.term = some term ∧
            (Term.normalize term).length < config.minSearchLength) ∧
        ∀ s, r.toSearch table registry = .ok s → ∃ term, r.term = some term ∧
          s.term = some (Term.normalize term) ∧
          config.minSearchLength ≤ (Term.normalize term).length ∧
          s.parameters.getLast? = some (.text (Term.matchExpression (Term.normalize term))) ∧
          ∃ words, Term.quotedStrings? (Term.matchExpression (Term.normalize term)) = some words ∧
            words ≠ [] := by
  refine ⟨Term.isNormal_normalize, fun r config table registry hr hmin => ?_⟩
  rw [← hr] at hmin ⊢
  refine ⟨toSearch_refused_iff.trans (normalTerm_short_iff hmin), fun s hs => ?_⟩
  obtain ⟨term, hterm, hs, hlength⟩ := term_toSearch hs hmin
  refine ⟨term, hterm, hs, hlength, ?_, _, Term.quotedStrings?_matchExpression _, ?_⟩
  · exact Search.getLast?_parameters hs
  · refine Term.words_normalize_ne_nil fun hempty => ?_
    rw [hempty] at hlength
    exact absurd (hmin.trans hlength) (by decide)

/-- A term with accents and blanks is searched for without them, and one of three letters is
refused. -/
theorem accents_dropped :
    (∃ r s, ofPairs [("q", " Müller Ü ")] {} false = .ok r ∧
      r.toSearch "ftm" Model.bundled.registry = .ok s ∧ s.term = some "Muller U" ∧
      s.parameters.getLast? = some (.text "\"Muller\" \"U\"")) ∧
    ∃ r, ofPairs [("page", "0"), ("page", "2"), ("q", " Ürs ")] {} false = .ok r ∧
      ∃ given, r.toSearch "ftm" Model.bundled.registry = .error (.invalidSearchTerm given) := by
  have hnormal : Term.normalize " Müller Ü " = "Muller U" := by decide +kernel
  have hshort : (Term.normalize " Ürs ").length = 3 := by decide +kernel
  constructor
  · obtain ⟨r, q, hr, hq⟩ := exists_query [("q", " Müller Ü ")] {} "ftm" Model.bundled.registry rfl
    obtain ⟨hterm, hmin⟩ := term_eq hr
    have hlast : lastGiven? [("q", " Müller Ü ")] "q" = some " Müller Ü " := rfl
    rw [hlast] at hterm
    have hs : r.toSearch "ftm" Model.bundled.registry =
        .ok (Search.new q (some r.normalTerm)) := by
      rw [toSearch_of_long, hq]
      · rfl
      · rw [normalTerm, hterm, Option.map_some, Option.getD_some, hnormal, hmin]
        decide
    obtain ⟨term, ht, hnew, -, hlast, -⟩ :=
      (searched_term_checked.2 r {} _ _ hmin (by decide)).2 _ hs
    rw [hterm, Option.some.injEq] at ht
    rw [← ht, hnormal] at hnew hlast
    exact ⟨r, _, hr, hs, hnew, hlast⟩
  · obtain ⟨r, q, hr, -⟩ := exists_query [("page", "0"), ("page", "2"), ("q", " Ürs ")] {} "ftm"
      Model.bundled.registry rfl
    obtain ⟨hterm, hmin⟩ := term_eq hr
    refine ⟨r, hr, (searched_term_checked.2 r {} _ _ hmin (by decide)).1.2 (.inr ?_)⟩
    exact ⟨" Ürs ", hterm, by rw [hshort]; decide⟩

end Request

end EntityQuery
