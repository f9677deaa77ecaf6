import Mathlib.Tactic
import EntityQuery.Proofs.Numeral
import EntityQuery.Proofs.Pages
import EntityQuery.Proofs.RequestFilters

/-!
# The size of a page

A request is served a page of so many rows. Nobody who is not authenticated gets more of them than
the configuration allows, whatever else the request asks for: order, schema and lookups leave the
window of its query as it is.

* `Request.Asks`: the number of rows that pairs ask for;
* `Request.limit_eq`: what becomes of it;
* `Request.serves_of_toQuery`: the window of the query of a request;
* **`Request.page_size_capped`**: the page that a request is served.
-/

namespace EntityQuery

variable {table : String} {registry : Registry}

/-! ## Windows -/

/-- The text ends with a window, and is without it the text of the statement without a window. -/
def Statement.Shows (s : Statement) (limit offset : Int) : Prop :=
  s.render = { s with limit := none, offset := none }.render ++ " LIMIT " ++ limit.repr ++
    " OFFSET " ++ offset.repr

theorem Statement.shows {s : Statement} {limit offset : Int} (hl : s.limit = some limit)
    (ho : s.offset = some offset) : s.Shows limit offset := by
  have hword : " " ++ "LIMIT " = " LIMIT " := rfl
  have hpart : spaced s.limitPart = " LIMIT " ++ limit.repr ++ " OFFSET " ++ offset.repr := by
    rw [limitPart, hl, ho, ← hword]
    simp only [spaced, Option.getD_some, String.append_assoc]
  have hnone : spaced { s with limit := none, offset := none }.limitPart = "" := rfl
  rw [Shows, render, render, hpart, hnone, String.append_empty]
  simp only [String.append_assoc]
  rfl

namespace Query

variable {q q' : Query}

/-- The window of a query is a page of so many rows. -/
structure Serves (q : Query) (page size : Int) : Prop where
  limit : q.limit = some size
  offset : q.offset = some ((page - 1) * size)

theorem Serves.shows {page size : Int} (h : q.Serves page size) :
    q.statement.Shows size ((page - 1) * size) :=
  Statement.shows h.limit h.offset

theorem SameButLookups.serves {page size : Int} (h : q.SameButLookups q')
    (hq : q.Serves page size) : q'.Serves page size := by
  obtain ⟨lookups, rfl⟩ := h
  exact ⟨hq.limit, hq.offset⟩

theorem serves_of_page {page size : Int} (h : q.page page size = .ok q') :
    q'.Serves page size := by
  obtain ⟨-, -, -, rfl⟩ := page_eq_ok_iff.1 h
  exact ⟨rfl, rfl⟩

theorem serves_of_orderBy {page size : Int} {keys : List String} {direction : Direction}
    (hq : q.Serves page size) (h : q.orderBy keys direction = .ok q') : q'.Serves page size := by
  obtain ⟨fields, -, -, rfl⟩ := orderBy_eq_ok_iff.1 h
  exact ⟨hq.limit, hq.offset⟩

end Query

theorem Search.shows {s : Search} {page size : Int} (h : s.query.Serves page size) :
    s.statement.Shows size ((page - 1) * size) := by
  obtain ⟨q, term⟩ := s
  cases term with
  | none => exact h.shows
  | some term => exact Statement.shows h.limit h.offset

namespace Request

variable {pairs : List (String × String)} {config : Config} {authenticated : Bool} {r : Request}
  {q : Query}

/-! ## Numbers of rows -/

/-- The number of rows that pairs ask for: the integer that the last `limit` writes, or the
configured number if there is none. -/
def Asks (pairs : List (String × String)) (config : Config) (n : Int) : Prop :=
  match lastGiven? pairs "limit" with
  | some text => Text.Writes text n
  | none => n = config.defaultLimit

theorem integer_limit_eq_ok_iff {n : Int} :
    integer (group pairs) "limit" config.defaultLimit = .ok n ↔ Asks pairs config n := by
  rw [integer, last?_group, Asks]
  cases lastGiven? pairs "limit" with
  | none => simp [eq_comm]
  | some text =>
    simp only [← Text.signed?_trim_eq_some_iff]
    cases Text.signed? (Text.trim text.toList) <;> simp

theorem cap_eq (config : Config) (authenticated : Bool) (n : Int) :
    cap config authenticated n = if authenticated then n else min n config.defaultLimit := by
  unfold cap
  cases authenticated with
  | true => rfl
  | false =>
    by_cases h : config.defaultLimit < n
    · simp [h, min_eq_right h.le]
    · simp [h, min_eq_left (not_lt.1 h)]

theorem one_le_defaultLimit (h : config.faults = []) : 1 ≤ config.defaultLimit := by
  by_contra hlt
  have hle : config.defaultLimit ≤ 0 := by omega
  simp [Config.faults, hle] at h

/-- A request is served what it asks for, and at most what the configuration allows if it is not
authenticated. -/
theorem limit_eq (hr : ofPairs pairs config authenticated = .ok r) :
    ∃ n, Asks pairs config n ∧ 1 ≤ n ∧
      r.limit = if authenticated then n else min n config.defaultLimit := by
  obtain ⟨n, page, lookups, hn, -, -, -, hpos, rfl⟩ := ofPairs_eq_ok_iff.1 hr
  exact ⟨n, integer_limit_eq_ok_iff.1 hn, hpos, cap_eq config authenticated n⟩

theorem one_le_page (hr : ofPairs pairs config authenticated = .ok r) : 1 ≤ r.page := by
  obtain ⟨n, page, lookups, -, -, -, hpage, -, rfl⟩ := ofPairs_eq_ok_iff.1 hr
  exact hpage

/-! ## The query of a request -/

theorem sameButLookups_of_withSchema {narrowed : Query} {schema : Option String}
    (h : withSchema q schema = .ok narrowed) : q.SameButLookups narrowed := by
  cases schema with
  | none =>
    cases h
    exact .refl q
  | some schema =>
    rw [withSchema] at h
    split_ifs at h
    exact Query.sameButLookups_of_filter h

/-- Order, schema and lookups leave the page of a request as it is. -/
theorem serves_of_toQuery (h : r.toQuery table registry = .ok q) : q.Serves r.page r.limit := by
  obtain ⟨paged, ordered, narrowed, hpaged, hordered, hnarrowed, hq⟩ := toQuery_eq_ok_iff.1 h
  have hpage : ordered.Serves r.page r.limit := by
    split_ifs at hordered
    · cases hordered
      exact Query.serves_of_page hpaged
    · exact Query.serves_of_orderBy (Query.serves_of_page hpaged) hordered
  have hschema := sameButLookups_of_withSchema hnarrowed
  have hlookups := Query.sameButLookups_of_filterAll hq
  exact (hschema.trans hlookups).serves hpage

/-- **A request is served one page, of no more rows than it may get.** Under a configuration without
faults the page has at least one row, and as many as the pairs ask for; if the request is not
authenticated, the configured number at most. Whatever the pairs are, the query, the search and the
aggregations of the request are those of this page, and the text ends with its window. -/
theorem page_size_capped (hc : config.faults = [])
    (hr : ofPairs pairs config authenticated = .ok r) :
    1 ≤ r.page ∧ 1 ≤ r.limit ∧
    (∃ n, Asks pairs config n ∧
      r.limit = if authenticated then n else min n config.defaultLimit) ∧
    ∀ table registry,
      (∀ q, r.toQuery table registry = .ok q →
        q.Serves r.page r.limit ∧ q.statement.Shows r.limit ((r.page - 1) * r.limit)) ∧
      (∀ s, r.toSearch table registry = .ok s →
        s.query.Serves r.page r.limit ∧ s.statement.Shows r.limit ((r.page - 1) * r.limit)) ∧
      ∀ a, r.toAggregation table registry = .ok a →
        a.query.Serves r.page r.limit ∧
          a.query.statement.Shows r.limit ((r.page - 1) * r.limit) := by
  obtain ⟨n, hn, hpos, hlimit⟩ := limit_eq hr
  have hone : 1 ≤ r.limit := by
    rw [hlimit]
    split_ifs
    · exact hpos
    · exact le_min hpos (one_le_defaultLimit hc)
  refine ⟨one_le_page hr, hone, ⟨n, hn, hlimit⟩, fun table registry =>
    ⟨fun q hq => ?_, fun s hs => ?_, fun a ha => ?_⟩⟩
  · have hpage := serves_of_toQuery hq
    exact ⟨hpage, hpage.shows⟩
  · have hpage := serves_of_toQuery (toSearch_eq_ok hs)
    exact ⟨hpage, Search.shows hpage⟩
  · have hpage := serves_of_toQuery (toAggregation_eq_ok ha)
    exact ⟨hpage, hpage.shows⟩

/-- A lookup that goes by the name of a limit does not lift the cap. -/
theorem thousand_rows_capped : ({} : Config).faults = [] ∧ ∃ r q,
    ofPairs [("limit", "20"), ("prop", "context.limit"), ("page", "3"), ("value", "5000"),
      ("limit", " +1000 ")] {} false = .ok r ∧
    r.toQuery "ftm" Model.bundled.registry = .ok q ∧
    q.limit = some 100 ∧ q.offset = some 200 ∧ q.statement.Shows 100 200 := by
  refine ⟨rfl, ?_⟩
  obtain ⟨r, q, hr, hq⟩ := exists_query [("limit", "20"), ("prop", "context.limit"), ("page", "3"),
    ("value", "5000"), ("limit", " +1000 ")] {} "ftm" Model.bundled.registry rfl
  obtain ⟨-, -, -, hserved⟩ := page_size_capped rfl hr
  obtain ⟨⟨hlimit, hoffset⟩, hshows⟩ := (hserved "ftm" Model.bundled.registry).1 q hq
  obtain ⟨hsize, hnumber⟩ : r.limit = 100 ∧ r.page = 3 := by
    cases hr
    exact ⟨rfl, rfl⟩
  rw [hsize] at hlimit
  rw [hsize, hnumber] at hoffset hshows
  exact ⟨r, q, hr, hq, hlimit, hoffset, hshows⟩

end Request

end EntityQuery
