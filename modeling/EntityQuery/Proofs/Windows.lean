import Mathlib.Tactic
import EntityQuery.Proofs.PageSize
import EntityQuery.Proofs.Reachable
import EntityQuery.Registry.Bundled

/-!
# Windows of rows

A query is given a window by an index, a range, a page, a limit or an offset. The text of the query
shows it as a limit and an offset, and these keep the rows asked for, out of all rows that the query
finds without a window.

* `kept`: the rows that a limit and an offset keep;
* `Query.Windowed`, `Query.Reachable.windowed`: the limits and offsets that queries come to have;
* `Query.selects_range`, `Query.selects_page`: the rows of a range and of a page;
* `Query.range?`, `Query.page?`: ranges and pages with their sums and products held to 64 bits;
* **`Query.windows_as_asked`**: which windows are taken, what they keep and why others are refused.
-/

namespace EntityQuery

variable {table : String} {registry : Registry}

/-! ## Rows -/

section Rows

variable {α : Type} (rows : List α)

/-- The rows that a window keeps: so many are skipped as the offset says, and of the rest so many
are kept as the limit says. A limit of -1 keeps all the rest. -/
def kept (limit offset : Int) : List α :=
  if limit = -1 then rows.drop offset.toNat else (rows.drop offset.toNat).take limit.toNat

/-- The rows from a start up to a stop; without a stop, all that follow. -/
def cut (start : Int) : Option Int → List α
  | some stop => rows.extract start.toNat stop.toNat
  | none => rows.drop start.toNat

theorem kept_range {start stop : Int} (h : 0 ≤ start) (hlt : start < stop) :
    kept rows (stop - start) start = cut rows start (some stop) := by
  have hlimit : stop - start ≠ -1 := by omega
  have hlength : (stop - start).toNat = stop.toNat - start.toNat := by omega
  rw [kept, if_neg hlimit, cut, List.extract_eq_take_drop, hlength]

theorem kept_rest (start : Int) : kept rows (-1) start = cut rows start none := if_pos rfl

end Rows

namespace Query

variable {q q' : Query}

/-! ## Limits and offsets -/

/-- The query without its window. -/
def unlimited (q : Query) : Query := { q with limit := none, offset := none }

/-- The limit, if there is one, is -1 or a number of rows, and the offset is a number of rows. -/
structure Windowed (q : Query) : Prop where
  limit : ∀ limit ∈ q.limit, -1 ≤ limit
  offset : ∀ offset ∈ q.offset, 0 ≤ offset

theorem SameButWindow.unlimited_eq (h : q.SameButWindow q') : q'.unlimited = q.unlimited := by
  obtain ⟨limit, offset, rfl⟩ := h
  rfl

/-- The window stands at the end of the text, after the text of the query without it. -/
theorem SameButWindow.sql_eq (h : q.SameButWindow q') {limit offset : Int}
    (hl : q'.limit = some limit) (ho : q'.offset = some offset) :
    q'.sql = q.unlimited.sql ++ " LIMIT " ++ limit.repr ++ " OFFSET " ++ offset.repr := by
  rw [← h.unlimited_eq]
  exact Statement.shows hl ho

/-- A range is one where it is not empty and begins at a row. -/
theorem range_eq_ok_iff {start : Int} {stop : Option Int} : q.range start stop = .ok q' ↔
    0 ≤ start ∧ (∀ s ∈ stop, start < s) ∧
      q' = { q with limit := some (stop.elim (-1) (· - start)), offset := some start } := by
  unfold range
  split_ifs with hstart
  · simp [hstart]
  · have hle : 0 ≤ start := not_lt.1 hstart
    cases stop with
    | none => simp [hle, eq_comm]
    | some stop =>
      by_cases hstop : stop ≤ start
      · simp [hstop]
      · have hlt : start < stop := not_le.1 hstop
        simp [hle, hlt, hstop, eq_comm]

theorem windowed_of_range {start : Int} {stop : Option Int} (h : q.range start stop = .ok q') :
    q'.Windowed := by
  obtain ⟨hstart, hstop, rfl⟩ := range_eq_ok_iff.1 h
  constructor
  · rintro limit ⟨⟩
    cases stop with
    | none => exact le_rfl
    | some stop =>
      have hlt : start < stop := hstop stop rfl
      show -1 ≤ stop - start
      omega
  · rintro offset ⟨⟩
    exact hstart

theorem Windowed.step (hq : q.Windowed) {s : Step} (h : s.run q = .ok q') : q'.Windowed := by
  cases s with
  | filterAll filters =>
    obtain ⟨lookups, rfl⟩ := sameButLookups_of_filterAll h
    exact ⟨hq.limit, hq.offset⟩
  | filter key value =>
    obtain ⟨lookups, rfl⟩ := sameButLookups_of_filter h
    exact ⟨hq.limit, hq.offset⟩
  | orderBy keys direction =>
    obtain ⟨fields, -, -, rfl⟩ := orderBy_eq_ok_iff.1 h
    exact ⟨hq.limit, hq.offset⟩
  | row index =>
    simp only [Step.run, row] at h
    split_ifs at h with hindex
    cases h
    exact ⟨by simp, by simpa using hindex⟩
  | slice start stop step =>
    cases step with
    | none => exact windowed_of_range h
    | some step =>
      simp only [Step.run, slice] at h
      split_ifs at h
      exact windowed_of_range h
  | page number size =>
    simp only [Step.run, page] at h
    split_ifs at h
    exact windowed_of_range h
  | withLimit limit =>
    simp only [Step.run, withLimit] at h
    split_ifs at h with hlimit
    cases h
    exact ⟨by simpa using hlimit, hq.offset⟩
  | withOffset offset =>
    simp only [Step.run, withOffset] at h
    split_ifs at h with hoffset
    cases h
    exact ⟨hq.limit, by simpa using hoffset⟩
  | unpaged =>
    cases h
    exact ⟨by simp [Query.unpaged], by simp [Query.unpaged]⟩

/-- No step makes a window that means nothing. -/
theorem Reachable.windowed (h : Reachable table registry q) : q.Windowed := by
  induction h with
  | new => exact ⟨by simp [Query.new], by simp [Query.new]⟩
  | step s _ he ih => exact ih.step he

/-! ## The rows of a window -/

/-- A window is taken and changes nothing else. The text shows it, and of all rows that the query
finds without a window it keeps those from a start up to a stop. -/
def Selects (q : Query) (result : Except QueryError Query) (start : Int) (stop : Option Int) :
    Prop :=
  ∃ q' limit offset, result = .ok q' ∧ q.SameButWindow q' ∧
    q'.sql = q.unlimited.sql ++ " LIMIT " ++ limit.repr ++ " OFFSET " ++ offset.repr ∧
    ∀ (α : Type) (rows : List α), kept rows limit offset = cut rows start stop

/-- A window is refused as one that cannot be served. -/
def Refused (result : Except QueryError Query) : Prop :=
  ∃ fault, result = .error (.invalidWindow fault)

theorem selects_row {index : Int} (h : 0 ≤ index) :
    q.Selects (q.row index) index (some (index + 1)) := by
  have hrow : q.row index = .ok { q with limit := some 1, offset := some index } :=
    if_neg (not_lt.2 h)
  refine ⟨_, 1, index, hrow, ⟨_, _, rfl⟩, SameButWindow.sql_eq ⟨_, _, rfl⟩ rfl rfl, ?_⟩
  intro α rows
  have hone : index + 1 - index = 1 := by omega
  rw [← kept_range rows h (lt_add_one index), hone]

theorem selects_range {start : Int} {stop : Option Int} (h : 0 ≤ start)
    (hstop : ∀ s ∈ stop, start < s) : q.Selects (q.range start stop) start stop := by
  have hrange := (range_eq_ok_iff (q := q)).2 ⟨h, hstop, rfl⟩
  refine ⟨_, _, start, hrange, ⟨_, _, rfl⟩, SameButWindow.sql_eq ⟨_, _, rfl⟩ rfl rfl, ?_⟩
  intro α rows
  cases stop with
  | none => exact kept_rest rows start
  | some stop => exact kept_range rows h (hstop stop rfl)

theorem refused_range {start : Int} {stop : Option Int}
    (h : ¬ (0 ≤ start ∧ ∀ s ∈ stop, start < s)) : Refused (q.range start stop) := by
  unfold range
  split_ifs with hstart
  · exact ⟨_, rfl⟩
  · cases stop with
    | none => exact absurd ⟨not_lt.1 hstart, by simp⟩ h
    | some stop =>
      have hstop : stop ≤ start := by
        by_contra hlt
        exact h ⟨not_lt.1 hstart, by simpa using hlt⟩
      simp only [hstop, if_true]
      exact ⟨_, rfl⟩

theorem slice_eq_range {start stop step : Option Int} (h : ∀ s ∈ step, s = 1) :
    q.slice start stop step = q.range (start.getD 0) stop := by
  cases step with
  | none => rfl
  | some step => exact if_pos (h step rfl)

theorem refused_slice {start stop step : Option Int}
    (h : ¬ ((∀ s ∈ step, s = 1) ∧ 0 ≤ start.getD 0 ∧ ∀ s ∈ stop, start.getD 0 < s)) :
    Refused (q.slice start stop step) := by
  by_cases hstep : ∀ s ∈ step, s = 1
  · rw [slice_eq_range hstep]
    exact refused_range fun hrange => h ⟨hstep, hrange⟩
  · cases step with
    | none => exact absurd (by simp) hstep
    | some step =>
      have hne : step ≠ 1 := fun heq => hstep (by simpa using heq)
      exact ⟨_, if_neg hne⟩

theorem selects_page {page limit : Int} (hp : 1 ≤ page) (hl : 1 ≤ limit)
    (hm : page * limit ≤ signedMax) :
    q.Selects (q.page page limit) ((page - 1) * limit) (some (page * limit)) := by
  have hfirst : 0 ≤ (page - 1) * limit := mul_nonneg (by omega) (by omega)
  have hlast : page * limit - (page - 1) * limit = limit := by ring
  have hrange : q.page page limit = q.range ((page - 1) * limit) (some (page * limit)) := by
    rw [Query.page, if_neg (not_lt.2 hp), if_neg (not_lt.2 hl), if_neg (not_lt.2 hm)]
  rw [hrange]
  refine selects_range hfirst ?_
  rintro stop ⟨⟩
  omega

/-! ## Words -/

/-- What an operation on signed words of 64 bits comes to; nothing where it overflows. -/
def fits? (n : Int) : Option Int := if isSigned n then some n else none

theorem fits?_of_bounds {n : Int} (h : signedMin ≤ n) (h' : n ≤ signedMax) : fits? n = some n :=
  if_pos (by simp [isSigned, h, h'])

theorem fits?_of_lt {n : Int} (h : signedMax < n) : fits? n = none :=
  if_neg (by simp [isSigned, not_le.2 h])

/-- A range whose length is worked out in words; nothing where that overflows. -/
def range? (q : Query) (start : Int) (stop : Option Int) : Option (Except QueryError Query) :=
  if start < 0 then some (.error (.invalidWindow (.negativeStart start)))
  else match stop with
    | none => some (.ok { q with limit := some (-1), offset := some start })
    | some stop =>
      if stop ≤ start then some (.error (.invalidWindow (.emptyRange start stop)))
      else (fits? (stop - start)).map fun limit =>
        .ok { q with limit := some limit, offset := some start }

/-- A slice in words. -/
def slice? (q : Query) (start stop step : Option Int) : Option (Except QueryError Query) :=
  match step with
  | some step =>
    if step = 1 then q.range? (start.getD 0) stop
    else some (.error (.invalidWindow (.unsupportedStep step)))
  | none => q.range? (start.getD 0) stop

/-- A page whose bounds are worked out in words. The products are tested, so that a page for which
they overflow is refused. -/
def page? (q : Query) (page limit : Int) : Option (Except QueryError Query) :=
  if page < 1 then some (.error (.invalidWindow (.pageOutOfRange page)))
  else if limit < 1 then some (.error (.limitOutOfRange limit))
  else (fits? (page - 1)).bind fun before =>
    match fits? (before * limit), fits? (page * limit) with
    | some start, some stop => q.range? start (some stop)
    | _, _ => some (.error (.invalidWindow (.pageOutOfRange page)))

theorem range?_eq {start : Int} {stop : Option Int} (h : ∀ s ∈ stop, s ≤ signedMax) :
    q.range? start stop = some (q.range start stop) := by
  unfold range? range
  split_ifs with hstart
  · rfl
  · cases stop with
    | none => rfl
    | some stop =>
      have hmax : stop ≤ signedMax := h stop rfl
      have hmin : signedMin ≤ 0 := by decide
      by_cases hstop : stop ≤ start
      · simp only [hstop, if_true]
      · -- both ends are positive, so that their difference is no greater than the stop
        have hfits : fits? (stop - start) = some (stop - start) :=
          fits?_of_bounds (by omega) (by omega)
        simp only [hstop, if_false, hfits, Option.map_some]

theorem slice?_eq {start stop step : Option Int} (h : ∀ s ∈ stop, s ≤ signedMax) :
    q.slice? start stop step = some (q.slice start stop step) := by
  unfold slice? slice
  cases step with
  | none => exact range?_eq h
  | some step =>
    by_cases hstep : step = 1
    · simp only [hstep, if_true]
      exact range?_eq h
    · simp only [hstep, if_false]

theorem page?_eq {page limit : Int} (h : page ≤ signedMax) :
    q.page? page limit = some (q.page page limit) := by
  unfold page? Query.page
  split_ifs with hp hl hm
  · rfl
  · rfl
  · -- a product that is too great is refused, whatever the other one is
    have hfits : fits? (page - 1) = some (page - 1) :=
      fits?_of_bounds (le_trans (by decide) (by omega : (0 : Int) ≤ page - 1)) (by omega)
    rw [hfits, Option.bind_some, fits?_of_lt hm]
    cases fits? ((page - 1) * limit) <;> rfl
  · have hmin : signedMin ≤ 0 := by decide
    have hpos : 0 ≤ (page - 1) * limit := mul_nonneg (by omega) (by omega)
    have hle : (page - 1) * limit ≤ page * limit := by
      have : page * limit = (page - 1) * limit + limit := by ring
      omega
    rw [fits?_of_bounds (by omega) (by omega), Option.bind_some,
      fits?_of_bounds (by omega) (by omega), fits?_of_bounds (by omega) (by omega)]
    refine range?_eq ?_
    rintro stop ⟨⟩
    exact not_lt.1 hm

/-- **A window keeps the rows asked for.** Queries that are reached have a limit of -1 or more and
an offset of 0 or more. An index, a range and a page are taken where they are possible, and keep
their rows out of all rows found without a window; a limit and an offset each change their own half.
All others are refused, a page before the number of its rows. Worked out in words of 64 bits, ranges
and pages come to the same, and no sum or product overflows. -/
theorem windows_as_asked (h : Reachable table registry q) :
    q.Windowed ∧
    (∀ index, (0 ≤ index → q.Selects (q.row index) index (some (index + 1))) ∧
      (index < 0 → Refused (q.row index))) ∧
    (∀ start stop step,
      ((∀ s ∈ step, s = 1) ∧ 0 ≤ start.getD 0 ∧ (∀ s ∈ stop, start.getD 0 < s) →
        q.Selects (q.slice start stop step) (start.getD 0) stop) ∧
      (¬ ((∀ s ∈ step, s = 1) ∧ 0 ≤ start.getD 0 ∧ ∀ s ∈ stop, start.getD 0 < s) →
        Refused (q.slice start stop step))) ∧
    (∀ page limit,
      (1 ≤ page → 1 ≤ limit → page * limit ≤ signedMax →
        q.Selects (q.page page limit) ((page - 1) * limit) (some (page * limit))) ∧
      (page < 1 → Refused (q.page page limit)) ∧
      (1 ≤ page → limit < 1 → q.page page limit = .error (.limitOutOfRange limit)) ∧
      (1 ≤ page → 1 ≤ limit → signedMax < page * limit → Refused (q.page page limit))) ∧
    (∀ limit, (-1 ≤ limit → q.withLimit limit = .ok { q with limit := some limit }) ∧
      (limit < -1 → q.withLimit limit = .error (.limitOutOfRange limit))) ∧
    (∀ offset, (0 ≤ offset → q.withOffset offset = .ok { q with offset := some offset }) ∧
      (offset < 0 → Refused (q.withOffset offset))) ∧
    (∀ start stop step, (∀ s ∈ stop, isSigned s = true) →
      q.slice? start stop step = some (q.slice start stop step)) ∧
    ∀ page limit, isSigned page = true → q.page? page limit = some (q.page page limit) := by
  have hmax : ∀ {n}, isSigned n = true → n ≤ signedMax := by
    intro n hn
    simp only [isSigned, Bool.and_eq_true, decide_eq_true_eq] at hn
    exact hn.2
  refine ⟨h.windowed, fun index => ⟨selects_row, fun hi => ⟨_, if_pos hi⟩⟩,
    fun start stop step => ⟨?_, refused_slice⟩,
    fun page limit => ⟨selects_page, fun hp => ⟨_, if_pos hp⟩, fun hp hl => ?_, fun hp hl hm => ?_⟩,
    fun limit => ⟨fun hl => if_neg (not_lt.2 hl), fun hl => if_pos hl⟩,
    fun offset => ⟨fun ho => if_neg (not_lt.2 ho), fun ho => ⟨_, if_pos ho⟩⟩,
    fun start stop step hs => slice?_eq fun s hmem => hmax (hs s hmem),
    fun page limit hp => page?_eq (hmax hp)⟩
  · rintro ⟨hstep, hstart, hstop⟩
    rw [slice_eq_range hstep]
    exact selects_range hstart hstop
  · rw [Query.page, if_neg (not_lt.2 hp), if_pos hl]
  · refine ⟨.pageOutOfRange page, ?_⟩
    rw [Query.page, if_neg (not_lt.2 hp), if_neg (not_lt.2 hl), if_pos hm]

/-- The third page of ten rows after an offset was set, and a page beyond 64 bits. -/
theorem third_page_selected : ∃ q, Reachable "ftm" Model.bundled.registry q ∧ q.offset = some 5 ∧
    q.Windowed ∧ q.Selects (q.page 3 10) 20 (some 30) ∧
    q.Selects (q.slice (some 7) none (some 1)) 7 none ∧
    Refused (q.page 4611686018427387904 2) ∧ Refused (q.slice (some 7) (some 9) (some 2)) ∧
    q.page? 4611686018427387904 2 = some (q.page 4611686018427387904 2) := by
  have hreach : Reachable "ftm" Model.bundled.registry
      { new "ftm" Model.bundled.registry with offset := some 5 } := .step (.withOffset 5) .new rfl
  obtain ⟨hwindow, -, hslice, hpage, -, -, -, hwords⟩ := windows_as_asked hreach
  refine ⟨_, hreach, rfl, hwindow, (hpage 3 10).1 (by decide) (by decide) (by decide), ?_, ?_, ?_,
    hwords _ 2 (by decide)⟩
  · exact (hslice (some 7) none (some 1)).1 ⟨by simp, by decide, by simp⟩
  · exact (hpage 4611686018427387904 2).2.2.2 (by decide) (by decide) (by decide)
  · exact (hslice (some 7) (some 9) (some 2)).2 (by simp)

end Query

end EntityQuery
