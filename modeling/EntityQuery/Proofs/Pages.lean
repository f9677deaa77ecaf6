import Mathlib.Tactic
import Mathlib.Data.Int.Range
import Mathlib.Order.CompletePartialOrder
import EntityQuery.Pagination
import EntityQuery.Proofs.Outcome
import EntityQuery.Query

/-!
# Pages

A page says whether another one follows it, and a query takes the rows of a page. Both count rows
within 64 bits, each in its own way: the one lets a product that is too great stand at the end of
the range, the other refuses it.

* `Pagination.hasNext_iff`, `Pagination.next?_eq_some_iff`, `Pagination.previous?_eq_some_iff`: what
  a page says of its neighbours, without a bound on the numbers;
* `Pagination.Walk`: the pages that are visited from a page on;
* `Pagination.walk_next`, `Pagination.walk_previous`: all pages are visited, onward and back;
* `Query.page_eq_ok_iff`: the window of a page;
* **`Pagination.walk_visits_every_row_once`**: the pages of a walk have every row in one window.
-/

namespace EntityQuery

/-! ## The window of a page -/

namespace Query

variable {q q' : Query} {page limit : Int}

/-- The places of the rows that a query keeps, out of all rows that its lookups ask for: those from
its offset on, and only so many if its limit is not negative. -/
def window (q : Query) : Set Int :=
  {row | q.offset.getD 0 ≤ row ∧ ∀ limit ∈ q.limit, 0 ≤ limit → row < q.offset.getD 0 + limit}

/-- The query for the rows of a page. -/
def onPage (q : Query) (limit page : Int) : Query :=
  { q with limit := some limit, offset := some ((page - 1) * limit) }

theorem window_onPage (hl : 1 ≤ limit) :
    (q.onPage limit page).window = Set.Ico ((page - 1) * limit) (page * limit) := by
  have hend : (page - 1) * limit + limit = page * limit := by ring
  ext row
  simp [window, onPage, hend, show 0 ≤ limit by lia]

/-- A page is one where it is counted from 1 and ends within 64 bits. -/
theorem page_eq_ok_iff : q.page page limit = .ok q' ↔
    1 ≤ page ∧ 1 ≤ limit ∧ page * limit ≤ signedMax ∧ q' = q.onPage limit page := by
  unfold Query.page
  split_ifs with hp hl hm
  · simp [hp]
  · simp [hl]
  · simp [hm]
  · rw [not_lt] at hp hl hm
    have hlen : page * limit - (page - 1) * limit = limit := by ring
    have hstart : ¬ (page - 1) * limit < 0 :=
      not_lt.2 (mul_nonneg (sub_nonneg.2 hp) (zero_le_one.trans hl))
    have hstop : ¬ page * limit ≤ (page - 1) * limit := by lia
    simp only [range, hstart, hstop, if_false, hlen, hp, hl, hm, true_and, Except.ok.injEq]
    exact eq_comm

end Query

namespace Pagination

variable {p : Pagination} {limit total : Int}

/-! ## Neighbours -/

theorem isSigned_of_nonneg {n : Int} (h : 0 ≤ n) (hn : n ≤ signedMax) : isSigned n = true := by
  have hmin : signedMin ≤ n := le_trans (by decide) h
  simp [isSigned, hmin, hn]

/-- A product that was brought down to the greatest number is below no number of rows, as the true
one is not. -/
theorem hasNext_iff (hp : 1 ≤ p.page) (hl : 1 ≤ p.limit) (ht : p.total ≤ signedMax) :
    p.hasNext = true ↔ p.page * p.limit < p.total := by
  have hpos : 0 < p.page * p.limit := mul_pos (by lia) (by lia)
  rw [hasNext, saturate, decide_eq_true_iff, mul_comm p.limit]
  unfold signedMin signedMax at *
  omega

theorem isSigned_page_succ (hp : 1 ≤ p.page) (hl : 1 ≤ p.limit) (ht : p.total ≤ signedMax)
    (hlt : p.page * p.limit < p.total) : isSigned (p.page + 1) = true := by
  have hle : p.page ≤ p.page * p.limit := le_mul_of_one_le_right (by lia) hl
  exact isSigned_of_nonneg (by lia) (by lia)

/-- No number of a page goes round the end of its 64 bits. -/
theorem next?_eq_some_iff (hp : 1 ≤ p.page) (hl : 1 ≤ p.limit) (ht : p.total ≤ signedMax)
    {n : Int} : p.next? = some n ↔ p.page * p.limit < p.total ∧ n = p.page + 1 := by
  rw [next?, Option.ite_none_right_eq_some, Option.some.injEq, hasNext_iff hp hl ht]
  refine and_congr_right fun hlt => ?_
  rw [wrapSigned_of_isSigned (isSigned_page_succ hp hl ht hlt), eq_comm]

theorem next?_eq_none_iff (hp : 1 ≤ p.page) (hl : 1 ≤ p.limit) (ht : p.total ≤ signedMax) :
    p.next? = none ↔ p.total ≤ p.page * p.limit := by
  rw [next?, ite_eq_right_iff, hasNext_iff hp hl ht]
  simp

theorem previous?_eq_some_iff {n : Int} : p.previous? = some n ↔ 1 < p.page ∧ n = p.page - 1 := by
  simp [previous?, hasPrevious, eq_comm]

theorem previous?_eq_none_iff : p.previous? = none ↔ p.page ≤ 1 := by
  simp [previous?, hasPrevious]

/-! ## Lists of pages -/

/-- The number of the last page of all rows; without rows, the first page is the last. -/
def lastPage (limit total : Int) : Int := max 1 ⌈(total / limit : ℚ)⌉

theorem lt_lastPage_iff (hl : 1 ≤ limit) {page : Int} :
    page < lastPage limit total ↔ page < 1 ∨ page * limit < total := by
  have hpos : (0 : ℚ) < limit := by exact_mod_cast hl
  rw [lastPage, lt_max_iff, Int.lt_ceil, lt_div_iff₀ hpos]
  exact_mod_cast Iff.rfl

theorem lastPage_le_iff (hl : 1 ≤ limit) {page : Int} :
    lastPage limit total ≤ page ↔ 1 ≤ page ∧ total ≤ page * limit := by
  rw [← not_lt, lt_lastPage_iff hl, not_or, not_lt, not_lt]

theorem one_le_lastPage : 1 ≤ lastPage limit total := le_max_left _ _

theorem range_eq_cons {m n : Int} (h : m < n) : Int.range m n = m :: Int.range (m + 1) n := by
  have hlen : (n - m).toNat = (n - (m + 1)).toNat + 1 := by lia
  rw [Int.range, Int.range, hlen, List.range_succ_eq_map, List.map_cons, List.map_map]
  refine congrArg₂ List.cons (add_zero m) (List.map_congr_left fun i _ => ?_)
  rw [Function.comp_apply, Nat.cast_succ]
  ring

theorem range_eq_concat {m n : Int} (h : m ≤ n) : Int.range m (n + 1) = Int.range m n ++ [n] := by
  have hlen : (n + 1 - m).toNat = (n - m).toNat + 1 := by lia
  rw [Int.range, Int.range, hlen, List.range_succ, List.map_append, List.map_singleton,
    Int.toNat_of_nonneg (sub_nonneg.2 h), add_sub_cancel]

theorem range_self (n : Int) : Int.range n n = [] := by simp [Int.range]

theorem pairwise_range (m n : Int) : (Int.range m n).Pairwise (· < ·) :=
  List.pairwise_map.2 (List.pairwise_lt_range.imp fun h => by lia)

/-! ## Walks -/

/-- The pages that are visited from a page on, each leading to another one up to the last. -/
inductive Walk (follow : Pagination → Option Int) : Pagination → List Int → Prop
  | last {p : Pagination} : follow p = none → Walk follow p [p.page]
  | step {p : Pagination} {n : Int} {visited : List Int} :
      follow p = some n → Walk follow { p with page := n } visited →
        Walk follow p (p.page :: visited)

theorem Walk.unique {follow : Pagination → Option Int} {as bs : List Int} (ha : Walk follow p as)
    (hb : Walk follow p bs) : as = bs := by
  induction ha generalizing bs with
  | last h =>
    cases hb with
    | last => rfl
    | step h' => cases h.symm.trans h'
  | step h _ ih =>
    cases hb with
    | last h' => cases h'.symm.trans h
    | step h' hrest =>
      cases h.symm.trans h'
      rw [ih hrest]

/-- From a page on, the pages up to the last one are visited. -/
theorem walk_next (hl : 1 ≤ limit) (ht : total ≤ signedMax) {page : Int} (hp : 1 ≤ page)
    (hle : page ≤ lastPage limit total) :
    Walk next? ⟨page, limit, total⟩ (Int.range page (lastPage limit total + 1)) := by
  -- from the last page, which nothing follows, to the pages before it
  induction page, hle using Int.leInductionDown with
  | base =>
    rw [range_eq_concat le_rfl, range_self]
    exact .last ((next?_eq_none_iff hp hl ht).2 ((lastPage_le_iff hl).1 le_rfl).2)
  | pred page hle ih =>
    have hmore : (page - 1) * limit < total :=
      ((lt_lastPage_iff hl).1 (by lia : page - 1 < lastPage limit total)).resolve_left (not_lt.2 hp)
    have hnext : next? ⟨page - 1, limit, total⟩ = some page :=
      (next?_eq_some_iff hp hl ht).2 ⟨hmore, (sub_add_cancel page 1).symm⟩
    rw [range_eq_cons (by lia), sub_add_cancel]
    exact .step hnext (ih (by lia))

/-- From a page back, the pages down to the first one are visited. -/
theorem walk_previous {page : Int} (hp : 1 ≤ page) :
    Walk previous? ⟨page, limit, total⟩ (Int.range 1 (page + 1)).reverse := by
  induction page, hp using Int.leInduction with
  | base =>
    rw [range_eq_concat le_rfl, range_self]
    exact .last (previous?_eq_none_iff.2 le_rfl)
  | succ page hp ih =>
    have hprevious : previous? ⟨page + 1, limit, total⟩ = some page :=
      previous?_eq_some_iff.2 ⟨by lia, (add_sub_cancel_right page 1).symm⟩
    rw [range_eq_concat (by lia), List.reverse_append]
    exact .step hprevious ih

/-! ## Rows -/

/-- Every page of a walk ends within 64 bits if the last one cannot go far beyond the rows. -/
theorem mul_le_of_le_lastPage (hl : 1 ≤ limit) (h0 : 0 ≤ total) (ht : total + limit ≤ signedMax)
    {page : Int} (hle : page ≤ lastPage limit total) : page * limit ≤ signedMax := by
  have hend : page * limit = (page - 1) * limit + limit := by ring
  rcases (lt_lastPage_iff hl).1 (by lia : page - 1 < lastPage limit total) with h | h
  · have : (page - 1) * limit ≤ 0 := mul_nonpos_of_nonpos_of_nonneg (by lia) (by lia)
    lia
  · lia

/-- Pages of one size have no row in common. -/
theorem disjoint_onPage (q : Query) (hl : 1 ≤ limit) {a b : Int} (h : a < b) :
    Disjoint (q.onPage limit a).window (q.onPage limit b).window := by
  have hle : a * limit ≤ (b - 1) * limit := mul_le_mul_of_nonneg_right (by lia) (by lia)
  rw [Query.window_onPage hl, Query.window_onPage hl, Set.disjoint_left]
  rintro row ⟨-, ha⟩ ⟨hb, -⟩
  lia

theorem mem_window_onPage (q : Query) (hl : 1 ≤ limit) (row : Int) :
    row ∈ (q.onPage limit (row / limit + 1)).window := by
  rw [Query.window_onPage hl, add_sub_cancel_right]
  have hpos : 0 < limit := hl
  exact ⟨Int.ediv_mul_le row hpos.ne', Int.lt_ediv_add_one_mul_self row hpos⟩

/-- The pages of a walk are pages of every query, and have every row in one window. -/
theorem exists_onPage (hl : 1 ≤ limit) (h0 : 0 ≤ total) (ht : total + limit ≤ signedMax)
    (q : Query) : ∃ queries : List Query,
      (Int.range 1 (lastPage limit total + 1)).mapM (q.page · limit) = .ok queries ∧
      queries.Pairwise (fun a b => Disjoint a.window b.window) ∧
      ∀ row, 0 ≤ row → row < total → ∃ a ∈ queries, row ∈ a.window := by
  refine ⟨(Int.range 1 (lastPage limit total + 1)).map (q.onPage limit), ?_, ?_, ?_⟩
  · rw [Outcome.mapM_eq_ok_iff, List.forall₂_map_right_iff, List.forall₂_same]
    intro page hp
    obtain ⟨h1, hlast⟩ := Int.mem_range_iff.1 hp
    exact Query.page_eq_ok_iff.2 ⟨h1, hl, mul_le_of_le_lastPage hl h0 ht (by lia), rfl⟩
  · rw [List.pairwise_map]
    exact (pairwise_range 1 _).imp (disjoint_onPage q hl)
  · intro row hrow hlt
    -- the page is a visited one, for it begins before all rows end
    have hbefore : row / limit < lastPage limit total :=
      (lt_lastPage_iff hl).2 (.inr ((Int.ediv_mul_le row (by lia)).trans_lt hlt))
    have hfirst : 0 ≤ row / limit := Int.ediv_nonneg hrow (zero_le_one.trans hl)
    have hpage : row / limit + 1 ∈ Int.range 1 (lastPage limit total + 1) :=
      Int.mem_range_iff.2 ⟨by lia, by lia⟩
    exact ⟨_, List.mem_map_of_mem hpage, mem_window_onPage q hl row⟩

/-- **Walking visits every row once**: onward from the first page to the last one and back, each
page has a window, and each row lies in one of them; a page has a next one where it ends before all
rows do, and the numbers of its neighbours stay within 64 bits. -/
theorem walk_visits_every_row_once :
    (∀ limit total : Int, 1 ≤ limit → 0 ≤ total → total + limit ≤ signedMax →
      (∀ visited, Walk next? ⟨1, limit, total⟩ visited ↔
        visited = Int.range 1 (lastPage limit total + 1)) ∧
      (∀ visited, Walk previous? ⟨lastPage limit total, limit, total⟩ visited ↔
        visited = (Int.range 1 (lastPage limit total + 1)).reverse) ∧
      ∀ q : Query, ∃ queries : List Query,
        (Int.range 1 (lastPage limit total + 1)).mapM (q.page · limit) = .ok queries ∧
        queries.Pairwise (fun a b => Disjoint a.window b.window) ∧
        ∀ row, 0 ≤ row → row < total → ∃ a ∈ queries, row ∈ a.window) ∧
    ∀ p : Pagination, 1 ≤ p.page → p.page ≤ signedMax → 1 ≤ p.limit → p.total ≤ signedMax →
      (p.hasNext = true ↔ p.page * p.limit < p.total) ∧
      (∀ n, p.next? = some n → n = p.page + 1 ∧ isSigned n = true) ∧
      ∀ n, p.previous? = some n → n = p.page - 1 ∧ isSigned n = true := by
  refine ⟨fun limit total hl h0 ht => ⟨fun visited => ?_, fun visited => ?_, ?_⟩,
    fun p hp hs hl ht => ⟨hasNext_iff hp hl ht, fun n hn => ?_, fun n hn => ?_⟩⟩
  · have hwalk := walk_next hl (by lia : total ≤ signedMax) le_rfl one_le_lastPage
    exact ⟨fun h => h.unique hwalk, fun h => h ▸ hwalk⟩
  · have hwalk : Walk previous? ⟨lastPage limit total, limit, total⟩ _ :=
      walk_previous one_le_lastPage
    exact ⟨fun h => h.unique hwalk, fun h => h ▸ hwalk⟩
  · exact exists_onPage hl h0 ht
  · obtain ⟨hlt, rfl⟩ := (next?_eq_some_iff hp hl ht).1 hn
    exact ⟨rfl, isSigned_page_succ hp hl ht hlt⟩
  · obtain ⟨hlt, rfl⟩ := previous?_eq_some_iff.1 hn
    exact ⟨rfl, isSigned_of_nonneg (by lia) (by lia)⟩

/-- Of 25 rows, ten on a page, the last five are on a third page. -/
theorem twenty_five_rows_on_three_pages :
    (1 : Int) ≤ 10 ∧ (0 : Int) ≤ 25 ∧ 25 + 10 ≤ signedMax ∧
    (∀ visited, Walk next? ⟨1, 10, 25⟩ visited ↔ visited = [1, 2, 3]) ∧
    (∀ visited, Walk previous? ⟨3, 10, 25⟩ visited ↔ visited = [3, 2, 1]) ∧
    (∀ q : Query, ∃ queries : List Query, [1, 2, 3].mapM (q.page · 10) = .ok queries ∧
      queries.Pairwise (fun a b => Disjoint a.window b.window) ∧
      ∀ row, 0 ≤ row → row < 25 → ∃ a ∈ queries, row ∈ a.window) ∧
    (hasNext ⟨2, 10, 25⟩ = true ↔ (2 * 10 : Int) < 25) ∧ next? ⟨2, 10, 25⟩ = some 3 ∧
    previous? ⟨2, 10, 25⟩ = some 1 := by
  have hlast : lastPage 10 25 = 3 := by
    rw [lastPage, show ⌈((25 : Int) / (10 : Int) : ℚ)⌉ = 3 by norm_num]
    rfl
  have hten : (25 : Int) + 10 ≤ signedMax := by decide
  obtain ⟨hwalks, hpages⟩ := walk_visits_every_row_once
  obtain ⟨hon, hback, hrows⟩ := hwalks 10 25 (by decide) (by decide) hten
  rw [hlast] at hon hback hrows
  refine ⟨by decide, by decide, hten, hon, hback, hrows, ?_, by decide, by decide⟩
  exact (hpages ⟨2, 10, 25⟩ (by decide) (by decide) (by decide) (by decide)).1

end Pagination

end EntityQuery
