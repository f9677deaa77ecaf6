import Mathlib.Tactic
import EntityQuery.Proofs.Injection
import EntityQuery.Proofs.Words

/-!
# Directions of orders

SQL reads what rows are ordered by item by item. A direction belongs to the one item that it
follows, and an item without one is ascending. The text of an order has its direction once, after
the last item.

* `OrderText.pieces`, `OrderText.readItem?`, `OrderText.read?`: how SQL reads the text of an order;
* `OrderText.read?_intercalate`: the direction at the end of items is read as that of the last;
* `Field.legible_orderItem`: what rows are ordered by for a field is one item;
* **`Search.sorted_throughout_iff`**: all fields are sorted in the direction of the order exactly
  where it is ascending or has one field only.
-/

namespace EntityQuery

open Text

/-! ## Reading -/

namespace OrderText

/-- Where a reader is: how many parentheses are open, and whether it is in a literal. -/
structure Spot where
  depth : Nat
  quoted : Bool
  deriving DecidableEq

namespace Spot

/-- Outside of parentheses and literals. -/
def outside : Spot := ⟨0, false⟩

/-- The spot after a character. -/
def after (p : Spot) (c : Char) : Spot :=
  if c = literalMark then ⟨p.depth, !p.quoted⟩
  else if p.quoted then p
  else if c = '(' then ⟨p.depth + 1, false⟩
  else if c = ')' then ⟨p.depth - 1, false⟩
  else p

/-- The character divides items: it is a comma outside of parentheses and literals. -/
def divides (p : Spot) (c : Char) : Bool := c == ',' && p == outside

/-- The spot after characters of which none divides items. -/
def through? (p : Spot) : List Char → Option Spot
  | [] => some p
  | c :: cs => if p.divides c then none else (p.after c).through? cs

end Spot

/-- The characters between those that divide items. -/
def pieces (p : Spot) : List Char → List (List Char)
  | [] => [[]]
  | c :: cs =>
    if p.divides c then [] :: pieces p cs else (pieces (p.after c) cs).modifyHead (c :: ·)

/-- The direction that a word stands for, in any case of its letters. -/
def direction? (word : List Char) : Option Direction :=
  [.ascending, .descending].find? fun d =>
    d.word.toList.map Char.toLower == word.map Char.toLower

/-- What is read as an item: words, and the direction that the last one of them stands for. A word
that stands alone is no direction, and without one the item is ascending. -/
def readItem? (piece : List Char) : Option (List (List Char) × Direction) :=
  match (words piece).reverse with
  | [] => none
  | [word] => some ([word], .ascending)
  | word :: before =>
    match direction? word with
    | some d => some (before.reverse, d)
    | none => some ((word :: before).reverse, .ascending)

/-- The items of an order and the direction of each. -/
def read? (cs : List Char) : Option (List (List (List Char) × Direction)) :=
  (pieces .outside cs).mapM readItem?

variable {p p' : Spot} {cs cs' : List Char} {c : Char}

/-! ## Pieces -/

theorem Spot.through?_append :
    p.through? (cs ++ cs') = (p.through? cs).bind (·.through? cs') := by
  induction cs generalizing p with
  | nil => rfl
  | cons c cs ih =>
    rw [List.cons_append, through?, through?]
    split_ifs
    · rfl
    · exact ih

/-- Characters that neither divide nor open or close anything leave a reader where it is. -/
theorem Spot.through?_eq_self (h : ∀ c ∈ cs, c ∉ [literalMark, '(', ')', ',']) :
    p.through? cs = some p := by
  induction cs with
  | nil => rfl
  | cons c cs ih =>
    have hc := h c List.mem_cons_self
    simp only [List.mem_cons, List.not_mem_nil, or_false, not_or] at hc
    obtain ⟨hmark, hopen, hclose, hcomma⟩ := hc
    have hdivides : p.divides c = false := by simp [divides, hcomma]
    have hafter : p.after c = p := by simp [after, hmark, hopen, hclose]
    rw [through?, hdivides, hafter, if_neg Bool.false_ne_true]
    exact ih fun c' hc' => h c' (List.mem_cons_of_mem _ hc')

/-- What is read without being divided begins the first piece. -/
theorem pieces_append (h : p.through? cs = some p') :
    pieces p (cs ++ cs') = (pieces p' cs').modifyHead (cs ++ ·) := by
  induction cs generalizing p with
  | nil =>
    obtain rfl : p = p' := Option.some.inj h
    rw [List.nil_append]
    cases pieces p cs' <;> rfl
  | cons c cs ih =>
    rw [Spot.through?] at h
    split_ifs at h with hc
    rw [List.cons_append, pieces, if_neg hc, ih h, List.modifyHead_modifyHead]
    rfl

/-- What is read without being divided is one piece. -/
theorem pieces_eq_singleton (h : p.through? cs = some p') : pieces p cs = [cs] := by
  have happ : pieces p (cs ++ []) = (pieces p' []).modifyHead (cs ++ ·) := pieces_append h
  rwa [List.append_nil, pieces, List.modifyHead_cons, List.append_nil] at happ

/-! ## Items -/

/-- A text is read as one item, all of whose words belong to it, and as nothing more. -/
structure Legible (cs : List Char) : Prop where
  through : Spot.outside.through? cs = some .outside
  item : readItem? cs = some (words cs, .ascending)

theorem Legible.words_ne_nil (h : Legible cs) : words cs ≠ [] := by
  intro hnil
  have hitem := h.item
  rw [readItem?, hnil] at hitem
  cases hitem

/-- A single word is legible, whichever it is. -/
theorem legible_of_word (hplain : ∀ c ∈ cs, c ∉ [literalMark, '(', ')', ','])
    (hblank : ∀ c ∈ cs, isBlank c = false) (hne : cs ≠ []) : Legible cs := by
  have hwords : words cs = [cs] := by
    rw [words, List.splitOnP_eq_singleton fun c hc => by simp [hblank c hc]]
    simp [hne]
  exact ⟨Spot.through?_eq_self hplain, by rw [readItem?, hwords]; rfl⟩

theorem direction?_word (d : Direction) : direction? d.word.toList = some d := by
  cases d <;> decide

theorem readItem?_of_last {before : List (List Char)} {word : List Char}
    (hwords : words cs = before ++ [word]) (h : direction? word = none) :
    readItem? cs = some (words cs, .ascending) := by
  have hreverse : (words cs).reverse = word :: before.reverse := by rw [hwords, List.reverse_concat]
  rw [readItem?, hreverse, hwords]
  cases hbefore : before.reverse with
  | nil =>
    rw [List.reverse_eq_nil_iff.1 hbefore]
    rfl
  | cons word' before' =>
    simp only [h, ← hbefore, List.reverse_cons, List.reverse_reverse]

/-- After an item a direction is its own. -/
theorem Legible.readItem?_marked (h : Legible cs) (d : Direction) :
    readItem? (cs ++ ' ' :: d.word.toList) = some (words cs, d) := by
  have hword : words d.word.toList = [d.word.toList] := by cases d <;> decide
  have hwords : (words (cs ++ ' ' :: d.word.toList)).reverse =
      d.word.toList :: (words cs).reverse := by
    rw [words_append_blank (by decide), hword, List.reverse_append]
    rfl
  obtain ⟨word, before, hbefore⟩ :=
    List.exists_cons_of_ne_nil (List.reverse_ne_nil_iff.2 h.words_ne_nil)
  rw [readItem?, hwords, hbefore]
  simp only [direction?_word, ← hbefore, List.reverse_reverse]

/-! ## Orders -/

/-- A blank before an order does not matter. -/
theorem read?_blank : read? (' ' :: cs) = read? cs := by
  have hpieces : pieces .outside (' ' :: cs) = (pieces .outside cs).modifyHead (' ' :: ·) := rfl
  have hitem : ∀ piece, readItem? (' ' :: piece) = readItem? piece := by
    intro piece
    rw [readItem?, readItem?, words_cons_of_isBlank (by decide)]
  rw [read?, read?, hpieces]
  cases pieces .outside cs with
  | nil => rfl
  | cons piece rest => rw [List.modifyHead_cons, List.mapM_cons, List.mapM_cons, hitem]

/-- An item before a comma is ascending. -/
theorem Legible.read?_comma (h : Legible cs) :
    read? (cs ++ ',' :: cs') = (read? cs').map ((words cs, .ascending) :: ·) := by
  have hpieces : pieces .outside (cs ++ ',' :: cs') = cs :: pieces .outside cs' := by
    have hcomma : pieces .outside (',' :: cs') = [] :: pieces .outside cs' := rfl
    rw [pieces_append h.through, hcomma, List.modifyHead_cons, List.append_nil]
  rw [read?, hpieces, List.mapM_cons, h.item, read?]
  cases (pieces .outside cs').mapM readItem? <;> rfl

/-- The last item has the direction that follows it. -/
theorem Legible.read?_last (h : Legible cs) (d : Direction) :
    read? (cs ++ ' ' :: d.word.toList) = some [(words cs, d)] := by
  have hthrough : Spot.outside.through? (cs ++ ' ' :: d.word.toList) = some .outside := by
    rw [Spot.through?_append, h.through]
    cases d <;> decide
  rw [read?, pieces_eq_singleton hthrough, List.mapM_cons, h.readItem?_marked]
  rfl

/-- Where the direction stands once, after all items, only the last of them has it. -/
theorem read?_intercalate {texts : List String} {last : String}
    (h : ∀ text ∈ texts ++ [last], Legible text.toList) (d : Direction) :
    read? (", ".intercalate (texts ++ [last]) ++ " " ++ d.word).toList =
      some (texts.map (fun text => (words text.toList, .ascending)) ++
        [(words last.toList, d)]) := by
  induction texts with
  | nil =>
    have hlast := (h last (by simp)).read?_last d
    simpa using hlast
  | cons text texts ih =>
    have hrest := ih fun t ht => h t (List.mem_cons_of_mem _ ht)
    obtain ⟨next, rest, hnext⟩ := List.exists_cons_of_ne_nil
      (List.append_ne_nil_of_right_ne_nil texts (List.cons_ne_nil last []))
    have hlist : (", ".intercalate (text :: texts ++ [last]) ++ " " ++ d.word).toList =
        text.toList ++ ',' :: ' ' ::
          (", ".intercalate (texts ++ [last]) ++ " " ++ d.word).toList := by
      rw [List.cons_append, hnext, String.intercalate_cons_cons]
      simp
    rw [hlist, (h text List.mem_cons_self).read?_comma, read?_blank, hrest]
    rfl

/-- Whatever is read as an item has words. -/
theorem words_ne_nil_of_mem_read? {items : List (List (List Char) × Direction)}
    (h : read? cs = some items) {item : List (List Char) × Direction} (hitem : item ∈ items) :
    item.1 ≠ [] := by
  have hone : ∀ piece item, readItem? piece = some item → item.1 ≠ [] := by
    intro piece item h
    unfold readItem? at h
    split at h
    · cases h
    · cases h
      exact List.cons_ne_nil _ _
    · rename_i word before hne _
      split at h
      · cases h
        exact List.reverse_ne_nil_iff.2 hne
      · cases h
        exact List.reverse_ne_nil_iff.2 (List.cons_ne_nil word before)
  rw [read?] at h
  generalize pieces .outside cs = ps at h
  induction ps generalizing items with
  | nil =>
    cases h
    exact absurd hitem List.not_mem_nil
  | cons piece ps ih =>
    rw [List.mapM_cons] at h
    obtain ⟨first, hfirst, h⟩ := Option.bind_eq_some_iff.1 h
    obtain ⟨rest, hrest, h⟩ := Option.bind_eq_some_iff.1 h
    cases h
    rcases List.mem_cons.1 hitem with rfl | hitem
    · exact hone piece item hfirst
    · exact ih hitem hrest

variable {texts : List String}

/-- An order is read as it is meant exactly where each of its items has a text and the direction of
the last one is that of all. -/
theorem read?_eq_iff (hne : texts ≠ []) (h : ∀ text ∈ texts, text ≠ "" → Legible text.toList)
    (d : Direction) : read? (", ".intercalate texts ++ " " ++ d.word).toList =
        some (texts.map fun text => (words text.toList, d)) ↔
      (∀ text ∈ texts, text ≠ "") ∧ (d = .ascending ∨ texts.length = 1) := by
  by_cases hempty : ∀ text ∈ texts, text ≠ ""
  · have hlegible : ∀ text ∈ texts, Legible text.toList := fun text ht => h text ht (hempty text ht)
    obtain ⟨init, last, rfl⟩ : ∃ init last, texts = init ++ [last] :=
      ⟨_, _, (List.dropLast_append_getLast hne).symm⟩
    rw [read?_intercalate hlegible, Option.some.injEq, List.map_append, List.map_singleton,
      List.append_left_inj, List.map_inj_left, and_iff_right hempty]
    cases init with
    | nil => simp
    | cons text init =>
      have hlength : (text :: init ++ [last]).length ≠ 1 := by simp
      rw [or_iff_left hlength]
      constructor
      · intro hall
        exact (Prod.mk.inj (hall text List.mem_cons_self)).2.symm
      · rintro rfl _ _
        rfl
  · refine iff_of_false (fun hread => hempty fun text ht => ?_) fun hboth => hempty hboth.1
    rintro rfl
    exact words_ne_nil_of_mem_read? hread (List.mem_map_of_mem ht) words_nil

end OrderText

/-! ## Fields -/

open OrderText

variable {table : String} {registry : Registry}

theorem toNat_bounds_of_isAlphanum {c : Char} (h : c.isAlphanum = true) :
    48 ≤ c.toNat ∧ c.toNat ≤ 122 := by
  have hletter : c.isAlpha = true ∨ c.isDigit = true := Bool.or_eq_true_iff.1 h
  rcases hletter with hletter | hdigit
  · have hcase : c.isUpper = true ∨ c.isLower = true := Bool.or_eq_true_iff.1 hletter
    rcases hcase with hupper | hlower
    · obtain ⟨hlow, hhigh⟩ := of_decide_eq_true hupper
      exact ⟨le_trans (by decide) hlow, le_trans hhigh (by decide)⟩
    · obtain ⟨hlow, hhigh⟩ := Bool.and_eq_true_iff.1 hlower
      exact ⟨le_trans (by decide) (of_decide_eq_true hlow),
        le_trans (of_decide_eq_true hhigh) (by decide)⟩
  · obtain ⟨hlow, hhigh⟩ := Bool.and_eq_true_iff.1 hdigit
    exact ⟨le_trans (by decide) (of_decide_eq_true hlow),
      le_trans (of_decide_eq_true hhigh) (by decide)⟩

theorem not_isBlank_of_nameCharacter {c : Char}
    (h : c.isAlphanum = true ∨ c = '_' ∨ c = '.') : isBlank c = false := by
  rcases h with h | rfl | rfl
  · have hbounds := toNat_bounds_of_isAlphanum h
    simp only [isBlank, Bool.or_eq_false_iff, Bool.and_eq_false_iff, decide_eq_false_iff_not,
      beq_eq_false_iff_ne]
    omega
  · decide
  · decide

theorem not_mem_of_nameCharacter {c : Char} (h : c.isAlphanum = true ∨ c = '_' ∨ c = '.') :
    c ∉ [literalMark, '(', ')', ','] := by
  intro hmem
  simp only [List.mem_cons, List.not_mem_nil, or_false] at hmem
  rcases hmem with rfl | rfl | rfl | rfl <;> exact absurd h (by decide)

/-- A name is one item, and so is a column with the name of its row before it. -/
theorem legible_of_name {cs : List Char}
    (h : ∀ c ∈ cs, c.isAlphanum = true ∨ c = '_' ∨ c = '.') (hne : cs ≠ []) : Legible cs :=
  legible_of_word (fun c hc => not_mem_of_nameCharacter (h c hc))
    (fun c hc => not_isBlank_of_nameCharacter (h c hc)) hne

theorem legible_of_isWord {text : String} (h : IsWord text.toList) (hne : text ≠ "") :
    Legible text.toList := by
  refine legible_of_name (fun c hc => ?_) fun hnil => hne (String.toList_eq_nil_iff.1 hnil)
  exact (h c hc).imp_right .inl

/-- The first of the values of a list as a number is one item: its comma is in parentheses. -/
theorem legible_number {name : String} (h : IsWord name.toList) :
    Legible ("CAST(json_extract(" ++ name ++ ", '$[0]') AS NUMERIC)").toList where
  through := by
    have hopen : Spot.outside.through? "CAST(json_extract(".toList = some ⟨2, false⟩ := by decide
    have hname : (Spot.mk 2 false).through? name.toList = some ⟨2, false⟩ :=
      Spot.through?_eq_self fun c hc => not_mem_of_nameCharacter ((h c hc).imp_right .inl)
    have hclose : (Spot.mk 2 false).through? ", '$[0]') AS NUMERIC)".toList = some .outside := by
      decide
    rw [String.toList_append, String.toList_append, Spot.through?_append, Spot.through?_append,
      hopen, Option.bind_some, hname, Option.bind_some, hclose]
  item := by
    have hlist : ("CAST(json_extract(" ++ name ++ ", '$[0]') AS NUMERIC)").toList =
        ("CAST(json_extract(" ++ name ++ ", '$[0]') AS").toList ++ ' ' :: "NUMERIC)".toList := by
      simp
    have hlast : words "NUMERIC)".toList = ["NUMERIC)".toList] := by decide
    have hwords := words_append_blank (c := ' ') (by decide)
      ("CAST(json_extract(" ++ name ++ ", '$[0]') AS").toList "NUMERIC)".toList
    rw [← hlist, hlast] at hwords
    exact readItem?_of_last hwords (by decide)

namespace Field

variable {f : Field}

/-- What rows are ordered by for a field is one item, if it has a text at all. -/
theorem legible_orderItem (h : f.Resolved registry) (hr : registry.Wordy) (hf : f ≠ .reverse)
    (joined : Bool) (hne : (f.orderItem joined).sql ≠ "") :
    Legible (f.orderItem joined).sql.toList := by
  cases f with
  | column name =>
    have hname : IsWord name.toList := by
      cases h with
      | column hmeta => exact hr name (.inl hmeta)
    cases joined with
    | false => exact legible_of_isWord hname hne
    | true =>
      have hsql : ((column name).orderItem true).sql = "t." ++ name := sql_expression (.column name)
      rw [hsql, String.toList_append]
      refine legible_of_name (fun c hc => ?_) (by simp)
      have hrow : "t.".toList = ['t', '.'] := rfl
      rw [hrow, List.mem_append, List.mem_pair] at hc
      rcases hc with (rfl | rfl) | hc
      · exact .inl (by decide)
      · exact .inr (.inr rfl)
      · exact (hname c hc).imp_right .inl
  | property name numeric =>
    cases numeric with
    | false => exact legible_of_isWord (isWord_slug name) hne
    | true =>
      have hsql := orderExpression_eq hf joined
      rw [← Except.ok.inj hsql]
      exact legible_number (isWord_slug name)
  | datasets =>
    have hdatasets : Legible "datasets".toList := legible_of_isWord (by decide) (by decide)
    exact hdatasets
  | scalar name path => exact legible_of_isWord (isWord_slug name) hne
  | list name path => exact legible_of_isWord (isWord_slug name) hne
  | reverse => exact absurd rfl hf

end Field

/-! ## Searches -/

/-- An order has a field. -/
theorem Query.Reachable.fields_ne_nil {q : Query} (h : q.Reachable table registry) :
    ∀ order, q.order = some order → order.fields ≠ [] := by
  refine Reachable.induct (P := fun q => ∀ order, q.order = some order → order.fields ≠ [])
    ?_ ?_ ?_ ?_ h
  · intro order ho
    cases ho
  · intro q q' key value ih he
    obtain ⟨lookups, rfl⟩ := Query.sameButLookups_of_filter he
    exact ih
  · intro q q' keys direction _ he order ho
    obtain ⟨fields, -, -, rfl⟩ := Query.orderBy_eq_ok_iff.1 he
    cases fields with
    | nil => cases ho
    | cons field fields =>
      cases ho
      exact List.cons_ne_nil field fields
  · rintro q q' ih ⟨limit, offset, rfl⟩
    exact ih

namespace Search

variable {s : Search} {order : SortOrder}

/-- The text of an order has the texts of its fields, and its direction after them. -/
theorem exists_order_texts (h : s.Reachable table registry) (ho : s.query.order = some order) :
    ∃ texts : List String, order.fields.map (·.orderExpression s.joined) = texts.map .ok ∧
      s.statement.order = some (", ".intercalate texts ++ " " ++ order.direction.word) := by
  have hreverse := h.query.sound.reverse_not_mem_orderFields
  rw [Query.orderFields, ho] at hreverse
  refine ⟨order.fields.map fun f => (f.orderItem s.joined).sql, ?_, ?_⟩
  · rw [List.map_map]
    refine List.map_congr_left fun f hf => ?_
    exact Field.orderExpression_eq (fun heq => hreverse (heq ▸ hf)) s.joined
  · rw [← sql_ordering h.query.sound, ordering, ho, Option.map_some, Select.Order.sql, List.map_map,
      String.append_assoc]
    rfl

/-- **All fields are sorted in one direction where it is ascending or there is one field.** The text
of an order is read as its fields, all of them ascending but for the last one, which has the
direction of the order. So it is read as it is meant exactly where each field has a text to be
ordered by, and the order is ascending or has one field only; it does not matter whether the query
has lookups of any property, or is part of a search. -/
theorem sorted_throughout_iff (h : s.Reachable table registry) (hr : registry.Wordy)
    (ho : s.query.order = some order) : ∃ texts clause,
      order.fields.map (·.orderExpression s.joined) = texts.map .ok ∧
      s.statement.orderPart = some ("ORDER BY " ++ clause) ∧
      (∀ init last, texts = init ++ [last] → (∀ text ∈ texts, text ≠ "") →
        OrderText.read? clause.toList =
          some (init.map (fun text => (words text.toList, .ascending)) ++
            [(words last.toList, order.direction)])) ∧
      (OrderText.read? clause.toList =
          some (texts.map fun text => (words text.toList, order.direction)) ↔
        (∀ text ∈ texts, text ≠ "") ∧
          (order.direction = .ascending ∨ order.fields.length = 1)) := by
  obtain ⟨texts, htexts, hclause⟩ := exists_order_texts h ho
  have hlegible : ∀ text ∈ texts, text ≠ "" → Legible text.toList := by
    intro text ht hne
    have hmem : Except.ok text ∈ order.fields.map (·.orderExpression s.joined) := by
      rw [htexts]
      exact List.mem_map_of_mem ht
    obtain ⟨f, hf, hsql⟩ := List.mem_map.1 hmem
    have hused : f ∈ s.query.orderFields := by
      rw [Query.orderFields, ho]
      exact hf
    have hreverse : f ≠ .reverse := fun heq =>
      h.query.sound.reverse_not_mem_orderFields (heq ▸ hused)
    rw [Field.orderExpression_eq hreverse, Except.ok.injEq] at hsql
    subst hsql
    exact Field.legible_orderItem (h.query.sound.resolved (Query.mem_fields.2 (.inr hused))) hr
      hreverse _ hne
  have hlength : texts.length = order.fields.length := by
    rw [← List.length_map (f := Except.ok (ε := QueryError)), ← htexts, List.length_map]
  have hne : texts ≠ [] := by
    rw [← List.length_pos_iff, hlength, List.length_pos_iff]
    exact h.query.fields_ne_nil order ho
  refine ⟨texts, _, htexts, by rw [Statement.orderPart, hclause, Option.map_some], ?_, ?_⟩
  · rintro init last rfl hempty
    exact read?_intercalate (fun text ht => hlegible text ht (hempty text ht)) order.direction
  · rw [← hlength]
    exact read?_eq_iff hne hlegible order.direction

/-- In a search among the properties of any name, amounts are sorted in descending order. -/
theorem amounts_descending : ∃ s clause, Search.Reachable "ftm" Model.bundled.registry s ∧
    s.joined = true ∧ s.statement.orderPart = some ("ORDER BY " ++ clause) ∧
    OrderText.read? clause.toList = some
      [(words "CAST(json_extract(amount, '$[0]') AS NUMERIC)".toList, .descending)] := by
  obtain ⟨q, q', hq, hq', horder, hreverse⟩ : ∃ q q',
      (Query.Step.filter "reverse" (.text "x")).run (.new "ftm" Model.bundled.registry) = .ok q ∧
      (Query.Step.orderBy ["amount"] .descending).run q = .ok q' ∧
      q'.order = some ⟨[.property "amount" true], .descending⟩ ∧ q'.hasReverse = true :=
    ⟨_, _, rfl, rfl, rfl, rfl⟩
  have hreach : Search.Reachable "ftm" Model.bundled.registry (.new q' (some "x")) :=
    .new _ (.step _ (.step _ .new hq) hq')
  have hjoined : (Search.new q' (some "x")).joined = true := by
    rw [joined, Bool.or_eq_true]
    exact .inl hreverse
  obtain ⟨texts, clause, htexts, hpart, -, hiff⟩ :=
    sorted_throughout_iff hreach Model.wordy_bundled horder
  have hone : texts = ["CAST(json_extract(amount, '$[0]') AS NUMERIC)"] := by
    have hsql : (Field.property "amount" true).orderExpression true =
        .ok "CAST(json_extract(amount, '$[0]') AS NUMERIC)" := by decide
    rw [List.map_singleton, hjoined, hsql, eq_comm, List.map_eq_singleton_iff] at htexts
    obtain ⟨text, rfl, htext⟩ := htexts
    rw [Except.ok.inj htext]
  refine ⟨_, clause, hreach, hjoined, hpart, ?_⟩
  rw [hiff.2 ⟨by rw [hone]; decide, .inr rfl⟩, hone]
  rfl

/-- Of two fields in descending order the first one is sorted in ascending order. -/
theorem first_of_two_ascending : ∃ q clause, Query.Reachable "ftm" Model.bundled.registry q ∧
    q.order = some ⟨[.column "id", .column "entity"], .descending⟩ ∧
    q.statement.orderPart = some ("ORDER BY " ++ clause) ∧ clause = "id, entity DESC" ∧
    OrderText.read? clause.toList =
      some [(["id".toList], .ascending), (["entity".toList], .descending)] ∧
    OrderText.read? clause.toList ≠
      some [(["id".toList], .descending), (["entity".toList], .descending)] := by
  have hq : (Query.Step.orderBy ["id", "entity"] .descending).run
      (.new "ftm" Model.bundled.registry) = .ok _ := rfl
  have hread : OrderText.read? "id, entity DESC".toList =
      some [(["id".toList], .ascending), (["entity".toList], .descending)] := by decide
  refine ⟨_, "id, entity DESC", .step _ .new hq, rfl, by decide, rfl, hread, ?_⟩
  rw [hread]
  decide

end Search

end EntityQuery
