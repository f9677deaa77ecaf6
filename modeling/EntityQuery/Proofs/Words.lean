import Mathlib.Data.List.DropRight
import Mathlib.Tactic
import EntityQuery.Search
import EntityQuery.Text.Blank

/-!
# Words and quoted words

A text is split by blanks into words, so that texts with a blank between them have the words of each
of them. In a match expression the words are quoted: a quote opens and closes each of them, and two
quotes in a row are a quote of the word itself.

* `trim_eq_self_iff`, `trim_trim`: trimmed texts do not begin or end with a blank;
* `words_append_blank`, `words_intercalate`: the words of texts with blanks between them;
* `Term.quotedStrings?`: what a match expression quotes, if it does nothing but quote;
* **`Term.quotedStrings?_matchExpression`**: the expression for a term quotes the words of the term.
-/

namespace EntityQuery

namespace Text

variable {cs : List Char}

/-! ## Trimmed texts -/

theorem trimRight_eq_rdropWhile (cs : List Char) : trimRight cs = cs.rdropWhile isBlank := rfl

theorem mem_of_mem_trim {c : Char} (h : c ∈ trim cs) : c ∈ cs := by
  rw [trim, trimRight_eq_rdropWhile] at h
  have hright := (List.rdropWhile_prefix isBlank _).subset h
  exact (List.dropWhile_sublist isBlank).subset hright

theorem dropWhile_eq_self_iff :
    cs.dropWhile isBlank = cs ↔ ∀ c, cs.head? = some c → isBlank c = false := by
  cases cs with
  | nil => simp
  | cons c cs => simp [List.dropWhile_eq_self_iff]

theorem trimRight_eq_self_iff :
    trimRight cs = cs ↔ ∀ c, cs.getLast? = some c → isBlank c = false := by
  rw [trimRight_eq_rdropWhile]
  induction cs using List.reverseRecOn with
  | nil => simp
  | append_singleton cs c => simp [List.rdropWhile_eq_self_iff]

/-- A part at the front of a text that does not begin with a blank does not begin with one. -/
theorem dropWhile_of_prefix {front : List Char} (h : front <+: cs)
    (hcs : cs.dropWhile isBlank = cs) : front.dropWhile isBlank = front := by
  rw [dropWhile_eq_self_iff] at hcs ⊢
  obtain ⟨after, rfl⟩ := h
  cases front with
  | nil => simp
  | cons c front => exact hcs

theorem trim_eq_self_iff : trim cs = cs ↔
    (∀ c, cs.head? = some c → isBlank c = false) ∧
      ∀ c, cs.getLast? = some c → isBlank c = false := by
  rw [← dropWhile_eq_self_iff, ← trimRight_eq_self_iff]
  constructor
  · intro h
    -- trimming takes nothing away at the front if it leaves a text as long as it was
    have hlength : (trim cs).length ≤ (cs.dropWhile isBlank).length :=
      (List.rdropWhile_prefix isBlank _).length_le
    rw [h] at hlength
    have hdrop := (List.dropWhile_sublist isBlank).eq_of_length_le hlength
    rw [trim, hdrop] at h
    exact ⟨hdrop, h⟩
  · rintro ⟨hdrop, hright⟩
    rw [trim, hdrop, hright]

theorem trim_trim (cs : List Char) : trim (trim cs) = trim cs := by
  have hdrop : (trim cs).dropWhile isBlank = trim cs := by
    refine dropWhile_of_prefix (List.rdropWhile_prefix isBlank _) ?_
    exact List.dropWhile_idempotent isBlank _
  have hright : trimRight (trim cs) = trim cs := by
    rw [trim, trimRight_eq_rdropWhile, trimRight_eq_rdropWhile]
    exact List.rdropWhile_idempotent isBlank _
  rw [trim, hdrop, hright]

/-! ## Words -/

theorem words_append_blank {c : Char} (h : isBlank c = true) (before after : List Char) :
    words (before ++ c :: after) = words before ++ words after := by
  rw [words, List.splitOnP_append_cons before after h, List.filter_append]
  rfl

theorem words_intercalate (texts : List String) :
    words (" ".intercalate texts).toList = texts.flatMap (words ·.toList) := by
  induction texts with
  | nil => simp
  | cons text texts ih =>
    cases texts with
    | nil => simp
    | cons next texts =>
      have hlist : (" ".intercalate (text :: next :: texts)).toList =
          text.toList ++ ' ' :: (" ".intercalate (next :: texts)).toList := by
        simp [String.intercalate_cons_cons]
      rw [hlist, words_append_blank (by decide), ih]
      rfl

theorem words_ne_nil {c : Char} (hc : c ∈ cs) (hblank : isBlank c = false) : words cs ≠ [] := by
  intro h
  have hmem : c ∈ (words cs).flatten := by
    rw [flatten_words]
    exact List.mem_filter.2 ⟨hc, by rw [hblank]; rfl⟩
  rw [h] at hmem
  exact absurd hmem List.not_mem_nil

/-- A trimmed text without words is empty. -/
theorem words_eq_nil_iff (h : trim cs = cs) : words cs = [] ↔ cs = [] := by
  constructor
  · intro hwords
    cases cs with
    | nil => rfl
    | cons c cs =>
      exact absurd hwords (words_ne_nil List.mem_cons_self ((trim_eq_self_iff.1 h).1 c rfl))
  · rintro rfl
    exact words_nil

end Text

/-! ## Match expressions -/

namespace Term

/-- Where a reader of quoted strings is: before one, in one, or after a quote in one, which ends it
unless another quote follows. -/
inductive Place
  | before
  | inside (content : List Char)
  | ended (content : List Char)

/-- The quoted strings that are read from a place on, with a space between two of them. There are
none if anything else stands outside of quotes or a quote is not closed. -/
def readQuoted? : Place → List Char → Option (List (List Char))
  | .before, [] => none
  | .before, c :: cs => if c = '"' then readQuoted? (.inside []) cs else none
  | .inside _, [] => none
  | .inside content, c :: cs =>
    if c = '"' then readQuoted? (.ended content) cs else readQuoted? (.inside (content ++ [c])) cs
  | .ended content, [] => some [content]
  | .ended content, c :: cs =>
    if c = '"' then readQuoted? (.inside (content ++ [c])) cs
    else if c = ' ' then (readQuoted? .before cs).map (content :: ·)
    else none

/-- The strings that an expression quotes, if it does nothing else. -/
def quotedStrings? (expression : String) : Option (List (List Char)) :=
  if expression.isEmpty then some [] else readQuoted? .before expression.toList

theorem readQuoted?_content (word content rest : List Char) :
    readQuoted? (.inside content)
        ((word.flatMap fun c => if c == '"' then ['"', '"'] else [c]) ++ '"' :: rest) =
      readQuoted? (.ended (content ++ word)) rest := by
  induction word generalizing content with
  | nil => simp [readQuoted?]
  | cons c word ih =>
    have happend : content ++ c :: word = content ++ [c] ++ word := by simp
    rw [List.flatMap_cons, happend, List.append_assoc, ← ih]
    by_cases hc : c = '"'
    · subst hc
      simp [readQuoted?]
    · simp [readQuoted?, hc]

theorem readQuoted?_quote (word rest : List Char) :
    readQuoted? .before (quote word ++ rest) = readQuoted? (.ended word) rest := by
  rw [quote, List.append_assoc, List.cons_append, List.singleton_append, readQuoted?, if_pos rfl,
    readQuoted?_content, List.nil_append]

theorem readQuoted?_intercalate (word : List Char) (words : List (List Char)) :
    readQuoted? .before ([' '].intercalate ((word :: words).map quote)) = some (word :: words) := by
  induction words generalizing word with
  | nil =>
    have h := readQuoted?_quote word []
    rw [List.append_nil] at h
    rw [List.map_singleton, List.intercalate_singleton, h]
    rfl
  | cons next words ih =>
    rw [List.map_cons, List.map_cons, List.intercalate_cons_cons, List.append_assoc,
      readQuoted?_quote, List.singleton_append, readQuoted?, if_neg (by decide), if_pos rfl,
      ← List.map_cons, ih, Option.map_some]

/-- **The expression for a term quotes the words of the term, in order, and does nothing else.** -/
theorem quotedStrings?_matchExpression (term : String) :
    quotedStrings? (matchExpression term) = some (Text.words term.toList) := by
  rw [quotedStrings?, matchExpression]
  cases hwords : Text.words term.toList with
  | nil => rfl
  | cons word words =>
    have hne : (String.ofList ([' '].intercalate ((word :: words).map quote))).isEmpty = false := by
      cases words <;> simp [quote, List.intercalate_cons_cons]
    rw [hne, if_neg Bool.false_ne_true, String.toList_ofList, readQuoted?_intercalate]

example : quotedStrings? "\"x\" \"a\"\"b\"" = some [['x'], ['a', '"', 'b']] := by decide

end Term

end EntityQuery
