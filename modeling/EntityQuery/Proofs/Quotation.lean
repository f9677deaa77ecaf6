import Mathlib.Tactic
import EntityQuery.Proofs.Runs
import EntityQuery.Proofs.Words

/-!
# Quotations

A match expression is a sequence of quoted strings. Between the quotes of a string each quote of its
own is written twice, so that it can be read back in one way, and whatever is in a term stays in
quotes.

* `Term.Written`, `Term.Quoted`: how strings are written in quotes;
* `Term.quotedStrings?_eq_some_iff`: what is read is exactly a sequence of quoted strings with one
  space between two of them;
* `Term.outside`: the characters of an expression that no quotes enclose;
* **`Term.words_quoted`**: the expression for a term is such a sequence of its words, and terms have
  one expression if they have the same words.
-/

namespace EntityQuery.Term

variable {content written rest : List Char} {strings : List (List Char)}

/-! ## Quoted strings -/

/-- How the characters of a string are written in quotes: a quote twice, any other one once. -/
inductive Written : List Char → List Char → Prop
  | nil : Written [] []
  | quote {content written : List Char} : Written content written →
      Written ('"' :: content) ('"' :: '"' :: written)
  | other {c : Char} {content written : List Char} : c ≠ '"' → Written content written →
      Written (c :: content) (c :: written)

/-- A string in quotes. -/
def Quoted (content quoted : List Char) : Prop :=
  ∃ written, Written content written ∧ quoted = '"' :: (written ++ ['"'])

theorem written_iff : Written content written ↔
    written = content.flatMap fun c => if c == '"' then ['"', '"'] else [c] := by
  constructor
  · intro h
    induction h with
    | nil => rfl
    | quote _ ih => simp [ih]
    | other hc _ ih => simp [hc, ih]
  · rintro rfl
    induction content with
    | nil => exact .nil
    | cons c content ih =>
      rw [List.flatMap_cons]
      by_cases hc : c = '"'
      · subst hc
        exact .quote ih
      · rw [if_neg (by simpa using hc)]
        exact .other hc ih

theorem quoted_iff {quoted : List Char} : Quoted content quoted ↔ quoted = quote content := by
  simp only [Quoted, written_iff, exists_eq_left]
  rfl

theorem forall₂_quoted_iff {quoted : List (List Char)} :
    List.Forall₂ Quoted strings quoted ↔ quoted = strings.map quote := by
  induction strings generalizing quoted with
  | nil => simp
  | cons content strings ih => simp [List.forall₂_cons_left_iff, quoted_iff, ih]

/-! ## Reading -/

/-- Where a reader is decides what it reads: a sequence of quoted strings, the rest of one and those
after it, or either the end of one or a quote that belongs to it. -/
def Place.Reads : Place → List Char → List (List Char) → Prop
  | .before, cs, strings => ∃ s ss, strings = s :: ss ∧
      cs = quote s ++ (ss.map quote).flatMap (' ' :: ·)
  | .inside content, cs, strings => ∃ s written ss, strings = (content ++ s) :: ss ∧
      Written s written ∧ cs = written ++ '"' :: (ss.map quote).flatMap (' ' :: ·)
  | .ended content, cs, strings => ∃ s written ss, strings = (content ++ s) :: ss ∧
      Written s written ∧ '"' :: cs = written ++ '"' :: (ss.map quote).flatMap (' ' :: ·)

theorem Place.reads_of_readQuoted? {place : Place} {cs : List Char}
    (h : readQuoted? place cs = some strings) : place.Reads cs strings := by
  -- by the recursion of the reader: each step moves one character between the text and the place
  fun_induction readQuoted? place cs generalizing strings with
  | case1 => cases h
  | case2 cs ih =>
    obtain ⟨s, written, ss, rfl, hw, rfl⟩ := ih h
    exact ⟨s, ss, rfl, by rw [← quoted_iff.1 ⟨written, hw, rfl⟩]; simp⟩
  | case3 => cases h
  | case4 => cases h
  | case5 content cs ih =>
    obtain ⟨s, written, ss, rfl, hw, heq⟩ := ih h
    exact ⟨s, written, ss, rfl, hw, heq⟩
  | case6 content c cs hc ih =>
    obtain ⟨s, written, ss, rfl, hw, rfl⟩ := ih h
    exact ⟨c :: s, c :: written, ss, by simp, .other hc hw, rfl⟩
  | case7 content =>
    cases h
    exact ⟨[], [], [], by simp, .nil, rfl⟩
  | case8 content cs ih =>
    -- the quote that seemed to end the string belongs to it
    obtain ⟨s, written, ss, rfl, hw, rfl⟩ := ih h
    exact ⟨'"' :: s, '"' :: '"' :: written, ss, by simp, .quote hw, rfl⟩
  | case9 content cs hc ih =>
    obtain ⟨ss', hread, rfl⟩ := Option.map_eq_some_iff.1 h
    obtain ⟨s, ss, rfl, rfl⟩ := ih hread
    exact ⟨[], [], s :: ss, by simp, .nil, by simp⟩
  | case10 => cases h

/-- **What is read is exactly a sequence of quoted strings.** One space stands between two of
them; an empty text is a sequence of none. -/
theorem quotedStrings?_eq_some_iff {expression : String} :
    quotedStrings? expression = some strings ↔ ∃ quoted, List.Forall₂ Quoted strings quoted ∧
      expression.toList = [' '].intercalate quoted := by
  have hempty : expression.isEmpty = true ↔ expression.toList = [] := by simp
  simp only [forall₂_quoted_iff, exists_eq_left, quotedStrings?, hempty]
  constructor
  · intro h
    split_ifs at h with hnil
    · cases h
      exact hnil
    · obtain ⟨s, ss, rfl, hlist⟩ := Place.reads_of_readQuoted? h
      rw [hlist, List.map_cons, Text.intercalate_cons]
  · intro h
    cases strings with
    | nil => exact if_pos h
    | cons s ss =>
      have hne : expression.toList ≠ [] := by
        rw [h, List.map_cons, Text.intercalate_cons]
        exact List.cons_ne_nil _ _
      rw [if_neg hne, h, readQuoted?_intercalate]

/-! ## What stands outside of quotes -/

/-- The characters that no quotes enclose. Each quote opens or closes, so that two in a row leave a
reader where it is. -/
def outside : Bool → List Char → List Char
  | _, [] => []
  | quoted, c :: cs =>
    if c = '"' then outside (!quoted) cs
    else if quoted then outside quoted cs
    else c :: outside quoted cs

theorem outside_written (h : Written content written) (rest : List Char) :
    outside true (written ++ rest) = outside true rest := by
  induction h with
  | nil => rfl
  | quote _ ih => simpa [outside] using ih
  | other hc _ ih => simpa [outside, hc] using ih

theorem outside_quote (content rest : List Char) :
    outside false (quote content ++ rest) = outside false rest := by
  obtain ⟨written, hw, hquote⟩ := quoted_iff.2 (rfl : quote content = quote content)
  rw [hquote, List.cons_append, List.append_assoc, outside, if_pos rfl, Bool.not_false,
    outside_written hw]
  rfl

theorem outside_flatMap (strings : List (List Char)) :
    outside false ((strings.map quote).flatMap (' ' :: ·)) =
      List.replicate strings.length ' ' := by
  induction strings with
  | nil => rfl
  | cons content strings ih =>
    rw [List.map_cons, List.flatMap_cons, List.cons_append, outside, if_neg (by decide),
      if_neg Bool.false_ne_true, outside_quote, ih]
    rfl

/-- Outside of the quotes are only the spaces between two strings. -/
theorem outside_of_quotedStrings? {expression : String}
    (h : quotedStrings? expression = some strings) :
    outside false expression.toList = List.replicate (strings.length - 1) ' ' := by
  obtain ⟨quoted, hquoted, hlist⟩ := quotedStrings?_eq_some_iff.1 h
  rw [hlist, forall₂_quoted_iff.1 hquoted]
  cases strings with
  | nil => rfl
  | cons content strings =>
    rw [List.map_cons, Text.intercalate_cons, outside_quote, outside_flatMap]
    rfl

/-! ## The expression for a term -/

/-- **The expression for a term quotes its words and does nothing else.** The words are the runs of
characters that are not blank, of which there is one list. The expression is a sequence of these in
quotes with one space between two of them, and is read back as them; no character of the term
stands outside of the quotes. Terms have one expression if they have the same words, and only
then. -/
theorem words_quoted (term : String) : ∃ words,
    (∀ words', Text.Runs (fun c => !Text.isBlank c) term.toList words' ↔ words' = words) ∧
    (∃ quoted, List.Forall₂ Quoted words quoted ∧
      (matchExpression term).toList = [' '].intercalate quoted) ∧
    quotedStrings? (matchExpression term) = some words ∧
    outside false (matchExpression term).toList = List.replicate (words.length - 1) ' ' ∧
    ∀ other, matchExpression other = matchExpression term ↔
      Text.Runs (fun c => !Text.isBlank c) other.toList words := by
  have hread := quotedStrings?_matchExpression term
  refine ⟨_, fun _ => Text.runs_words_iff, quotedStrings?_eq_some_iff.1 hread, hread,
    outside_of_quotedStrings? hread, fun other => ?_⟩
  rw [Text.runs_words_iff]
  constructor
  · intro hsame
    rw [← hsame, quotedStrings?_matchExpression, Option.some.injEq] at hread
    exact hread.symm
  · intro hwords
    rw [matchExpression, matchExpression, hwords]

example : matchExpression " a\"b \t\" " = "\"a\"\"b\" \"\"\"\"" := by decide

end EntityQuery.Term
