import Mathlib.Tactic
import EntityQuery.Proofs.Placeholders

/-!
# The language of lookups

A lookup is a key and a value. The first two underscores in a row divide the key into a base and a
token; the base has to name a field, the token an operator, and the value has to fit the operator.

* `Key.Divided`, `Key.Reads`, `Key.reads_iff`: the one way to read a key;
* `Json.Means`, `Json.Fits`: the flags that a value can stand for, and the values that fit an
  operator;
* `Test.Of`, `Test.of_eq_ok_iff`: the tests that operators make of values;
* `Lookup.Accepted`, `Lookup.Refused`: the lookups of the language, and what is wrong with any other
  one, the first fault being the one that counts;
* **`Predicate.compile_language`**: exactly the lookups of the language are compiled, each to a
  predicate that is as the lookup asks.
-/

namespace EntityQuery

variable {registry : Registry}

/-! ## Keys -/

namespace Key

/-- The text holds two underscores in a row. -/
def Divided (text : String) : Prop := ['_', '_'] <:+: text.toList

/-- A key is a base, or a base and a token with two underscores between them. No two underscores in
a row come before these. -/
inductive Reads : String → String → Option String → Prop
  | bare {key : String} : ¬ Divided key → Reads key key none
  | marked {base token : String} : ¬ Divided (base ++ "_") →
      Reads (base ++ "__" ++ token) base (some token)

theorem split_cons {c : Char} {cs : List Char} (h : ∀ rest, c :: cs ≠ '_' :: '_' :: rest) :
    split (c :: cs) = (c :: (split cs).1, (split cs).2) := by
  rw [split]
  rintro rest rfl rfl
  exact h rest rfl

theorem infix_cons_iff {c : Char} {cs : List Char} : ['_', '_'] <:+: c :: cs ↔
    (∃ rest, c :: cs = '_' :: '_' :: rest) ∨ ['_', '_'] <:+: cs := by
  rw [List.infix_cons_iff]
  refine or_congr_left ⟨?_, ?_⟩
  · rintro ⟨rest, h⟩
    exact ⟨rest, h.symm⟩
  · rintro ⟨rest, h⟩
    exact ⟨rest, h.symm⟩

theorem split_undivided {cs : List Char} (h : ¬ ['_', '_'] <:+: cs) : split cs = (cs, none) := by
  induction cs with
  | nil => rfl
  | cons c cs ih =>
    rw [infix_cons_iff, not_or, not_exists] at h
    rw [split_cons h.1, ih h.2]

theorem split_marked {base token : List Char} (h : ¬ ['_', '_'] <:+: base ++ ['_']) :
    split (base ++ '_' :: '_' :: token) = (base, some token) := by
  induction base with
  | nil => rfl
  | cons c base ih =>
    rw [List.cons_append, infix_cons_iff, not_or, not_exists] at h
    have hc : ∀ rest, c :: (base ++ '_' :: '_' :: token) ≠ '_' :: '_' :: rest := by
      intro rest heq
      rw [List.cons_eq_cons] at heq
      obtain ⟨rfl, heq⟩ := heq
      -- the character after the first one is the mark's, or one of the base
      cases base with
      | nil => exact h.1 [] rfl
      | cons d base =>
        rw [List.cons_append, List.cons_eq_cons] at heq
        exact h.1 (base ++ ['_']) (by rw [heq.1]; rfl)
    rw [List.cons_append, split_cons hc, ih h.2]

/-- Where there are two underscores in a row there are first ones. -/
theorem exists_first (cs : List Char) : ¬ ['_', '_'] <:+: cs ∨
    ∃ base token, cs = base ++ '_' :: '_' :: token ∧ ¬ ['_', '_'] <:+: base ++ ['_'] := by
  induction cs with
  | nil => simp
  | cons c cs ih =>
    by_cases hc : ∃ rest, c :: cs = '_' :: '_' :: rest
    · obtain ⟨rest, hrest⟩ := hc
      exact .inr ⟨[], rest, hrest, by simp [infix_cons_iff]⟩
    · rcases ih with h | ⟨base, token, rfl, h⟩
      · rw [infix_cons_iff]
        exact .inl (not_or.2 ⟨hc, h⟩)
      · refine .inr ⟨c :: base, token, rfl, ?_⟩
        rw [List.cons_append, infix_cons_iff]
        refine not_or.2 ⟨?_, h⟩
        rintro ⟨rest, heq⟩
        obtain ⟨rfl, htail⟩ := List.cons_eq_cons.1 heq
        cases base with
        | nil => exact hc ⟨'_' :: token, rfl⟩
        | cons d base =>
          obtain ⟨rfl, -⟩ := List.cons_eq_cons.1 htail
          exact hc ⟨_, rfl⟩

variable {key base' text : String} {token : Option String}

/-- **A key is read in one way.** -/
theorem reads_iff : Reads key base' token ↔ base' = base key ∧ token = token? key := by
  constructor
  · rintro (h | @⟨base, token, h⟩)
    · simp [base, token?, split_undivided h]
    · rw [Divided, String.toList_append] at h
      simp [Key.base, token?, split_marked h]
  · rintro ⟨rfl, rfl⟩
    rcases exists_first key.toList with h | ⟨before, after, hkey, h⟩
    · rw [base, token?, split_undivided h, String.ofList_toList]
      exact .bare h
    · have hparts : key = String.ofList before ++ "__" ++ String.ofList after := by
        rw [← String.toList_inj, hkey]
        simp
      rw [base, token?, hkey, split_marked h]
      rw [hparts]
      exact .marked (by simpa [Divided] using h)

/-- Every key is read. -/
theorem reads_self (key : String) : Reads key (base key) (token? key) := reads_iff.2 ⟨rfl, rfl⟩

theorem isDivided_iff : isDivided text = true ↔ Divided text := by
  rcases exists_first text.toList with h | ⟨before, after, htext, h⟩
  · simp [isDivided, split_undivided h, Divided, h]
  · have hmark : ['_', '_'] <:+: before ++ '_' :: '_' :: after := ⟨before, after, by simp⟩
    simp [isDivided, Divided, htext, split_marked h, hmark]

end Key

/-! ## Operators -/

namespace Operator

/-- The words that a token can be. -/
def words : List String :=
  ["eq", "like", "ilike", "gt", "gte", "lt", "lte", "in", "null", "not"]

/-- The words of the operators that take lists. -/
def listWords : List String := ["eq", "in", "not"]

theorem mem_words_iff {word : String} : word ∈ words ↔ ∃ op : Operator, op.word = word := by
  have hwords : words = all.map Operator.word := rfl
  rw [hwords, List.mem_map]
  constructor
  · rintro ⟨op, -, h⟩
    exact ⟨op, h⟩
  · rintro ⟨op, rfl⟩
    exact ⟨op, List.mem_of_find?_eq_some (ofWord?_word op), rfl⟩

theorem not_divided_of_mem_words {word : String} (h : word ∈ words) : ¬ Key.Divided word := by
  have hall : ∀ word ∈ words, Key.isDivided word = false := by decide
  rw [← Key.isDivided_iff, hall word h]
  exact Bool.false_ne_true

theorem word_inj {a b : Operator} (h : a.word = b.word) : a = b := by
  have hb := ofWord?_word b
  rw [← h, ofWord?_word] at hb
  exact Option.some.inj hb

variable {key base : String} {token : Option String} {op : Operator} {e : QueryError}

/-- The operator of a key is that of its token; a key without a token asks for equality. -/
theorem ofKey_eq_ok_iff (h : Key.Reads key base token) :
    ofKey key = .ok op ↔ op.word = token.getD "eq" := by
  obtain ⟨-, rfl⟩ := Key.reads_iff.1 h
  rw [ofKey]
  cases Key.token? key with
  | none =>
    refine ⟨fun h => ?_, fun h => ?_⟩
    · cases h
      rfl
    · rw [word_inj (b := .relation .equal) h]
  | some word =>
    simp only [Option.getD_some]
    split_ifs with hd
    · refine iff_of_false (fun h => ?_) fun h => ?_
      · cases h
      · exact not_divided_of_mem_words (mem_words_iff.2 ⟨op, h⟩) (Key.isDivided_iff.1 hd)
    · rw [← ofWord?_eq_some_iff]
      cases ofWord? word <;> simp

/-- A token is refused for its parts or, if it has none, for being no word. -/
theorem ofKey_eq_error_iff (h : Key.Reads key base token) : ofKey key = .error e ↔
    ∃ word, token = some word ∧ (Key.Divided word ∧ e = .invalidOperatorArity key ∨
      ¬ Key.Divided word ∧ word ∉ words ∧ e = .invalidOperator key) := by
  obtain ⟨-, rfl⟩ := Key.reads_iff.1 h
  rw [ofKey]
  cases Key.token? key with
  | none => simp
  | some word =>
    simp only [Option.some.injEq, exists_eq_left', ← Key.isDivided_iff]
    cases hd : Key.isDivided word with
    | true => simp [eq_comm]
    | false =>
      cases hop : ofWord? word with
      | none =>
        have hword : word ∉ words := by
          rw [mem_words_iff]
          rintro ⟨op, rfl⟩
          rw [ofWord?_word] at hop
          cases hop
        simp [hword, eq_comm]
      | some op =>
        have hword : word ∈ words := mem_words_iff.2 ⟨op, ofWord?_eq_some_iff.1 hop⟩
        simp [hword]

end Operator

/-! ## Values -/

namespace Json

/-- The words for yes. -/
def yesWords : List String := ["true", "1", "yes"]

/-- The words for no. -/
def noWords : List String := ["false", "0", "no"]

/-- The value stands for a flag: a boolean, the integer 1 or 0, or a word, in any case of its
letters. -/
inductive Means : Json → Bool → Prop
  | bool (b : Bool) : Means (.bool b) b
  | one : Means (.int 1) true
  | zero : Means (.int 0) false
  | yes {s word : String} : word ∈ yesWords → SameName s word → Means (.text s) true
  | no {s word : String} : word ∈ noWords → SameName s word → Means (.text s) false

/-- The value fits the word of an operator: a flag for `null`; for `eq`, `in` and `not` a scalar or
a list of scalars that is not empty; a scalar for any other. -/
def Fits (word : String) (value : Json) : Prop :=
  if word = "null" then ∃ b, value.Means b
  else value.isScalar = true ∨ word ∈ Operator.listWords ∧
    ∃ items, value = .array items ∧ items ≠ [] ∧ ∀ item ∈ items, item.isScalar = true

theorem fits_null {value : Json} : value.Fits "null" ↔ ∃ b, value.Means b := by
  rw [Fits, if_pos rfl]

theorem fits_of_ne {word : String} (h : word ≠ "null") {value : Json} : value.Fits word ↔
    value.isScalar = true ∨ word ∈ Operator.listWords ∧
      ∃ items, value = .array items ∧ items ≠ [] ∧ ∀ item ∈ items, item.isScalar = true := by
  rw [Fits, if_neg h]

end Json

namespace Test

variable {op : Operator} {value : Json} {t : Test}

theorem toLower_mem_iff {s : String} {words : List String}
    (h : ∀ word ∈ words, word.toList.map Char.toLower = word.toList) :
    s.toLower ∈ words ↔ ∃ word ∈ words, SameName s word := by
  have hsame : ∀ word ∈ words, SameName s word ↔ s.toLower = word := by
    intro word hword
    have hlower : s.toLower = s.map Char.toLower := rfl
    rw [SameName, h word hword, ← String.toList_inj, hlower, String.toList_map]
  constructor
  · intro hmem
    exact ⟨_, hmem, (hsame _ hmem).2 rfl⟩
  · rintro ⟨word, hmem, hs⟩
    rw [(hsame word hmem).1 hs]
    exact hmem

theorem flag?_int (n : Int) :
    flag? (.int n) = if n = 1 then some true else if n = 0 then some false else none := by
  unfold flag?
  split <;> simp_all

theorem flag?_text (s : String) : flag? (.text s) =
    if s.toLower ∈ Json.yesWords then some true
    else if s.toLower ∈ Json.noWords then some false else none := by
  simp [flag?, Json.yesWords, Json.noWords, or_assoc]

theorem flag?_eq_some_iff {b : Bool} : flag? value = some b ↔ value.Means b := by
  have hyes : ∀ word ∈ Json.yesWords, word.toList.map Char.toLower = word.toList := by decide
  have hno : ∀ word ∈ Json.noWords, word.toList.map Char.toLower = word.toList := by decide
  have hapart : ∀ word ∈ Json.noWords, word ∉ Json.yesWords := by decide
  constructor
  · intro h
    cases value with
    | bool b' =>
      cases h
      exact .bool b
    | int n =>
      rw [flag?_int] at h
      split_ifs at h with h₁ h₂
      · cases h
        rw [h₁]
        exact .one
      · cases h
        rw [h₂]
        exact .zero
    | text s =>
      rw [flag?_text] at h
      split_ifs at h with h₁ h₂
      · cases h
        obtain ⟨word, hmem, hs⟩ := (toLower_mem_iff hyes).1 h₁
        exact .yes hmem hs
      · cases h
        obtain ⟨word, hmem, hs⟩ := (toLower_mem_iff hno).1 h₂
        exact .no hmem hs
    | null | double | array | object => cases h
  · intro h
    cases h with
    | bool | one | zero => rfl
    | @yes s word hmem hs =>
      rw [flag?_text, if_pos ((toLower_mem_iff hyes).2 ⟨word, hmem, hs⟩)]
    | @no s word hmem hs =>
      have hlower := (toLower_mem_iff hno).2 ⟨word, hmem, hs⟩
      rw [flag?_text, if_neg (hapart _ hlower), if_pos hlower]

/-- The test that an operator makes of a value. A list makes a test of membership, and so does a
single value of `in`. -/
inductive Of : Operator → Json → Test → Prop
  | absent {value : Json} {b : Bool} : value.Means b → Of .absent value (.absent b)
  | single {r : Relation} {value : Json} : value.isScalar = true →
      Of (.relation r) value (.single r value)
  | one {value : Json} : value.isScalar = true → Of .among value (.among false value [])
  | many {op : Operator} {first : Json} {rest : List Json} : op.word ∈ Operator.listWords →
      (∀ item ∈ first :: rest, item.isScalar = true) →
      Of op (.array (first :: rest)) (.among (op.word == "not") first rest)

theorem ofList_eq_ok_iff {first : Json} {rest : List Json} : ofList op first rest = .ok t ↔
    op.word ∈ Operator.listWords ∧ t = .among (op.word == "not") first rest := by
  rcases op with r | _ | _
  · cases r <;> simp [ofList, Operator.word, Relation.word, Operator.listWords, eq_comm]
  · simp [ofList, Operator.word, Operator.listWords, eq_comm]
  · simp [ofList, Operator.word, Operator.listWords]

theorem ofList_eq_error_iff {first : Json} {rest : List Json} {fault : ValueFault} :
    ofList op first rest = .error fault ↔
      op.word ∉ Operator.listWords ∧ fault = .listRefused op.word := by
  rcases op with r | _ | _
  · cases r <;> simp [ofList, Operator.word, Relation.word, Operator.listWords, eq_comm]
  · simp [ofList, Operator.word, Operator.listWords]
  · simp [ofList, Operator.word, Operator.listWords, eq_comm]

theorem of_array {first : Json} {rest : List Json} (h : op ≠ .absent) :
    Test.of op (.array (first :: rest)) = if (first :: rest).all Json.isScalar then
      ofList op first rest else .error .nestedList := by
  cases op with
  | absent => exact absurd rfl h
  | relation | among => rfl

theorem of_eq_ok_iff : Test.of op value = .ok t ↔ Of op value t := by
  constructor
  · intro h
    unfold Test.of at h
    split at h
    · split at h
      · rename_i b hb
        cases h
        exact .absent (flag?_eq_some_iff.1 hb)
      · cases h
    · cases h
    · split_ifs at h with hall
      rw [ofList_eq_ok_iff] at h
      obtain ⟨hword, rfl⟩ := h
      exact .many hword (List.all_eq_true.1 hall)
    · rename_i habsent _ _
      split_ifs at h with hs
      split at h
      · cases h
        exact .single hs
      · rename_i hrelation
        cases h
        cases op with
        | absent => exact absurd rfl habsent
        | relation r => exact absurd rfl (hrelation r)
        | among => exact .one hs
  · intro h
    cases h with
    | absent hb => rw [Test.of, flag?_eq_some_iff.2 hb]
    | @single r value hs =>
      cases value with
      | text | int | double | bool => rfl
      | null | array | object => exact Bool.noConfusion hs
    | @one value hs =>
      cases value with
      | text | int | double | bool => rfl
      | null | array | object => exact Bool.noConfusion hs
    | @many op first rest hword hall =>
      have hop : op ≠ .absent := by
        rintro rfl
        exact absurd hword (by decide)
      rw [of_array hop, if_pos (List.all_eq_true.2 hall), ofList_eq_ok_iff]
      exact ⟨hword, rfl⟩

/-- An operator makes a test of exactly the values that fit its word. -/
theorem exists_of_iff : (∃ t, Of op value t) ↔ value.Fits op.word := by
  by_cases hop : op = .absent
  · rw [hop]
    refine Iff.trans ⟨?_, ?_⟩ Json.fits_null.symm
    · rintro ⟨t, h⟩
      cases h with
      | absent hb => exact ⟨_, hb⟩
      | many hword => exact absurd hword (by decide)
    · rintro ⟨b, hb⟩
      exact ⟨_, .absent hb⟩
  · have hword : op.word ≠ "null" := fun h => hop (Operator.word_inj (b := .absent) h)
    rw [Json.fits_of_ne hword]
    constructor
    · rintro ⟨t, h⟩
      cases h with
      | absent => exact absurd rfl hop
      | single hs => exact .inl hs
      | one hs => exact .inl hs
      | many hmem hall => exact .inr ⟨hmem, _, rfl, List.cons_ne_nil _ _, hall⟩
    · rintro (hs | ⟨hmem, items, rfl, hne, hall⟩)
      · cases op with
        | absent => exact absurd rfl hop
        | relation r => exact ⟨_, .single hs⟩
        | among => exact ⟨_, .one hs⟩
      · obtain ⟨first, rest, rfl⟩ := List.exists_cons_of_ne_nil hne
        exact ⟨_, .many hmem hall⟩

/-- Why an operator makes no test of a value. -/
inductive Unfit : Operator → Json → ValueFault → Prop
  | notFlag {value : Json} : (∀ b, ¬ value.Means b) → Unfit .absent value .notFlag
  | emptyList {op : Operator} : op ≠ .absent → Unfit op (.array []) .emptyList
  | nestedList {op : Operator} {items : List Json} {item : Json} : op ≠ .absent → item ∈ items →
      item.isScalar = false → Unfit op (.array items) .nestedList
  | listRefused {op : Operator} {items : List Json} : op ≠ .absent → items ≠ [] →
      (∀ item ∈ items, item.isScalar = true) → op.word ∉ Operator.listWords →
      Unfit op (.array items) (.listRefused op.word)
  | notScalar {op : Operator} {value : Json} : op ≠ .absent → value.isScalar = false →
      (∀ items, value ≠ .array items) → Unfit op value .notScalar

theorem of_eq_error_iff {fault : ValueFault} : Test.of op value = .error fault ↔
    Unfit op value fault := by
  constructor
  · intro h
    unfold Test.of at h
    split at h
    · split at h
      · cases h
      · rename_i hflag
        cases h
        refine .notFlag fun b hb => ?_
        rw [flag?_eq_some_iff.2 hb] at hflag
        cases hflag
    · rename_i hop
      cases h
      exact .emptyList hop
    · rename_i hop
      split_ifs at h with hall
      · obtain ⟨hword, rfl⟩ := ofList_eq_error_iff.1 h
        exact .listRefused hop (List.cons_ne_nil _ _) (List.all_eq_true.1 hall) hword
      · cases h
        rw [List.all_eq_true] at hall
        push Not at hall
        obtain ⟨item, hmem, hitem⟩ := hall
        exact .nestedList hop hmem (Bool.eq_false_iff.2 hitem)
    · rename_i hop hnil hcons
      split_ifs at h with hs
      · split at h
        all_goals cases h
      · cases h
        refine .notScalar hop (Bool.eq_false_iff.2 hs) fun items hitems => ?_
        cases items with
        | nil => exact hnil hitems
        | cons first rest => exact hcons first rest hitems
  · intro h
    cases h with
    | notFlag hflag =>
      have hnone : flag? value = none :=
        Option.eq_none_iff_forall_ne_some.2 fun b hb => hflag b (flag?_eq_some_iff.1 hb)
      rw [Test.of, hnone]
    | emptyList hop =>
      cases op with
      | absent => exact absurd rfl hop
      | relation | among => rfl
    | @nestedList _ items item hop hmem hitem =>
      obtain ⟨first, rest, rfl⟩ := List.exists_cons_of_ne_nil (List.ne_nil_of_mem hmem)
      rw [of_array hop, if_neg]
      intro hall
      rw [List.all_eq_true.1 hall item hmem] at hitem
      exact Bool.noConfusion hitem
    | listRefused hop hne hall hword =>
      obtain ⟨first, rest, rfl⟩ := List.exists_cons_of_ne_nil hne
      rw [of_array hop, if_pos (List.all_eq_true.2 hall), ofList_eq_error_iff]
      exact ⟨hword, rfl⟩
    | notScalar hop hs harray =>
      cases value with
      | array items => exact absurd rfl (harray items)
      | text | int | double | bool => exact Bool.noConfusion hs
      | null | object =>
        cases op with
        | absent => exact absurd rfl hop
        | relation | among => rfl

/-! ## Conditions -/

/-- The number of question marks in the condition. -/
def places : Test → Nat
  | .single _ _ => 1
  | .among _ _ rest => rest.length + 1
  | .absent _ => 0

/-- The test is one of membership in a list. -/
def isList : Test → Bool
  | .among _ _ _ => true
  | .single _ _ | .absent _ => false

theorem places_eq (t : Test) : t.places = t.values.length := by
  cases t <;> rfl

/-- Membership is tested where a list is asked for or the operator is `in`. -/
theorem Of.isList_iff (h : Of op value t) : t.isList = true ↔
    op.word ≠ "null" ∧ (op.word = "in" ∨ value.isScalar = false) := by
  cases h with
  | absent hb => exact iff_of_false Bool.false_ne_true fun h => h.1 rfl
  | @single r value hs =>
    refine iff_of_false Bool.false_ne_true fun h => ?_
    rcases h.2 with hin | hlist
    · cases r <;> exact absurd hin (by decide)
    · rw [hs] at hlist
      exact Bool.noConfusion hlist
  | one hs => exact iff_of_true rfl ⟨by decide, .inl rfl⟩
  | many hword hall =>
    refine iff_of_true rfl ⟨fun hnull => ?_, .inr rfl⟩
    rw [hnull] at hword
    exact absurd hword (by decide)

/-- Absence is tested where the operator is `null`, as the flag says. -/
theorem Of.exists_means (h : Of op value t) (hnull : op.word = "null") :
    ∃ b, value.Means b ∧ t = .absent b := by
  obtain rfl : op = .absent := Operator.word_inj hnull
  cases h with
  | absent hb => exact ⟨_, hb, rfl⟩
  | many hword => exact absurd hword (by decide)

/-- A test of membership has a question mark for each item. -/
theorem Of.condition_of_isList (h : Of op value t) (hlist : t.isList = true) (subject : String) :
    t.condition subject = subject ++ (if op.word = "not" then " NOT IN (" else " IN (") ++
      ", ".intercalate (t.values.map fun _ => "?") ++ ")" := by
  cases h with
  | absent | single => exact Bool.noConfusion hlist
  | one hs =>
    rw [if_neg (by decide)]
    rfl
  | many hword hall =>
    simp only [condition, beq_iff_eq]
    rfl

/-- No other test is written as one of membership. -/
theorem condition_ne_of_not_isList (subject operands : String) (h : t.isList = false) :
    t.condition subject ≠ subject ++ " IN (" ++ operands ∧
      t.condition subject ≠ subject ++ " NOT IN (" ++ operands := by
  obtain ⟨text, htext, hin, hnot⟩ : ∃ text, t.condition subject = subject ++ text ∧
      ¬ " IN (".toList <+: text.toList ∧ ¬ " NOT IN (".toList <+: text.toList := by
    cases t with
    | single r value =>
      refine ⟨" " ++ r.sign ++ " ?", by simp only [condition, String.append_assoc], ?_, ?_⟩
      · cases r <;> decide
      · cases r <;> decide
    | among => exact Bool.noConfusion h
    | absent expected =>
      cases expected with
      | false => exact ⟨" IS NOT NULL", rfl, by decide, by decide⟩
      | true => exact ⟨" IS NULL", rfl, by decide, by decide⟩
  have hne : ∀ opening : String, ¬ opening.toList <+: text.toList →
      t.condition subject ≠ subject ++ opening ++ operands := by
    intro opening hprefix heq
    rw [htext, String.append_assoc, ← String.toList_inj, String.toList_append,
      String.toList_append, List.append_cancel_left_eq, String.toList_append] at heq
    exact hprefix ⟨operands.toList, heq.symm⟩
  exact ⟨hne _ hin, hne _ hnot⟩

end Test

/-! ## Lookups -/

theorem Field.resolve_eq_ok_iff {key base : String} {token : Option String} {f : Field}
    (h : Key.Reads key base token) :
    Field.resolve registry key = .ok f ↔ Field.ofName? registry base = some f := by
  obtain ⟨rfl, -⟩ := Key.reads_iff.1 h
  rw [resolve]
  cases ofName? registry (Key.base key) <;> simp

theorem Field.resolve_eq_error_iff {key base : String} {token : Option String} {e : QueryError}
    (h : Key.Reads key base token) : Field.resolve registry key = .error e ↔
      Field.ofName? registry base = none ∧ e = .invalidField key := by
  obtain ⟨rfl, -⟩ := Key.reads_iff.1 h
  rw [resolve]
  cases ofName? registry (Key.base key) <;> simp [eq_comm]

namespace Lookup

/-- A base, a token and a value make a lookup of the language. -/
structure Accepted (registry : Registry) (base : String) (token : Option String) (value : Json) :
    Prop where
  field : ∃ f, Field.ofName? registry base = some f
  operator : ∀ word, token = some word → word ∈ Operator.words
  value : value.Fits (token.getD "eq")

/-- What is wrong with a lookup: its base, the parts of its token, its token or its value. Where
there are several faults, only the first of them counts. -/
inductive Refused (registry : Registry) (key base : String) (token : Option String)
    (value : Json) : QueryError → Prop
  | field : Field.ofName? registry base = none →
      Refused registry key base token value (.invalidField key)
  | arity {f : Field} {word : String} : Field.ofName? registry base = some f → token = some word →
      Key.Divided word → Refused registry key base token value (.invalidOperatorArity key)
  | operator {f : Field} {word : String} : Field.ofName? registry base = some f →
      token = some word → ¬ Key.Divided word → word ∉ Operator.words →
      Refused registry key base token value (.invalidOperator key)
  | value {f : Field} {op : Operator} {fault : ValueFault} :
      Field.ofName? registry base = some f → op.word = token.getD "eq" →
      ¬ value.Fits op.word → Test.Unfit op value fault →
      Refused registry key base token value (.invalidValue key fault)

end Lookup

namespace Predicate

/-- A predicate is as its lookup asks: it has the field of the base and the values asked for, one
for each question mark of its condition, and it is one of membership where a list is asked for or
the operator is `in`. -/
structure IsFor (registry : Registry) (base : String) (token : Option String) (value : Json)
    (p : Predicate) : Prop where
  field : Field.ofName? registry base = some p.field
  values : p.values = if token = some "null" then [] else value.parts
  places : p.test.places = p.values.length
  marks : registry.Plain → p.sql.toList.count '?' = p.values.length
  isList_iff : p.test.isList = true ↔
    token ≠ some "null" ∧ (token = some "in" ∨ value.isScalar = false)
  list : p.test.isList = true → p.values ≠ [] ∧ p.test.condition p.subject =
    p.subject ++ (if token = some "not" then " NOT IN (" else " IN (") ++
      ", ".intercalate (p.values.map fun _ => "?") ++ ")"
  notList : p.test.isList = false → ∀ operands,
    p.test.condition p.subject ≠ p.subject ++ " IN (" ++ operands ∧
      p.test.condition p.subject ≠ p.subject ++ " NOT IN (" ++ operands
  absence : token = some "null" → ∃ b, value.Means b ∧
    p.test.condition p.subject = p.subject ++ if b then " IS NULL" else " IS NOT NULL"

variable {key base : String} {token : Option String} {value : Json} {p : Predicate}

theorem count_sql (h : compile registry key value = .ok p) (hr : registry.Plain) :
    p.sql.toList.count '?' = p.values.length := by
  have hplain := Field.plain_of_resolve_of_plain hr (compile_eq_ok_iff.1 h).1
  have hcount := (Select.Condition.fills Select.hole
    (Lookup.plain_condition (l := ⟨value, p⟩) h hplain)).count
  rw [Lookup.sql_condition (l := ⟨value, p⟩) h, Lookup.operands_condition, List.length_map,
    ← values_compile h] at hcount
  simpa using hcount

theorem isFor_of_compile (hk : Key.Reads key base token) (h : compile registry key value = .ok p) :
    p.IsFor registry base token value := by
  obtain ⟨hfield, op, hop, htest⟩ := compile_eq_ok_iff.1 h
  rw [Field.resolve_eq_ok_iff hk] at hfield
  have hword := (Operator.ofKey_eq_ok_iff hk).1 hop
  have htoken : ∀ word, word ≠ "eq" → (token = some word ↔ op.word = word) := by
    intro word hne
    rw [hword]
    cases token with
    | none => simp [hne.symm]
    | some word' => simp
  rw [Test.of_eq_ok_iff] at htest
  have hvalues := values_compile h
  obtain ⟨-, rfl⟩ := Key.reads_iff.1 hk
  refine ⟨hfield, hvalues, Test.places_eq _, count_sql h, ?_, fun hlist => ⟨fun hnil => ?_, ?_⟩,
    fun hlist operands => Test.condition_ne_of_not_isList _ _ hlist, fun hnull => ?_⟩
  · rw [ne_eq, htoken _ (by decide), htoken _ (by decide)]
    exact htest.isList_iff
  · rw [values] at hnil
    cases ht : p.test with
    | among negated first rest =>
      rw [ht] at hnil
      cases hnil
    | single | absent =>
      rw [ht] at hlist
      exact Bool.noConfusion hlist
  · rw [htest.condition_of_isList hlist]
    simp only [htoken "not" (by decide)]
    rfl
  · obtain ⟨b, hb, ht⟩ := htest.exists_means ((htoken _ (by decide)).1 hnull)
    refine ⟨b, hb, ?_⟩
    rw [ht]
    cases b <;> rfl

/-- The field is refused first, then the operator, then the value. -/
theorem compile_eq_error_iff {e : QueryError} : compile registry key value = .error e ↔
    Field.resolve registry key = .error e ∨ ∃ f, Field.resolve registry key = .ok f ∧
      (Operator.ofKey key = .error e ∨ ∃ op, Operator.ofKey key = .ok op ∧
        ∃ fault, Test.of op value = .error fault ∧ e = .invalidValue key fault) := by
  rw [compile, Outcome.bind_eq_error_iff]
  refine or_congr_right (exists_congr fun f => and_congr_right fun _ => ?_)
  rw [Outcome.bind_eq_error_iff]
  refine or_congr_right (exists_congr fun op => and_congr_right fun _ => ?_)
  cases Test.of op value with
  | ok t => simp [pure, Except.pure]
  | error fault => simp [throw, throwThe, MonadExceptOf.throw, eq_comm]

theorem refused_of_compile {e : QueryError} (hk : Key.Reads key base token)
    (h : compile registry key value = .error e) :
    Lookup.Refused registry key base token value e := by
  rcases compile_eq_error_iff.1 h with h | ⟨f, hf, h⟩
  · obtain ⟨hnone, rfl⟩ := (Field.resolve_eq_error_iff hk).1 h
    exact .field hnone
  rw [Field.resolve_eq_ok_iff hk] at hf
  rcases h with h | ⟨op, hop, fault, hfault, rfl⟩
  · obtain ⟨word, htoken, ⟨hd, rfl⟩ | ⟨hd, hword, rfl⟩⟩ := (Operator.ofKey_eq_error_iff hk).1 h
    · exact .arity hf htoken hd
    · exact .operator hf htoken hd hword
  · refine .value hf ((Operator.ofKey_eq_ok_iff hk).1 hop) ?_ (Test.of_eq_error_iff.1 hfault)
    rw [← Test.exists_of_iff]
    rintro ⟨t, ht⟩
    rw [Test.of_eq_ok_iff.2 ht] at hfault
    cases hfault

theorem compile_of_refused {e : QueryError} (hk : Key.Reads key base token)
    (h : Lookup.Refused registry key base token value e) :
    compile registry key value = .error e := by
  rw [compile_eq_error_iff]
  cases h with
  | field hnone => exact .inl ((Field.resolve_eq_error_iff hk).2 ⟨hnone, rfl⟩)
  | arity hf htoken hd =>
    refine .inr ⟨_, (Field.resolve_eq_ok_iff hk).2 hf, .inl ?_⟩
    exact (Operator.ofKey_eq_error_iff hk).2 ⟨_, htoken, .inl ⟨hd, rfl⟩⟩
  | operator hf htoken hd hword =>
    refine .inr ⟨_, (Field.resolve_eq_ok_iff hk).2 hf, .inl ?_⟩
    exact (Operator.ofKey_eq_error_iff hk).2 ⟨_, htoken, .inr ⟨hd, hword, rfl⟩⟩
  | @value f op fault hf hop _ hfault =>
    refine .inr ⟨f, (Field.resolve_eq_ok_iff hk).2 hf, .inr ⟨op, ?_, fault, ?_, rfl⟩⟩
    · exact (Operator.ofKey_eq_ok_iff hk).2 hop
    · exact Test.of_eq_error_iff.2 hfault

theorem exists_compile_iff (hk : Key.Reads key base token) :
    (∃ p, compile registry key value = .ok p) ↔ Lookup.Accepted registry base token value := by
  constructor
  · rintro ⟨p, h⟩
    obtain ⟨hf, op, hop, htest⟩ := compile_eq_ok_iff.1 h
    rw [Operator.ofKey_eq_ok_iff hk] at hop
    refine ⟨⟨_, (Field.resolve_eq_ok_iff hk).1 hf⟩, fun word hword => ?_, ?_⟩
    · rw [hword] at hop
      exact Operator.mem_words_iff.2 ⟨op, hop⟩
    · rw [← hop]
      exact Test.exists_of_iff.1 ⟨_, Test.of_eq_ok_iff.1 htest⟩
  · rintro ⟨⟨f, hf⟩, hword, hvalue⟩
    have hmem : token.getD "eq" ∈ Operator.words := by
      cases token with
      | none => decide
      | some word => exact hword word rfl
    obtain ⟨op, hop⟩ := Operator.mem_words_iff.1 hmem
    rw [← hop, ← Test.exists_of_iff] at hvalue
    obtain ⟨t, ht⟩ := hvalue
    exact ⟨⟨f, t⟩, compile_eq_ok_iff.2 ⟨(Field.resolve_eq_ok_iff hk).2 hf, op,
      (Operator.ofKey_eq_ok_iff hk).2 hop, Test.of_eq_ok_iff.2 ht⟩⟩

/-- **Exactly the lookups of the language are compiled.** A key is read in one way. Its lookup is
refused for the first fault that it has, and compiled if it has none, to a predicate that is as the
lookup asks. -/
theorem compile_language (registry : Registry) (key : String) (value : Json) :
    (∃ base token, Key.Reads key base token) ∧
      ∀ base token, Key.Reads key base token →
        ((∃ p, compile registry key value = .ok p) ↔
          Lookup.Accepted registry base token value) ∧
        (∀ e, compile registry key value = .error e ↔
          Lookup.Refused registry key base token value e) ∧
        ∀ p, compile registry key value = .ok p → p.IsFor registry base token value :=
  ⟨⟨_, _, Key.reads_self key⟩, fun _ _ hk => ⟨exists_compile_iff hk,
    fun _ => ⟨refused_of_compile hk, compile_of_refused hk⟩, fun _ => isFor_of_compile hk⟩⟩

/-- A list of names that is not wanted is a lookup of the language. Of a key with three underscores
in a row the token begins with the last of them, and a base without a field is a fault before the
parts of its token. -/
theorem first_fault_of_lookups :
    (∃ p, compile Model.bundled.registry "name__not" (.array [.text "A", .int 1]) = .ok p ∧
      p.IsFor Model.bundled.registry "name" (some "not") (.array [.text "A", .int 1])) ∧
    Lookup.Refused Model.bundled.registry "name___not" "name" (some "_not") (.text "A")
      (.invalidOperator "name___not") ∧
    Lookup.Refused Model.bundled.registry "nothing__gt__lt" "nothing" (some "gt__lt") (.text "A")
      (.invalidField "nothing__gt__lt") := by
  have hnot : Key.Reads "name__not" "name" (some "not") := Key.reads_iff.2 (by decide)
  have hthree : Key.Reads "name___not" "name" (some "_not") := Key.reads_iff.2 (by decide)
  have htwice : Key.Reads "nothing__gt__lt" "nothing" (some "gt__lt") :=
    Key.reads_iff.2 (by decide)
  obtain ⟨-, hlist⟩ := compile_language Model.bundled.registry "name__not"
    (.array [.text "A", .int 1])
  obtain ⟨-, htoken⟩ := compile_language Model.bundled.registry "name___not" (.text "A")
  obtain ⟨-, hbase⟩ := compile_language Model.bundled.registry "nothing__gt__lt" (.text "A")
  refine ⟨⟨_, rfl, (hlist _ _ hnot).2.2 _ rfl⟩, ?_, ?_⟩
  · exact ((htoken _ _ hthree).2.1 _).1 rfl
  · exact ((hbase _ _ htwice).2.1 _).1 rfl

end Predicate

end EntityQuery
