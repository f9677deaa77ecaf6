import Mathlib.Tactic
import EntityQuery.Proofs.PrintedNumbers

/-!
# Printed values

The compact text of a value is one value of the grammar of JSON text: the reader finds it again,
with escaped characters for what they stand for.

* `Json.pieces?_quote`, `Json.string?_pieces`: a printed string is read back;
* `Json.written`: a printed value as it is written;
* **`Json.ofText?_compact`**: the reader finds it in the compact text.
-/

namespace EntityQuery.Json

open Written

/-! ## Strings -/

/-- The piece of a string that a printed character is: a control character without a letter of its
own is a code unit. -/
def pieceOf (c : Char) : Piece :=
  if c.toNat < 0x20 ∧ c ∉ ['\n', '\r', '\t', '\x08', '\x0c'] then .codeUnit c.toNat else .char c

theorem codeUnit?_hexPair : ∀ n < 0x20,
    codeUnit? '0' '0' (Nat.digitChar (n / 16)) (Nat.digitChar (n % 16)) = some n := by decide

theorem pieces?_codeUnit {a b c d : Char} {n : Nat} (h : codeUnit? a b c d = some n)
    (cs : List Char) : pieces? ('\\' :: 'u' :: a :: b :: c :: d :: cs) =
      (pieces? cs).map fun p => (.codeUnit n :: p.1, p.2) := by
  rw [pieces?, h]
  cases pieces? cs <;> rfl

theorem pieces?_char {c : Char} (hquote : c ≠ '"') (hslash : c ≠ '\\') (h : 0x20 ≤ c.toNat)
    (cs : List Char) : pieces? (c :: cs) = (pieces? cs).map fun p => (.char c :: p.1, p.2) := by
  have htest : (decide (c.toNat < 0x20) || c == '\\') = false := by
    rw [Bool.or_eq_false_iff, decide_eq_false_iff_not, beq_eq_false_iff_ne]
    exact ⟨Nat.not_lt.2 h, hslash⟩
  rw [pieces?]
  · rw [htest, if_neg Bool.false_ne_true]
  · exact hquote
  · exact fun _ _ _ _ _ heq => absurd heq hslash
  · exact fun _ _ heq => absurd heq hslash

theorem pieces?_letter {c e : Char} (hunit : e ≠ 'u') (h : escape? e = some c) (cs : List Char) :
    pieces? ('\\' :: e :: cs) = (pieces? cs).map fun p => (.char c :: p.1, p.2) := by
  rw [pieces?, h]
  · cases pieces? cs <;> rfl
  · exact fun _ _ _ _ _ heq => absurd heq hunit

theorem pieces?_escape (c : Char) (cs : List Char) :
    pieces? (escape c ++ cs) = (pieces? cs).map fun p => (pieceOf c :: p.1, p.2) := by
  by_cases hletter : c ∈ ['"', '\\', '\n', '\r', '\t', '\x08', '\x0c']
  · simp only [List.mem_cons, List.not_mem_nil, or_false] at hletter
    rcases hletter with rfl | rfl | rfl | rfl | rfl | rfl | rfl <;>
      exact pieces?_letter (by decide) rfl cs
  · simp only [List.mem_cons, List.not_mem_nil, or_false, not_or] at hletter
    by_cases hc : c.toNat < 0x20
    · have hescape : escape c = '\\' :: 'u' :: '0' :: '0' :: hexPair c.toNat := by
        simp [escape, hletter, hc]
      have hpiece : pieceOf c = .codeUnit c.toNat := by simp [pieceOf, hletter, hc]
      rw [hescape, hpiece]
      exact pieces?_codeUnit (codeUnit?_hexPair _ hc) cs
    · have hescape : escape c = [c] := by simp [escape, hletter, hc]
      have hpiece : pieceOf c = .char c := by simp [pieceOf, hc]
      rw [hescape, hpiece]
      exact pieces?_char hletter.1 hletter.2.1 (Nat.not_lt.1 hc) cs

theorem pieces?_quote (cs rest : List Char) :
    pieces? (cs.flatMap escape ++ '"' :: rest) = some (cs.map pieceOf, rest) := by
  induction cs with
  | nil => rfl
  | cons c cs ih =>
    rw [List.flatMap_cons, List.append_assoc, pieces?_escape, ih]
    rfl

theorem characters?_codeUnit {a : Nat} (h : a < 0x20) (ps : List Piece) :
    characters? (.codeUnit a :: ps) = (characters? ps).map (Char.ofNat a :: ·) := by
  have hhigh : isHighSurrogate a = false := by
    rw [isHighSurrogate, Bool.and_eq_false_iff, decide_eq_false_iff_not]
    omega
  have hlow : isLowSurrogate a = false := by
    rw [isLowSurrogate, Bool.and_eq_false_iff, decide_eq_false_iff_not]
    omega
  match ps with
  | [] => simp [characters?, hhigh, hlow]
  | .char c :: ps => simp [characters?, hhigh, hlow]
  | .codeUnit b :: ps =>
    rw [characters?, hhigh, hlow, if_neg Bool.false_ne_true, if_neg Bool.false_ne_true]

theorem characters?_pieces (cs : List Char) : characters? (cs.map pieceOf) = some cs := by
  induction cs with
  | nil => rfl
  | cons c cs ih =>
    rw [List.map_cons, pieceOf]
    split_ifs with hc
    · rw [characters?_codeUnit hc.1, ih, Option.map_some, Char.ofNat_toNat]
    · rw [characters?, ih, Option.map_some]

theorem string?_pieces (s : String) : string? (s.toList.map pieceOf) = some s := by
  rw [string?, characters?_pieces, Option.map_some, String.ofList_toList]

/-! ## Values -/

mutual

/-- The printed value as it is written. -/
def written : Json → Written
  | .null => .null
  | .bool b => .bool b
  | .int n => .number (ofInt n)
  | .double d => .number d.numeral
  | .text s => .string (s.toList.map pieceOf)
  | .array items => .array (writtenItems items)
  | .object members => .object (writtenMembers members)

/-- The printed items as they are written. -/
def writtenItems : List Json → List Written
  | [] => []
  | x :: xs => written x :: writtenItems xs

/-- The printed members as they are written. -/
def writtenMembers : List (String × Json) → List (List Piece × Written)
  | [] => []
  | (key, x) :: xs => (key.toList.map pieceOf, written x) :: writtenMembers xs

end

variable {n : Nat} {rest : List Char}

theorem value?_digit {d : Nat} (hd : d < 10) (n : Nat) (cs : List Char) :
    value? (n + 1) (Nat.digitChar d :: cs) = numeral? false (Nat.digitChar d :: cs) := by
  match d, hd with
  | 0, _ | 1, _ | 2, _ | 3, _ | 4, _ | 5, _ | 6, _ | 7, _ | 8, _ | 9, _ => rfl

theorem value?_spelled {m : Numeral} (hm : m.WellFormed) (h : Ends rest) :
    value? (n + 1) (m.spelled ++ rest) = some (.number m, rest) := by
  rw [Numeral.spelled, List.append_assoc, ← numeral?_unsigned hm h]
  cases hnegative : m.negative with
  | true => rfl
  | false =>
    cases hwhole : m.whole with
    | nil => exact absurd hwhole hm.ne_nil
    | cons d ds =>
      rw [if_neg Bool.false_ne_true, List.nil_append, Numeral.unsigned, hwhole]
      exact value?_digit (hm.lt_ten d (by rw [hwhole]; exact List.mem_cons_self)) n _

theorem value?_array {c : Char} (hspace : isSpace c = false) (hc : c ≠ ']') (cs : List Char) :
    value? (n + 1) ('[' :: c :: cs) =
      (items? n (c :: cs)).map fun p => (.array p.1, p.2) := by
  have hskip : skip (c :: cs) = c :: cs := List.dropWhile_cons_of_neg (by simp [hspace])
  have hopen : skip ('[' :: c :: cs) = '[' :: c :: cs := rfl
  rw [value?, hopen]
  simp only [hskip]
  split
  · rename_i heq
    exact absurd (List.cons.inj heq).1 hc
  · rfl

variable {cs r : List Char} {x : Written} {xs : List Written}
  {ms : List (List Piece × Written)} {key : List Piece}

theorem items?_last (h : value? n cs = some (x, ']' :: rest)) :
    items? (n + 1) cs = some ([x], rest) := by
  rw [items?, h]
  rfl

theorem items?_more (h : value? n cs = some (x, ',' :: r)) (hrest : items? n r = some (xs, rest)) :
    items? (n + 1) cs = some (x :: xs, rest) := by
  rw [items?, h]
  show (items? n r).bind _ = _
  rw [hrest]
  rfl

theorem members?_last (hkey : pieces? cs = some (key, ':' :: r))
    (h : value? n r = some (x, '\x7d' :: rest)) :
    Written.members? (n + 1) ('"' :: cs) = some ([(key, x)], rest) := by
  show (pieces? cs).bind _ = _
  rw [hkey]
  show (value? n r).bind _ = _
  rw [h]
  rfl

theorem members?_more {r' : List Char} (hkey : pieces? cs = some (key, ':' :: r))
    (h : value? n r = some (x, ',' :: r')) (hrest : Written.members? n r' = some (ms, rest)) :
    Written.members? (n + 1) ('"' :: cs) = some ((key, x) :: ms, rest) := by
  show (pieces? cs).bind _ = _
  rw [hkey]
  show (value? n r).bind _ = _
  rw [h]
  show (Written.members? n r').bind _ = _
  rw [hrest]
  rfl

/-- Texts with commas between them. -/
def joined (texts : List String) : List Char := (",".intercalate texts).toList

theorem joined_singleton (s : String) : joined [s] = s.toList := by
  rw [joined, String.intercalate_singleton]

theorem joined_cons (s t : String) (texts : List String) :
    joined (s :: t :: texts) = s.toList ++ ',' :: joined (t :: texts) := by
  rw [joined, String.intercalate_cons_cons, String.toList_append, String.toList_append,
    List.append_assoc]
  rfl

theorem toList_quote (s : String) : (quote s).toList = '"' :: s.toList.flatMap escape ++ ['"'] := by
  rw [quote, String.toList_ofList]

theorem toList_compact_array (items : List Json) :
    (compact (.array items)).toList = '[' :: (joined (compactItems items) ++ [']']) := by
  rw [compact, String.toList_append, String.toList_append]
  rfl

theorem toList_compact_object (members : List (String × Json)) :
    (compact (.object members)).toList =
      '\x7b' :: (joined (compactMembers members) ++ ['\x7d']) := by
  rw [compact, String.toList_append, String.toList_append]
  rfl

theorem toList_member (key : String) (j : Json) : (quote key ++ ":" ++ j.compact).toList =
    '"' :: (key.toList.flatMap escape ++ '"' :: ':' :: j.compact.toList) := by
  rw [String.toList_append, String.toList_append, toList_quote]
  simp

theorem spelled_eq_cons {m : Numeral} (hm : m.WellFormed) :
    ∃ c cs, m.spelled = c :: cs ∧ isSpace c = false ∧ c ≠ ']' := by
  have hdigit : ∀ d < 10, isSpace (Nat.digitChar d) = false ∧ Nat.digitChar d ≠ ']' := by decide
  rw [Numeral.spelled]
  cases m.negative with
  | true => exact ⟨_, _, rfl, rfl, by decide⟩
  | false =>
    rw [Numeral.unsigned]
    cases hwhole : m.whole with
    | nil => exact absurd hwhole hm.ne_nil
    | cons d ds =>
      have hd : d < 10 := hm.lt_ten d (by rw [hwhole]; exact List.mem_cons_self)
      exact ⟨_, _, rfl, hdigit d hd⟩

/-- A printed value starts with a character that is neither white space nor a closing bracket. -/
theorem toList_compact_eq_cons (j : Json) :
    ∃ c cs, j.compact.toList = c :: cs ∧ isSpace c = false ∧ c ≠ ']' := by
  cases j with
  | null => exact ⟨_, _, rfl, rfl, by decide⟩
  | bool b => cases b <;> exact ⟨_, _, rfl, rfl, by decide⟩
  | int n =>
    rw [compact, toList_intText]
    exact spelled_eq_cons (wellFormed_ofInt n)
  | double d =>
    rw [compact, Double.toList_doubleText]
    exact spelled_eq_cons d.wellFormed_numeral
  | text s => exact ⟨_, _, toList_quote s, rfl, by decide⟩
  | array items => exact ⟨_, _, toList_compact_array items, rfl, by decide⟩
  | object members => exact ⟨_, _, toList_compact_object members, rfl, by decide⟩

/-! ## Reading back -/

theorem joined_items_eq_cons (x : Json) (xs : List Json) :
    ∃ c cs, joined (compactItems (x :: xs)) = c :: cs ∧ isSpace c = false ∧ c ≠ ']' := by
  obtain ⟨c, cs, hx, hc⟩ := toList_compact_eq_cons x
  cases xs with
  | nil => exact ⟨c, cs, by rw [compactItems, compactItems, joined_singleton, hx], hc⟩
  | cons y ys =>
    refine ⟨c, cs ++ ',' :: joined (compactItems (y :: ys)), ?_, hc⟩
    rw [compactItems, compactItems, joined_cons, hx]
    rfl

theorem joined_members_eq_cons (m : String × Json) (ms : List (String × Json)) :
    ∃ cs, joined (compactMembers (m :: ms)) = '"' :: cs := by
  obtain ⟨key, x⟩ := m
  cases ms with
  | nil => exact ⟨_, by rw [compactMembers, compactMembers, joined_singleton, toList_member]⟩
  | cons m' ms =>
    obtain ⟨key', y⟩ := m'
    exact ⟨_, by rw [compactMembers, compactMembers, joined_cons, toList_member]; rfl⟩

theorem pieces?_key (key : String) (cs : List Char) :
    pieces? (key.toList.flatMap escape ++ '"' :: ':' :: cs) =
      some (key.toList.map pieceOf, ':' :: cs) := pieces?_quote key.toList (':' :: cs)

theorem ends_comma (cs : List Char) : Ends (',' :: cs) := fun _ h => .inl (Option.some.inj h).symm

theorem ends_bracket (cs : List Char) : Ends (']' :: cs) :=
  fun _ h => .inr (.inl (Option.some.inj h).symm)

theorem ends_brace (cs : List Char) : Ends ('\x7d' :: cs) :=
  fun _ h => .inr (.inr (Option.some.inj h).symm)

/-- What holds of values without parts, and of arrays and objects if it holds of all their parts,
holds of every value. -/
@[elab_as_elim]
theorem induction_on {motive : Json → Prop} (j : Json) (null : motive .null)
    (bool : ∀ b, motive (.bool b)) (int : ∀ n, motive (.int n))
    (double : ∀ d, motive (.double d)) (text : ∀ s, motive (.text s))
    (array : ∀ items, (∀ x ∈ items, motive x) → motive (.array items))
    (object : ∀ members : List (String × Json), (∀ m ∈ members, motive m.2) →
      motive (.object members)) : motive j :=
  @Json.rec motive (fun items => ∀ x ∈ items, motive x)
    (fun members => ∀ m ∈ members, motive m.2) (fun m => motive m.2) null bool int double text
    array object (fun _ h => nomatch h)
    (fun _ _ hx hxs => List.forall_mem_cons.2 ⟨hx, hxs⟩) (fun _ h => nomatch h)
    (fun _ _ hm hms => List.forall_mem_cons.2 ⟨hm, hms⟩) (fun _ _ h => h) j

/-- The reader finds the value in its text; each character takes two steps at most. -/
def Found (j : Json) : Prop := ∀ n rest, 2 * j.compact.toList.length ≤ n → Ends rest →
  value? n (j.compact.toList ++ rest) = some (j.written, rest)

theorem items?_compact {x : Json} {xs : List Json} (h : ∀ y ∈ x :: xs, Found y)
    (hn : 2 * (joined (compactItems (x :: xs))).length + 1 ≤ n) :
    items? n (joined (compactItems (x :: xs)) ++ ']' :: rest) =
      some (writtenItems (x :: xs), rest) := by
  induction xs generalizing x n with
  | nil =>
    rw [compactItems, compactItems, joined_singleton] at hn ⊢
    obtain ⟨n, rfl⟩ : ∃ k, n = k + 1 := ⟨n - 1, by omega⟩
    exact items?_last (h x List.mem_cons_self n _ (by omega) (ends_bracket rest))
  | cons y ys ih =>
    rw [compactItems, compactItems, joined_cons, ← compactItems] at hn ⊢
    rw [List.length_append, List.length_cons] at hn
    obtain ⟨n, rfl⟩ : ∃ k, n = k + 1 := ⟨n - 1, by omega⟩
    rw [List.append_assoc, List.cons_append]
    exact items?_more (h x List.mem_cons_self n _ (by omega) (ends_comma _))
      (ih (fun z hz => h z (List.mem_cons_of_mem x hz)) (by omega))

theorem members?_compact {m : String × Json} {ms : List (String × Json)}
    (h : ∀ m' ∈ m :: ms, Found m'.2)
    (hn : 2 * (joined (compactMembers (m :: ms))).length ≤ n) :
    Written.members? n (joined (compactMembers (m :: ms)) ++ '\x7d' :: rest) =
      some (writtenMembers (m :: ms), rest) := by
  obtain ⟨key, x⟩ := m
  induction ms generalizing key x n with
  | nil =>
    rw [compactMembers, compactMembers, joined_singleton, toList_member] at hn ⊢
    simp only [List.length_cons, List.length_append] at hn
    obtain ⟨n, rfl⟩ : ∃ k, n = k + 1 := ⟨n - 1, by omega⟩
    have hx : Found x := h (key, x) List.mem_cons_self
    rw [List.cons_append, List.append_assoc]
    exact members?_last (pieces?_key key _) (hx n _ (by omega) (ends_brace rest))
  | cons m' ms ih =>
    obtain ⟨key', y⟩ := m'
    rw [compactMembers, compactMembers, joined_cons, ← compactMembers, toList_member] at hn ⊢
    simp only [List.length_cons, List.length_append] at hn
    obtain ⟨n, rfl⟩ : ∃ k, n = k + 1 := ⟨n - 1, by omega⟩
    have hx : Found x := h (key, x) List.mem_cons_self
    rw [List.append_assoc, List.cons_append, List.append_assoc, List.cons_append]
    exact members?_more (pieces?_key key _) (hx n _ (by omega) (ends_comma _))
      (ih key' y (fun m hm => h m (List.mem_cons_of_mem _ hm)) (by omega))

/-- No text is empty, so that the reader takes a step. -/
theorem found_of_succ {j : Json} (h : ∀ n rest, 2 * j.compact.toList.length ≤ n + 1 → Ends rest →
    value? (n + 1) (j.compact.toList ++ rest) = some (j.written, rest)) : Found j := by
  intro n rest hn hrest
  obtain ⟨c, cs, hcons, -⟩ := toList_compact_eq_cons j
  have hpos : 0 < n := by
    rw [hcons, List.length_cons] at hn
    omega
  obtain ⟨n, rfl⟩ := Nat.exists_eq_succ_of_ne_zero hpos.ne'
  exact h n rest hn hrest

theorem found (j : Json) : Found j := by
  induction j using induction_on with
  | null => exact found_of_succ fun n rest hn hrest => rfl
  | bool b => exact found_of_succ fun n rest hn hrest => by cases b <;> rfl
  | int i =>
    refine found_of_succ fun n rest hn hrest => ?_
    rw [compact, toList_intText]
    exact value?_spelled (wellFormed_ofInt i) hrest
  | double d =>
    refine found_of_succ fun n rest hn hrest => ?_
    rw [compact, Double.toList_doubleText]
    exact value?_spelled d.wellFormed_numeral hrest
  | text s =>
    refine found_of_succ fun n rest hn hrest => ?_
    rw [compact, toList_quote, List.append_assoc]
    show (pieces? (s.toList.flatMap escape ++ '"' :: rest)).map _ = _
    rw [pieces?_quote]
    rfl
  | array items ih =>
    refine found_of_succ fun n rest hn hrest => ?_
    rw [toList_compact_array, List.length_cons, List.length_append] at hn
    rw [toList_compact_array, List.cons_append, List.append_assoc]
    cases items with
    | nil => rfl
    | cons x xs =>
      obtain ⟨c, cs, hcons, hspace, hc⟩ := joined_items_eq_cons x xs
      have hitems : items? n (joined (compactItems (x :: xs)) ++ ']' :: rest) = _ :=
        items?_compact ih (by omega)
      rw [hcons] at hitems ⊢
      rw [List.cons_append, value?_array hspace hc]
      show (items? n (c :: cs ++ ']' :: rest)).map _ = _
      rw [hitems]
      rfl
  | object members ih =>
    refine found_of_succ fun n rest hn hrest => ?_
    rw [toList_compact_object, List.length_cons, List.length_append] at hn
    rw [toList_compact_object, List.cons_append, List.append_assoc]
    cases members with
    | nil => rfl
    | cons m ms =>
      obtain ⟨cs, hcons⟩ := joined_members_eq_cons m ms
      have hmembers : Written.members? n
          (joined (compactMembers (m :: ms)) ++ '\x7d' :: rest) = _ :=
        members?_compact ih (by omega)
      rw [hcons] at hmembers ⊢
      show (Written.members? n ('"' :: cs ++ '\x7d' :: rest)).map _ = _
      rw [hmembers]
      rfl

/-- **The compact text of a value is one value of the grammar.** -/
theorem ofText?_compact (j : Json) : Written.ofText? j.compact = some j.written := by
  have hvalue := found j (2 * j.compact.length + 2) [] (by rw [String.length_toList]; omega)
    fun _ h => nomatch h
  rw [List.append_nil] at hvalue
  rw [Written.ofText?, hvalue]
  rfl

end EntityQuery.Json
