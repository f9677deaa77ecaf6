import Mathlib.Tactic
import EntityQuery.Proofs.Names

/-!
# Literals in SQL text

A reader of SQL takes what stands between single quotes for a literal and everything else for
itself. What a text can do beyond naming, comparing and joining is decided by these tokens: whether
its literals are the ones meant, and whether anything else in it quotes, opens a comment or ends the
statement.

* `tokens?`: the tokens of a text, if each of its literals is closed;
* `writing_of_tokens?`: the tokens are all that the text holds;
* `Contained`: the literals of a text are paths into a document or the mark of a first item, and the
  rest of it does not quote, open a comment or end the statement;
* `Inert`: texts that leave a reader outside of literals where it was, closed under appending;
* **`Inert.contained`**: an inert text is contained.
-/

namespace EntityQuery.Text

/-! ## Reading -/

/-- What a text is made of: characters, and literals. -/
inductive Token
  | char (c : Char)
  | literal (content : List Char)
  deriving DecidableEq

/-- The mark at both ends of a literal. -/
def literalMark : Char := '\x27'

/-- Where a reader is: outside of literals, in one, or after a mark in one, which ends it unless
another mark follows. -/
inductive Place
  | outside
  | inside (content : List Char)
  | ended (content : List Char)

/-- The tokens that have been read and the place after them. -/
structure Reader where
  tokens : List Token
  place : Place

namespace Reader

/-- Nothing has been read. -/
def start : Reader := ⟨[], .outside⟩

/-- Reads a character. Two marks in a row are one character of a literal. -/
def step (r : Reader) (c : Char) : Reader :=
  match r.place with
  | .outside =>
    if c = literalMark then ⟨r.tokens, .inside []⟩ else ⟨r.tokens ++ [.char c], .outside⟩
  | .inside content =>
    if c = literalMark then ⟨r.tokens, .ended content⟩ else ⟨r.tokens, .inside (content ++ [c])⟩
  | .ended content =>
    if c = literalMark then ⟨r.tokens, .inside (content ++ [c])⟩
    else ⟨r.tokens ++ [.literal content, .char c], .outside⟩

/-- Reads characters, one after the other. -/
def read (r : Reader) (cs : List Char) : Reader := cs.foldl step r

/-- All tokens at the end of a text; none if a literal is still open. -/
def finished? (r : Reader) : Option (List Token) :=
  match r.place with
  | .outside => some r.tokens
  | .inside _ => none
  | .ended content => some (r.tokens ++ [.literal content])

theorem read_append (r : Reader) (cs cs' : List Char) :
    r.read (cs ++ cs') = (r.read cs).read cs' := List.foldl_append

end Reader

/-- The tokens of a text, if each of its literals is closed. -/
def tokens? (text : String) : Option (List Token) := (Reader.start.read text.toList).finished?

example : tokens? "a='b''c'" =
    some [.char 'a', .char '=', .literal ['b', literalMark, 'c']] := by decide

/-! ## Writing -/

/-- The characters of a literal, each mark among them being written twice. -/
def doubled (content : List Char) : List Char :=
  content.flatMap fun c => if c = literalMark then [c, c] else [c]

/-- What a token is written as. -/
def Token.writing : Token → List Char
  | .char c => [c]
  | .literal content => literalMark :: doubled content ++ [literalMark]

/-- What has been read of a literal that is not a token yet. -/
def Place.writing : Place → List Char
  | .outside => []
  | .inside content => literalMark :: doubled content
  | .ended content => literalMark :: doubled content ++ [literalMark]

/-- What a reader has read. -/
def Reader.writing (r : Reader) : List Char := r.tokens.flatMap Token.writing ++ r.place.writing

theorem Reader.writing_step (r : Reader) (c : Char) : (r.step c).writing = r.writing ++ [c] := by
  obtain ⟨tokens, place⟩ := r
  by_cases hc : c = literalMark
  · cases place <;> simp [step, writing, hc, Place.writing, doubled]
  · cases place <;> simp [step, writing, hc, Place.writing, doubled, Token.writing]

theorem Reader.writing_read (r : Reader) (cs : List Char) :
    (r.read cs).writing = r.writing ++ cs := by
  induction cs generalizing r with
  | nil => exact (List.append_nil _).symm
  | cons c cs ih => exact (ih (r.step c)).trans (by simp [writing_step])

/-- The tokens of a text are all that it holds. -/
theorem writing_of_tokens? {text : String} {tokens : List Token} (h : tokens? text = some tokens) :
    tokens.flatMap Token.writing = text.toList := by
  have hread : (Reader.start.read text.toList).writing = text.toList :=
    Reader.writing_read .start text.toList
  rw [tokens?] at h
  generalize Reader.start.read text.toList = r at h hread
  obtain ⟨read, place⟩ := r
  rw [← hread]
  cases place with
  | outside =>
    cases h
    simp [Reader.writing, Place.writing]
  | inside content => cases h
  | ended content =>
    cases h
    simp [Reader.writing, Place.writing, Token.writing]

/-! ## Contained texts -/

/-- What a statement may hold: characters that neither quote nor end a statement, paths into a
document and the mark of the first item of a list. -/
inductive Token.Allowed : Token → Prop
  | char {c : Char} : c ∉ [literalMark, '"', '\x60', ';'] → Allowed (.char c)
  | path {path : List Char} : IsDotted path → Allowed (.literal ('$' :: '.' :: path))
  | first : Allowed (.literal ['$', '[', '0', ']'])

/-- All tokens may stand in a statement, and no two of them open a comment. -/
structure Harmless (tokens : List Token) : Prop where
  allowed : ∀ t ∈ tokens, t.Allowed
  no_line_comment : ¬ [.char '-', .char '-'] <:+: tokens
  no_block_comment : ¬ [.char '/', .char '*'] <:+: tokens

/-- The text is read to its end, and its tokens are harmless. -/
def Contained (text : String) : Prop := ∃ tokens, tokens? text = some tokens ∧ Harmless tokens

variable {tokens : List Token}

theorem pair_not_infix_concat {a b t : Token} (h : ¬ [a, b] <:+: tokens)
    (ht : t = b → tokens.getLast? ≠ some a) : ¬ [a, b] <:+: tokens ++ [t] := by
  intro hinfix
  rcases List.infix_concat_iff.1 hinfix with hsuffix | hinfix
  · obtain hnil | ⟨init, hinit, hsuffix⟩ := List.suffix_concat_iff.1 hsuffix
    · cases hnil
    · have hpair : [a] ++ [b] = init ++ [t] := hinit
      obtain ⟨hinit, hb⟩ := List.append_inj' hpair rfl
      obtain ⟨before, rfl⟩ := hinit ▸ hsuffix
      cases hb
      exact ht rfl List.getLast?_concat
  · exact h hinfix

theorem Harmless.concat (h : Harmless tokens) {t : Token} (ht : t.Allowed)
    (hline : t = .char '-' → tokens.getLast? ≠ some (.char '-'))
    (hblock : t = .char '*' → tokens.getLast? ≠ some (.char '/')) : Harmless (tokens ++ [t]) where
  allowed t' ht' := by
    rcases List.mem_append.1 ht' with ht' | ht'
    · exact h.allowed t' ht'
    · rw [List.mem_singleton.1 ht']
      exact ht
  no_line_comment := pair_not_infix_concat h.no_line_comment hline
  no_block_comment := pair_not_infix_concat h.no_block_comment hblock

/-! ## Inert texts -/

/-- A reader is outside of literals, has read harmless tokens, and the last of them does not begin a
comment. -/
structure Reader.Safe (r : Reader) : Prop where
  outside : r.place = .outside
  harmless : Harmless r.tokens
  last : ∀ c ∈ ['-', '/'], r.tokens.getLast? ≠ some (.char c)

/-- Reading the text keeps a reader safe. -/
def Inert (text : String) : Prop := ∀ r : Reader, r.Safe → (r.read text.toList).Safe

theorem Inert.append {a b : String} (ha : Inert a) (hb : Inert b) : Inert (a ++ b) := by
  intro r hr
  rw [String.toList_append, Reader.read_append]
  exact hb _ (ha r hr)

theorem Inert.intercalate {separator : String} (hs : Inert separator) {texts : List String}
    (h : ∀ text ∈ texts, Inert text) : Inert (separator.intercalate texts) :=
  intercalate_induct (fun _ hr => hr) (fun _ _ ha hb => ha.append hb) hs h

/-- An inert text is contained: the reader starts safe, and is outside of literals at the end. -/
theorem Inert.contained {text : String} (h : Inert text) : Contained text := by
  have hstart : Reader.start.Safe :=
    ⟨rfl, ⟨by simp [Reader.start], by decide, by decide⟩, by simp [Reader.start]⟩
  have hsafe := h .start hstart
  refine ⟨_, ?_, hsafe.harmless⟩
  rw [tokens?, Reader.finished?, hsafe.outside]

/-! ### Characters -/

/-- A character that is allowed anywhere: it does not begin a comment either. -/
def Quiet (c : Char) : Prop := c ∉ [literalMark, '"', '\x60', ';', '-', '/']

instance (c : Char) : Decidable (Quiet c) := by unfold Quiet; infer_instance

/-- All characters of a text are quiet. -/
def IsQuiet (text : String) : Prop := ∀ c ∈ text.toList, Quiet c

instance (text : String) : Decidable (IsQuiet text) :=
  decidable_of_iff (text.toList.all (decide <| Quiet ·)) (by simp [IsQuiet])

theorem quiet_of_wordCharacter {c : Char} (h : c.isAlphanum = true ∨ c = '_') : Quiet c := by
  intro hmem
  simp only [List.mem_cons, List.not_mem_nil, or_false] at hmem
  rcases hmem with rfl | rfl | rfl | rfl | rfl | rfl <;> exact absurd h (by decide)

/-- A quiet character keeps a reader safe, also after a minus sign. -/
theorem Reader.safe_step (h : Harmless tokens) (hlast : tokens.getLast? ≠ some (.char '/'))
    {c : Char} (hc : Quiet c) : (Reader.step ⟨tokens, .outside⟩ c).Safe := by
  have hmark : c ≠ literalMark := fun he => hc (by simp [he])
  have hdash : c ≠ '-' := fun he => hc (by simp [he])
  have hslash : c ≠ '/' := fun he => hc (by simp [he])
  have hallowed : Token.Allowed (.char c) :=
    .char fun hmem => hc (List.mem_append_left ['-', '/'] hmem)
  rw [step, if_neg hmark]
  refine ⟨rfl, h.concat hallowed (fun he => absurd (Token.char.inj he) hdash) fun _ => hlast, ?_⟩
  intro d hd
  rw [List.getLast?_concat, ne_eq, Option.some.injEq, Token.char.injEq]
  rintro rfl
  rcases List.mem_pair.1 hd with rfl | rfl
  · exact hdash rfl
  · exact hslash rfl

theorem Reader.Safe.read_quiet {r : Reader} (hr : r.Safe) {cs : List Char}
    (h : ∀ c ∈ cs, Quiet c) : (r.read cs).Safe := by
  induction cs generalizing r with
  | nil => exact hr
  | cons c cs ih =>
    obtain ⟨tokens, place⟩ := r
    obtain rfl : place = .outside := hr.outside
    have hstep := safe_step hr.harmless (hr.last '/' (by decide)) (h c List.mem_cons_self)
    exact ih hstep fun d hd => h d (List.mem_cons_of_mem _ hd)

theorem inert_of_quiet {text : String} (h : IsQuiet text) : Inert text :=
  fun _ hr => hr.read_quiet h

theorem inert_of_isWord {text : String} (h : IsWord text.toList) : Inert text :=
  inert_of_quiet fun c hc => quiet_of_wordCharacter (h c hc)

/-- Numbers are inert: a digit follows the minus sign. -/
theorem inert_repr (n : Int) : Inert n.repr := by
  have hquiet : ∀ m : Nat, ∀ c ∈ m.repr.toList, Quiet c := by
    intro m c hc
    rw [Nat.repr, String.toList_ofList] at hc
    have hdigit := Nat.isDigit_of_mem_toDigits (by omega) (by omega) hc
    exact quiet_of_wordCharacter (.inl (by simp [Char.isAlphanum, hdigit]))
  cases n with
  | ofNat m => exact inert_of_quiet (hquiet m)
  | negSucc m =>
    rintro ⟨tokens, place⟩ hr
    obtain rfl : place = .outside := hr.outside
    have htext : (Int.negSucc m).repr.toList = '-' :: (m + 1).repr.toList := by
      rw [Int.repr, String.toList_append]
      rfl
    obtain ⟨d, ds, hdigits⟩ : ∃ d ds, (m + 1).repr.toList = d :: ds := by
      rw [Nat.repr, String.toList_ofList]
      exact List.exists_cons_of_ne_nil Nat.toDigits_ne_nil
    have hminus : Harmless (tokens ++ [.char '-']) :=
      hr.harmless.concat (.char (by decide)) (fun _ => hr.last '-' (by decide)) (by simp)
    have hd : Quiet d := hquiet (m + 1) d (by simp [hdigits])
    -- a second minus sign would open a comment: only the digit after it makes the reader safe
    have hfirst := Reader.safe_step hminus (by simp) hd
    rw [htext, hdigits]
    exact hfirst.read_quiet fun c hc => hquiet (m + 1) c (by simp [hdigits, hc])

/-! ### Literals -/

theorem Reader.read_content (tokens : List Token) {cs : List Char} (h : literalMark ∉ cs)
    (content : List Char) :
    (Reader.mk tokens (.inside content)).read cs = ⟨tokens, .inside (content ++ cs)⟩ := by
  induction cs generalizing content with
  | nil => simp [read]
  | cons c cs ih =>
    have hc : c ≠ literalMark := fun he => h (by simp [he])
    have hstep : (Reader.mk tokens (.inside content)).step c = ⟨tokens, .inside (content ++ [c])⟩ :=
      if_neg hc
    rw [read, List.foldl_cons, hstep]
    refine (ih (fun hmem => h (List.mem_cons_of_mem _ hmem)) _).trans ?_
    rw [List.append_assoc]
    rfl

theorem not_mem_of_allowed {content : List Char} (h : (Token.literal content).Allowed) :
    literalMark ∉ content := by
  cases h with
  | @path path hpath =>
    intro hmem
    have hmark : literalMark ∈ path := by simpa [literalMark] using hmem
    rcases hpath.mem hmark with h | h | h
    · exact absurd h (by decide)
    · exact absurd h (by decide)
    · exact absurd h (by decide)
  | first => decide

/-- An allowed literal before a closing parenthesis is inert. Without the parenthesis it would not
be: another mark after it would carry it on. -/
theorem inert_literal {content : String} (h : (Token.literal content.toList).Allowed) :
    Inert ("'" ++ content ++ "')") := by
  rintro ⟨tokens, place⟩ hr
  obtain rfl : place = .outside := hr.outside
  have htext : ("'" ++ content ++ "')").toList =
      literalMark :: (content.toList ++ [literalMark, ')']) := by
    simp [literalMark]
  have hopen : (Reader.mk tokens .outside).step literalMark = ⟨tokens, .inside []⟩ := rfl
  have hread := Reader.read_content tokens (not_mem_of_allowed h) []
  have hclosed : (Reader.mk tokens .outside).read ("'" ++ content ++ "')").toList =
      (Reader.mk (tokens ++ [.literal content.toList]) .outside).step ')' := by
    rw [htext, Reader.read, List.foldl_cons, hopen]
    refine (Reader.read_append _ _ _).trans ?_
    rw [hread]
    simp [Reader.read, Reader.step, literalMark]
  rw [hclosed]
  exact Reader.safe_step (hr.harmless.concat h (by simp) (by simp)) (by simp) (by decide)

end EntityQuery.Text
