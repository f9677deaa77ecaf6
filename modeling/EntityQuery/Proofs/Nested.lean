import Mathlib.Tactic
import EntityQuery.Proofs.Embedding
import EntityQuery.Proofs.Printed

/-!
# Texts in texts

A text that is embedded in another one is shorter, for its quotes are left out. So a text may embed
others to any depth, and the bound that the reader counts down is never reached.

* `Json.Written.span`, `Json.span`: the characters that the longest text in a value takes;
* `Json.Written.span_le_of_ofText?`: these are characters of the text that the value is read of;
* **`Json.ofText?_eq`**: the value of a text, by the values of the texts embedded in it.
-/

namespace EntityQuery.Json

/-! ## The longest text in a value -/

namespace Written

mutual

/-- The characters of the longest string in a value, one quote included. -/
def span : Written → Nat
  | .string ps => ps.length + 1
  | .array ws => itemsSpan ws
  | .object ms => membersSpan ms
  | _ => 0

/-- The characters of the longest string in the items. -/
def itemsSpan : List Written → Nat
  | [] => 0
  | w :: ws => max (span w) (itemsSpan ws)

/-- The characters of the longest string among the values of the members. -/
def membersSpan : List (List Piece × Written) → Nat
  | [] => 0
  | (_, w) :: ms => max (span w) (membersSpan ms)

end

variable {n : Nat} {cs r : List Char} {w : Written}

theorem length_skip (cs : List Char) : (skip cs).length ≤ cs.length :=
  (List.dropWhile_suffix _).length_le

theorem length_of_pieces? {ps : List Piece} (h : pieces? cs = some (ps, r)) :
    ps.length + 1 + r.length ≤ cs.length := by
  fun_induction pieces? cs generalizing ps r with
  | case1 => cases h
  | case2 =>
    cases h
    simp only [List.length_cons, List.length_nil]
    omega
  | case3 a b c d cs n ps' r' hps _ ih =>
    cases h
    have := ih hps
    simp only [List.length_cons]
    omega
  | case4 => cases h
  | case5 e cs _ c ps' r' hps _ ih =>
    cases h
    have := ih hps
    simp only [List.length_cons]
    omega
  | case6 => cases h
  | case7 => cases h
  | case8 c cs _ _ _ _ ih =>
    obtain ⟨p, hp, heq⟩ := Option.map_eq_some_iff.1 h
    cases heq
    have := ih hp
    simp only [List.length_cons]
    omega

theorem length_of_digits (cs : List Char) :
    (digits cs).1.length + (digits cs).2.length = cs.length := by
  rw [digits, List.length_map, ← List.length_append, List.takeWhile_append_dropWhile]

theorem length_of_numeral? {negative : Bool} (h : numeral? negative cs = some (w, r)) :
    w.span = 0 ∧ r.length ≤ cs.length := by
  have hwhole : ∀ {cs ds r}, wholeDigits? cs = some (ds, r) → r.length ≤ cs.length := by
    intro cs ds r h
    have := length_of_digits cs
    unfold wholeDigits? at h
    grind
  have hfraction : ∀ {cs ds r}, fraction? cs = some (ds, r) → r.length ≤ cs.length := by
    intro cs ds r h
    have := length_of_digits
    unfold fraction? someDigits? at h
    grind
  have hexponent : ∀ {cs ds r}, exponent? cs = some (ds, r) → r.length ≤ cs.length := by
    intro cs ds r h
    have := length_of_digits
    unfold exponent? power? someDigits? at h
    grind
  unfold numeral? at h
  simp only [Option.bind_eq_bind, Option.bind_eq_some_iff] at h
  obtain ⟨⟨_, r₁⟩, h₁, ⟨_, r₂⟩, h₂, ⟨_, r₃⟩, h₃, heq⟩ := h
  cases heq
  exact ⟨rfl, (hexponent h₃).trans ((hfraction h₂).trans (hwhole h₁))⟩

/-- What is found in at most so many steps takes the characters that it is read of. -/
structure Within (n : Nat) : Prop where
  value : ∀ {cs w r}, value? n cs = some (w, r) → w.span + r.length ≤ cs.length
  items : ∀ {cs ws r}, items? n cs = some (ws, r) → itemsSpan ws + r.length ≤ cs.length
  members : ∀ {cs ms r}, Written.members? n cs = some (ms, r) →
    membersSpan ms + r.length ≤ cs.length

theorem Within.value_succ (hn : Within n) (h : value? (n + 1) cs = some (w, r)) :
    w.span + r.length ≤ cs.length := by
  refine le_trans ?_ (length_skip cs)
  rw [value?] at h
  split at h
  case h_1 heq | h_2 heq | h_3 heq =>
    cases h
    simp only [heq, List.length_cons, span]
    omega
  case h_4 r' heq =>
    obtain ⟨p, hp, hpair⟩ := Option.map_eq_some_iff.1 h
    cases hpair
    have := length_of_pieces? hp
    rw [heq, List.length_cons, span]
    omega
  case h_5 r' heq =>
    have := length_skip r'
    rw [heq, List.length_cons]
    split at h
    · rename_i hskip
      cases h
      rw [hskip, List.length_cons] at this
      simp only [span, itemsSpan]
      omega
    · obtain ⟨p, hp, hpair⟩ := Option.map_eq_some_iff.1 h
      cases hpair
      have := hn.items hp
      simp only [span]
      omega
  case h_6 r' heq =>
    have := length_skip r'
    rw [heq, List.length_cons]
    split at h
    · rename_i hskip
      cases h
      rw [hskip, List.length_cons] at this
      simp only [span, membersSpan]
      omega
    · obtain ⟨p, hp, hpair⟩ := Option.map_eq_some_iff.1 h
      cases hpair
      have := hn.members hp
      simp only [span]
      omega
  case h_7 r' heq =>
    have := length_of_numeral? h
    rw [heq, List.length_cons]
    omega
  case h_8 =>
    have := length_of_numeral? h
    omega

theorem Within.items_succ {ws : List Written} (hn : Within n)
    (h : items? (n + 1) cs = some (ws, r)) : itemsSpan ws + r.length ≤ cs.length := by
  simp only [items?, Option.bind_eq_bind, Option.bind_eq_some_iff] at h
  obtain ⟨⟨x, r₁⟩, hx, h⟩ := h
  have hspan := hn.value hx
  have hskip := length_skip r₁
  split at h
  · rename_i heq
    cases h
    rw [heq, List.length_cons] at hskip
    simp only [itemsSpan]
    omega
  · rename_i heq
    obtain ⟨⟨xs, r₂⟩, hxs, h⟩ := Option.bind_eq_some_iff.1 h
    cases h
    have := hn.items hxs
    rw [heq, List.length_cons] at hskip
    simp only [itemsSpan]
    omega
  · cases h

theorem Within.members_succ {ms : List (List Piece × Written)} (hn : Within n)
    (h : Written.members? (n + 1) cs = some (ms, r)) : membersSpan ms + r.length ≤ cs.length := by
  rw [Written.members?] at h
  have hcs := length_skip cs
  split at h
  · rename_i r₀ heq
    rw [heq, List.length_cons] at hcs
    simp only [Option.bind_eq_bind, Option.bind_eq_some_iff] at h
    obtain ⟨⟨key, r₁⟩, hkey, h⟩ := h
    have hkeySpan := length_of_pieces? hkey
    have hcolon := length_skip r₁
    split at h
    · rename_i r₂ heq
      rw [heq, List.length_cons] at hcolon
      obtain ⟨⟨x, r₃⟩, hx, h⟩ := Option.bind_eq_some_iff.1 h
      have hspan := hn.value hx
      have hskip := length_skip r₃
      split at h
      · rename_i heq
        cases h
        rw [heq, List.length_cons] at hskip
        simp only [membersSpan]
        omega
      · rename_i heq
        obtain ⟨⟨xs, r₄⟩, hxs, h⟩ := Option.bind_eq_some_iff.1 h
        cases h
        have := hn.members hxs
        rw [heq, List.length_cons] at hskip
        simp only [membersSpan]
        omega
      · cases h
    · cases h
  · cases h

theorem within (n : Nat) : Within n := by
  induction n with
  | zero => constructor <;> simp [value?, items?, Written.members?]
  | succ n ih => exact ⟨ih.value_succ, ih.items_succ, ih.members_succ⟩

theorem span_le_of_ofText? {text : String} (h : Written.ofText? text = some w) :
    w.span ≤ text.length := by
  unfold Written.ofText? at h
  split at h
  · rename_i w' r hvalue
    have := (within _).value hvalue
    split_ifs at h
    cases h
    rw [String.length_toList] at this
    omega
  · cases h

end Written

mutual

/-- The characters of the longest text in a value, one quote included. -/
def span : Json → Nat
  | .text s => s.length + 1
  | .array items => itemsSpan items
  | .object members => membersSpan members
  | _ => 0

/-- The characters of the longest text in the items. -/
def itemsSpan : List Json → Nat
  | [] => 0
  | x :: xs => max (span x) (itemsSpan xs)

/-- The characters of the longest text among the values of the members. -/
def membersSpan : List (String × Json) → Nat
  | [] => 0
  | (_, x) :: xs => max (span x) (membersSpan xs)

end

variable {n : Nat} {w : Written} {j : Json}

theorem length_of_characters? {ps : List Piece} {cs : List Char} (h : characters? ps = some cs) :
    cs.length ≤ ps.length := by
  have hmap : ∀ {ps : List Piece} {c : Char} {cs : List Char},
      (∀ {cs}, characters? ps = some cs → cs.length ≤ ps.length) →
      (characters? ps).map (c :: ·) = some cs → cs.length ≤ ps.length + 1 := by
    intro ps c cs ih h
    obtain ⟨cs', hcs', rfl⟩ := Option.map_eq_some_iff.1 h
    exact Nat.succ_le_succ (ih hcs')
  fun_induction characters? ps generalizing cs with
  | case1 => cases h; rfl
  | case2 c ps ih => exact hmap ih h
  | case3 a b ps _ _ ih => exact (hmap ih h).trans (Nat.le_succ _)
  | case4 => cases h
  | case5 => cases h
  | case6 a b ps _ _ ih => exact hmap ih h
  | case7 => cases h
  | case8 a ps _ _ ih => exact hmap ih h

theorem itemsSpan_le {ws : List Written} {xs : List Json}
    (hn : ∀ {w : Written} {j}, w.toJson? n = some j → j.span ≤ w.span)
    (h : Written.itemsToJson? n ws = some xs) : itemsSpan xs ≤ Written.itemsSpan ws := by
  induction ws generalizing xs with
  | nil => cases h; rfl
  | cons w ws ih =>
    simp only [Written.itemsToJson?, Option.bind_eq_bind, Option.bind_eq_some_iff] at h
    obtain ⟨x, hx, xs', hxs, heq⟩ := h
    cases heq
    exact max_le_max (hn hx) (ih hxs)

theorem membersSpan_le {ms : List (List Piece × Written)} {xs : List (String × Json)}
    (hn : ∀ {w : Written} {j}, w.toJson? n = some j → j.span ≤ w.span)
    (h : Written.membersToJson? n ms = some xs) : membersSpan xs ≤ Written.membersSpan ms := by
  induction ms generalizing xs with
  | nil => cases h; rfl
  | cons m ms ih =>
    obtain ⟨ps, w⟩ := m
    simp only [Written.membersToJson?, Option.bind_eq_bind, Option.bind_eq_some_iff] at h
    obtain ⟨key, -, x, hx, xs', hxs, heq⟩ := h
    cases heq
    exact max_le_max (hn hx) (ih hxs)

theorem span_le_of_toJson? (h : w.toJson? n = some j) : j.span ≤ w.span := by
  induction n using Nat.strong_induction_on generalizing w j with
  | _ n ih =>
    cases w with
    | null => cases h; rfl
    | bool b => cases h; rfl
    | number m =>
      unfold Written.toJson? Numeral.toJson? at h
      split_ifs at h
      · cases h; rfl
      · obtain ⟨d, -, rfl⟩ := Option.map_eq_some_iff.1 h
        rfl
    | string ps =>
      rw [Written.toJson?] at h
      obtain ⟨s, hs, rfl⟩ := Option.map_eq_some_iff.1 h
      obtain ⟨cs, hcs, rfl⟩ := Option.map_eq_some_iff.1 hs
      have := length_of_characters? hcs
      simp only [span, Written.span, String.length_ofList]
      omega
    | array ws =>
      cases n with
      | zero => cases h
      | succ n =>
        obtain ⟨xs, hxs, rfl⟩ := Option.map_eq_some_iff.1 h
        exact itemsSpan_le (ih n (Nat.lt_succ_self n)) hxs
    | object ms =>
      cases n with
      | zero => cases h
      | succ n =>
        obtain ⟨xs, hxs, rfl⟩ := Option.map_eq_some_iff.1 h
        exact membersSpan_le (ih n (Nat.lt_succ_self n)) hxs

/-- The texts of a written value are shorter than the text that it is read of. -/
theorem span_le_of_asWritten? {text : String} (h : asWritten? text = some j) :
    j.span ≤ text.length := by
  obtain ⟨w, hw, hj⟩ := Option.bind_eq_some_iff.1 h
  exact (span_le_of_toJson? hj).trans (Written.span_le_of_ofText? hw)

/-! ## Values of embedded texts -/

theorem span_le_itemsSpan {x : Json} {xs : List Json} (h : x ∈ xs) : x.span ≤ itemsSpan xs := by
  induction xs with
  | nil => cases h
  | cons y ys ih =>
    rcases List.mem_cons.1 h with rfl | h
    · exact le_max_left _ _
    · exact (ih h).trans (le_max_right _ _)

theorem span_le_membersSpan {m : String × Json} {ms : List (String × Json)} (h : m ∈ ms) :
    m.2.span ≤ membersSpan ms := by
  induction ms with
  | nil => cases h
  | cons m' ms ih =>
    rcases List.mem_cons.1 h with rfl | h
    · exact le_max_left _ _
    · exact (ih h).trans (le_max_right _ _)

variable {read₁? read₂? : String → Option Json}

theorem itemMeanings?_congr {xs : List Json}
    (h : ∀ x ∈ xs, meaning? read₁? x = meaning? read₂? x) :
    itemMeanings? read₁? xs = itemMeanings? read₂? xs := by
  induction xs with
  | nil => rfl
  | cons x xs ih =>
    obtain ⟨hx, hxs⟩ := List.forall_mem_cons.1 h
    rw [itemMeanings?, itemMeanings?, hx, ih hxs]

/-- What a value means depends on how the texts in it are read. -/
theorem meaning?_congr (j : Json)
    (h : ∀ s : String, s.length + 1 ≤ j.span → read₁? s = read₂? s) :
    meaning? read₁? j = meaning? read₂? j := by
  induction j using induction_on with
  | null => simp [meaning?]
  | bool b => simp [meaning?]
  | int n => simp [meaning?]
  | double d => simp [meaning?]
  | text s => simp [meaning?]
  | array items ih =>
    rw [meaning?, meaning?, itemMeanings?_congr fun x hx => ih x hx fun s hs =>
      h s (hs.trans (span_le_itemsSpan hx))]
  | object members ih =>
    have hmembers : memberMeanings? read₁? members = memberMeanings? read₂? members := by
      rw [memberMeanings?_eq, memberMeanings?_eq]
      exact Entries.mapValues?_congr fun m hm => ih m hm fun s hs =>
        h s (hs.trans (span_le_membersSpan hm))
    have hembedded : (embedded? members).bind read₁? = (embedded? members).bind read₂? := by
      refine Option.bind_congr fun s hs => h s ?_
      obtain ⟨key, rfl⟩ := embedded?_eq_some_iff.1 hs
      exact le_max_left _ _
    rw [meaning?, meaning?, hmembers, hembedded]

theorem ofTextWithin?_eq {n m : Nat} {text : String} (hn : text.length < n)
    (hm : text.length < m) : ofTextWithin? n text = ofTextWithin? m text := by
  induction n generalizing m text with
  | zero => omega
  | succ n ih =>
    obtain ⟨m, rfl⟩ := Nat.exists_eq_succ_of_ne_zero (Nat.ne_of_gt (Nat.zero_lt_of_lt hm))
    rw [ofTextWithin?, ofTextWithin?]
    refine Option.bind_congr fun j hj => meaning?_congr j fun s hs => ?_
    have := span_le_of_asWritten? hj
    exact ih (by omega) (by omega)

/-- **The value of a text**, by the values of the texts embedded in it. -/
theorem ofText?_eq (text : String) : ofText? text = (asWritten? text).bind (meaning? ofText?) := by
  rw [ofText?, ofTextWithin?]
  refine Option.bind_congr fun j hj => meaning?_congr j fun s hs => ?_
  have := span_le_of_asWritten? hj
  exact ofTextWithin?_eq (by omega) (by omega)

end EntityQuery.Json
