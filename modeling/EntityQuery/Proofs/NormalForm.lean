import Mathlib.Tactic
import EntityQuery.Proofs.Words
import EntityQuery.Text.Normal

/-!
# Texts without marks

What is left of a decomposed text without its marks is bare: its characters cannot be taken apart
further, and stand in canonical order as they are. Composition joins neighbours in it, few of which
have a composition once marks are gone, and what it joins comes apart again. So a bare text is put
together and taken apart without a change.

* `codeSet`: code points as the bits of a number, to compare whole tables at once;
* `isMark_of_combiningClass`, `decomposition_of_mem`: only marks have a class, and decomposition is
  complete after one pass;
* `Joins`, `joins_of_composition?`: the compositions with a character that is no mark;
* **`nfd_compose`**: a composed text that is bare decomposes to itself;
* `trim_compose`: blanks are neither joined nor made by joining.
-/

namespace EntityQuery.Text.Normal

/-! ## Sets of code points -/

/-- The code points in ranges, each a bit of a number. -/
def codeSet (ranges : List (ℕ × ℕ)) : ℕ :=
  ranges.foldl (fun s r => s ||| (2 ^ (r.2 + 1 - r.1) - 1) <<< r.1) 0

theorem testBit_range (first last n : ℕ) :
    ((2 ^ (last + 1 - first) - 1) <<< first).testBit n = decide (first ≤ n ∧ n ≤ last) := by
  rw [Nat.testBit_shiftLeft, Nat.testBit_two_pow_sub_one, ← Bool.decide_and]
  refine decide_eq_decide.2 ?_
  omega

theorem testBit_codeSet {ranges : List (ℕ × ℕ)} {n : ℕ} :
    (codeSet ranges).testBit n = true ↔ ∃ r ∈ ranges, r.1 ≤ n ∧ n ≤ r.2 := by
  have go : ∀ s : ℕ, (ranges.foldl (fun s r => s ||| (2 ^ (r.2 + 1 - r.1) - 1) <<< r.1) s).testBit n
      = true ↔ s.testBit n = true ∨ ∃ r ∈ ranges, r.1 ≤ n ∧ n ≤ r.2 := by
    induction ranges with
    | nil => simp
    | cons r ranges ih =>
      intro s
      rw [List.foldl_cons, ih, Nat.testBit_or, testBit_range]
      simp [or_assoc]
  rw [codeSet, go]
  simp

/-- A set of code points lies in another one if it is what both have in common. -/
theorem testBit_of_land_eq {s t n : ℕ} (h : s &&& t = s) (hn : s.testBit n = true) :
    t.testBit n = true := by
  rw [← h, Nat.testBit_and, Bool.and_eq_true] at hn
  exact hn.2

/-- Sets of code points with nothing in common hold no code point both. -/
theorem testBit_of_land_eq_zero {s t n : ℕ} (h : s &&& t = 0) (hn : s.testBit n = true) :
    t.testBit n = false := by
  have hnone : (s &&& t).testBit n = false := by rw [h, Nat.zero_testBit]
  rw [Nat.testBit_and, hn, Bool.true_and] at hnone
  exact hnone

/-! ## Marks -/

variable {a b c s : Char} {cs : List Char}

/-- The code points of marks. -/
def marks : ℕ := codeSet markRanges

theorem isMark_of_testBit (hn : 0x300 ≤ c.toNat) (h : marks.testBit c.toNat = true) :
    isMark c = true := by
  obtain ⟨r, hr, hrange⟩ := testBit_codeSet.1 h
  simp only [isMark, Bool.and_eq_true, decide_eq_true_eq, List.any_eq_true]
  exact ⟨hn, r, hr, hrange⟩

theorem combining_land_marks : codeSet (combiningRanges.map fun r => (r.1, r.2.1)) &&& marks =
    codeSet (combiningRanges.map fun r => (r.1, r.2.1)) := by
  decide +kernel

/-- Only marks have a class other than 0. -/
theorem isMark_of_combiningClass (h : combiningClass c ≠ 0) : isMark c = true := by
  simp only [combiningClass] at h
  split_ifs at h with hn
  · exact absurd rfl h
  · cases hfind : combiningRanges.find? fun r => r.1 ≤ c.toNat && c.toNat ≤ r.2.1 with
    | none =>
      rw [hfind] at h
      exact absurd rfl h
    | some r =>
      have hrange := List.find?_some hfind
      simp only [Bool.and_eq_true, decide_eq_true_eq] at hrange
      refine isMark_of_testBit (not_lt.1 hn) ?_
      refine testBit_of_land_eq combining_land_marks (testBit_codeSet.2 ?_)
      exact ⟨_, List.mem_map_of_mem (List.mem_of_find?_eq_some hfind), hrange⟩

theorem combiningClass_of_not_isMark (h : isMark c = false) : combiningClass c = 0 := by
  by_contra hc
  rw [isMark_of_combiningClass hc] at h
  exact Bool.noConfusion h

/-! ## Decomposition -/

/-- The code points of characters that come apart. -/
def divisible : ℕ := codeSet ((0xAC00, 0xD7A3) :: decompositions.map fun d => (d.1, d.1))

theorem decomposition_of_not_divisible (h : divisible.testBit c.toNat = false) :
    decomposition c = [c] := by
  have hnot : ∀ r ∈ (0xAC00, 0xD7A3) :: decompositions.map fun d => (d.1, d.1),
      ¬ (r.1 ≤ c.toNat ∧ c.toNat ≤ r.2) := by
    intro r hr hrange
    rw [divisible, testBit_codeSet.2 ⟨r, hr, hrange⟩] at h
    exact Bool.noConfusion h
  simp only [decomposition]
  split_ifs with hn hangul
  · rfl
  · exact absurd hangul (hnot _ List.mem_cons_self)
  · cases hlookup : decompositions.lookup c.toNat with
    | none => rfl
    | some ns =>
      obtain ⟨before, after, heq, -⟩ := List.lookup_eq_some_iff.1 hlookup
      refine absurd ⟨le_refl c.toNat, le_refl c.toNat⟩ (hnot (c.toNat, c.toNat) ?_)
      refine List.mem_cons_of_mem _ (List.mem_map.2 ⟨(c.toNat, ns), ?_, rfl⟩)
      rw [heq]
      exact List.mem_append_right _ List.mem_cons_self

/-- A number that is no code point stands for the character 0. -/
theorem toNat_ofNat (n : ℕ) : (Char.ofNat n).toNat = if n.isValidChar then n else 0 := by
  by_cases hn : n.isValidChar
  · rw [Char.ofNat, dif_pos hn, if_pos hn]
    rfl
  · rw [Char.ofNat, dif_neg hn, if_neg hn]
    rfl

/-- The character of a code point that does not come apart. -/
theorem decomposition_ofNat {n : ℕ} (h : divisible.testBit n = false) :
    decomposition (Char.ofNat n) = [Char.ofNat n] := by
  by_cases hn : n.isValidChar
  · refine decomposition_of_not_divisible ?_
    rwa [toNat_ofNat, if_pos hn]
  · have hzero : (Char.ofNat n).toNat = 0 := by rw [toNat_ofNat, if_neg hn]
    simp [decomposition, hzero]

theorem divisible_of_mem_decompositions : (decompositions.all fun d =>
    d.2.all fun n => divisible.testBit n == false) = true := by
  decide +kernel

theorem jamo_land_divisible : codeSet [(0x1100, 0x11C2)] &&& divisible = 0 := by
  decide +kernel

/-- The consonants and vowels of Hangul do not come apart. -/
theorem decomposition_jamo {n : ℕ} (h : 0x1100 ≤ n) (h' : n ≤ 0x11C2) :
    decomposition (Char.ofNat n) = [Char.ofNat n] := by
  refine decomposition_ofNat (testBit_of_land_eq_zero jamo_land_divisible ?_)
  exact testBit_codeSet.2 ⟨_, List.mem_singleton_self _, h, h'⟩

theorem exists_of_mem_hangulDecomposition {n : ℕ} (hn : n ≤ 0xD7A3)
    (h : c ∈ hangulDecomposition n) : ∃ k, 0x1100 ≤ k ∧ k ≤ 0x11C2 ∧ c = Char.ofNat k := by
  simp only [hangulDecomposition] at h
  split_ifs at h
  · rcases List.mem_pair.1 h with hc | hc
    · exact ⟨_, by omega, by omega, hc⟩
    · exact ⟨_, by omega, by omega, hc⟩
  · simp only [List.mem_cons, List.not_mem_nil, or_false] at h
    rcases h with hc | hc | hc
    · exact ⟨_, by omega, by omega, hc⟩
    · exact ⟨_, by omega, by omega, hc⟩
    · exact ⟨_, by omega, by omega, hc⟩

/-- What a character comes apart into does not come apart further. -/
theorem decomposition_of_mem (h : b ∈ decomposition a) : decomposition b = [b] := by
  by_cases hself : decomposition a = [a]
  · rw [hself, List.mem_singleton] at h
    rw [h, hself]
  · simp only [decomposition] at h hself
    split_ifs at h hself with hn hangul
    · exact absurd rfl hself
    · obtain ⟨n, hn, hn', rfl⟩ := exists_of_mem_hangulDecomposition hangul.2 h
      exact decomposition_jamo hn hn'
    · cases hlookup : decompositions.lookup a.toNat with
      | none =>
        rw [hlookup] at hself
        exact absurd rfl hself
      | some ns =>
        rw [hlookup] at h
        obtain ⟨n, hn, rfl⟩ := List.mem_map.1 h
        obtain ⟨before, after, heq, -⟩ := List.lookup_eq_some_iff.1 hlookup
        have hmem : (a.toNat, ns) ∈ decompositions := by simp [heq]
        have hall := List.all_eq_true.1 divisible_of_mem_decompositions (a.toNat, ns) hmem
        exact decomposition_ofNat (beq_iff_eq.1 (List.all_eq_true.1 hall n hn))

theorem perm_place (c : Char) (cs : List Char) : (place c cs).Perm (c :: cs) := by
  induction cs with
  | nil => exact .refl _
  | cons d ds ih =>
    rw [place]
    split_ifs
    · exact (ih.cons d).trans (.swap c d ds)
    · exact .refl _

theorem perm_canonicalOrder (cs : List Char) : (canonicalOrder cs).Perm cs := by
  induction cs with
  | nil => exact .refl _
  | cons c cs ih => exact (perm_place c _).trans (ih.cons c)

/-- A text in which nothing has a class is in order. -/
theorem canonicalOrder_eq_self (h : ∀ c ∈ cs, combiningClass c = 0) : canonicalOrder cs = cs := by
  induction cs with
  | nil => rfl
  | cons c cs ih =>
    have hcs := ih fun d hd => h d (List.mem_cons_of_mem _ hd)
    rw [canonicalOrder] at hcs
    rw [canonicalOrder, List.foldr_cons, hcs]
    cases cs with
    | nil => rfl
    | cons d ds => simp [place, h d (by simp)]

/-! ## Bare texts -/

/-- A character that is no mark and does not come apart. -/
structure Bare (c : Char) : Prop where
  not_isMark : isMark c = false
  decomposition_eq : decomposition c = [c]

theorem Bare.combiningClass_eq (h : Bare c) : combiningClass c = 0 :=
  combiningClass_of_not_isMark h.not_isMark

/-- What is left of a decomposed text without its marks is bare. -/
theorem bare_of_mem_filter_nfd (h : c ∈ (nfd cs).filter (!isMark ·)) : Bare c := by
  obtain ⟨hmem, hmark⟩ := List.mem_filter.1 h
  obtain ⟨d, -, hd⟩ := List.mem_flatMap.1 ((perm_canonicalOrder _).mem_iff.1 hmem)
  exact ⟨by simpa using hmark, decomposition_of_mem hd⟩

theorem flatMap_decomposition_of_bare (h : ∀ c ∈ cs, Bare c) : cs.flatMap decomposition = cs := by
  calc cs.flatMap decomposition
      = cs.flatMap fun c => [c] := List.flatMap_congr fun c hc => (h c hc).decomposition_eq
    _ = cs := List.flatMap_singleton' cs

theorem filter_of_bare (h : ∀ c ∈ cs, Bare c) : cs.filter (!isMark ·) = cs :=
  List.filter_eq_self.2 fun c hc => by rw [(h c hc).not_isMark]; rfl

/-- A bare text is in decomposed form. -/
theorem nfd_of_bare (h : ∀ c ∈ cs, Bare c) : nfd cs = cs := by
  rw [nfd, flatMap_decomposition_of_bare h]
  exact canonicalOrder_eq_self fun c hc => (h c hc).combiningClass_eq

/-! ## Composition -/

/-- The compositions with a code point that is no mark: two letters of Hangul, a syllable of two
with a third, and the listed ones, which are of the letters of one script. -/
inductive Joins : ℕ → ℕ → ℕ → Prop
  | two (l v : ℕ) : l < 19 → v < 21 → Joins (0x1100 + l) (0x1161 + v) (0xAC00 + (l * 21 + v) * 28)
  | three (i t : ℕ) : i < 399 → 0 < t → t < 28 →
      Joins (0xAC00 + i * 28) (0x11A7 + t) (0xAC00 + i * 28 + t)
  | listed {a b s : ℕ} : (a, b, s) ∈ [(0x16D63, 0x16D67, 0x16D69), (0x16D67, 0x16D67, 0x16D68),
      (0x16D69, 0x16D67, 0x16D6A)] → Joins a b s

theorem joins_of_hangulComposition? {m n k : ℕ} (h : hangulComposition? m n = some k) :
    Joins m n k := by
  rw [hangulComposition?] at h
  split_ifs at h with htwo hthree
  · obtain ⟨l, rfl⟩ := Nat.exists_eq_add_of_le htwo.1
    obtain ⟨v, rfl⟩ := Nat.exists_eq_add_of_le htwo.2.2.1
    rw [Nat.add_sub_cancel_left, Nat.add_sub_cancel_left] at h
    rw [← Option.some.inj h]
    exact .two l v (by omega) (by omega)
  · obtain ⟨i, rfl⟩ : ∃ i, m = 0xAC00 + i * 28 := ⟨(m - 0xAC00) / 28, by omega⟩
    obtain ⟨t, rfl⟩ : ∃ t, n = 0x11A7 + t := ⟨n - 0x11A7, by omega⟩
    rw [Nat.add_sub_cancel_left] at h
    rw [← Option.some.inj h]
    exact .three i t (by omega) (by omega) (by omega)

theorem filter_compositions : compositions.filter (fun r => marks.testBit r.2.1 == false) =
    [(0x16D63, 0x16D67, 0x16D69), (0x16D67, 0x16D67, 0x16D68), (0x16D69, 0x16D67, 0x16D6A)] := by
  decide +kernel

theorem joins_of_composition? (hb : isMark b = false) (h : composition? a b = some s) :
    ∃ k, Joins a.toNat b.toNat k ∧ s = Char.ofNat k := by
  rw [composition?] at h
  split_ifs at h with hn
  cases hangul : hangulComposition? a.toNat b.toNat with
  | some k =>
    rw [hangul] at h
    exact ⟨k, joins_of_hangulComposition? hangul, (Option.some.inj h).symm⟩
  | none =>
    rw [hangul] at h
    obtain ⟨r, hr, rfl⟩ := Option.map_eq_some_iff.1 h
    have hfound := List.find?_some hr
    simp only [Bool.and_eq_true, beq_iff_eq] at hfound
    have hmark : marks.testBit b.toNat = false := by
      rw [← Bool.not_eq_true]
      intro hmark
      rw [isMark_of_testBit (not_lt.1 hn) hmark] at hb
      exact Bool.noConfusion hb
    have hmem : r ∈ compositions.filter fun r => marks.testBit r.2.1 == false := by
      refine List.mem_filter.2 ⟨List.mem_of_find?_eq_some hr, ?_⟩
      rw [hfound.2, hmark]
      rfl
    rw [filter_compositions] at hmem
    rw [← hfound.1, ← hfound.2]
    exact ⟨r.2.2, .listed hmem, rfl⟩

theorem decomposition_syllable {n : ℕ} (h : 0xAC00 ≤ n) (h' : n ≤ 0xD7A3) :
    decomposition (Char.ofNat n) = hangulDecomposition n := by
  have hvalid : n.isValidChar := by
    simp only [Nat.isValidChar]
    omega
  have hn : (Char.ofNat n).toNat = n := by rw [toNat_ofNat, if_pos hvalid]
  simp only [decomposition, hn]
  rw [if_neg (by omega), if_pos ⟨h, h'⟩]

/-- What is joined comes apart into what it is joined of. -/
theorem Joins.decomposition_eq {m n k : ℕ} (h : Joins m n k) : decomposition (Char.ofNat k) =
    decomposition (Char.ofNat m) ++ decomposition (Char.ofNat n) := by
  cases h with
  | two l v hl hv =>
    have hoffset : 0xAC00 + (l * 21 + v) * 28 - 0xAC00 = (l * 21 + v) * 28 :=
      Nat.add_sub_cancel_left _ _
    have hlead : (l * 21 + v) * 28 / 588 = l := by omega
    have hvowel : (l * 21 + v) * 28 % 588 / 28 = v := by omega
    have hopen : (l * 21 + v) * 28 % 28 = 0 := by omega
    rw [decomposition_syllable (by omega) (by omega), hangulDecomposition, hoffset, hlead, hvowel,
      if_pos hopen, decomposition_jamo (by omega) (by omega),
      decomposition_jamo (by omega) (by omega)]
    rfl
  | three i t hi ht ht' =>
    have hoffset : 0xAC00 + i * 28 + t - 0xAC00 = i * 28 + t := by omega
    have hoffset' : 0xAC00 + i * 28 - 0xAC00 = i * 28 := Nat.add_sub_cancel_left _ _
    have hlead : (i * 28 + t) / 588 = i * 28 / 588 := by omega
    have hvowel : (i * 28 + t) % 588 / 28 = i * 28 % 588 / 28 := by omega
    have htrail : (i * 28 + t) % 28 = t := by omega
    have hopen : i * 28 % 28 = 0 := by omega
    rw [decomposition_syllable (by omega) (by omega), hangulDecomposition, hoffset, hlead, hvowel,
      htrail, if_neg (Nat.pos_iff_ne_zero.1 ht), decomposition_syllable (by omega) (by omega),
      hangulDecomposition, hoffset', if_pos hopen, decomposition_jamo (by omega) (by omega)]
    rfl
  | listed hmem =>
    simp only [List.mem_cons, Prod.mk.injEq, List.not_mem_nil, or_false] at hmem
    rcases hmem with ⟨rfl, rfl, rfl⟩ | ⟨rfl, rfl, rfl⟩ | ⟨rfl, rfl, rfl⟩ <;> decide +kernel

theorem decomposition_of_composition? (hb : isMark b = false) (h : composition? a b = some s) :
    decomposition s = decomposition a ++ decomposition b := by
  obtain ⟨k, hk, rfl⟩ := joins_of_composition? hb h
  rw [hk.decomposition_eq, Char.ofNat_toNat, Char.ofNat_toNat]

/-- A starter meets a character that is no mark whatever comes after. -/
theorem composeFrom_cons (hc : isMark c = false) :
    composeFrom s [] 0 (c :: cs) = match composition? s c with
      | some j => composeFrom j [] 0 cs
      | none => s :: composeFrom c [] 0 cs := by
  cases hj : composition? s c <;>
    simp [composeFrom, hj, combiningClass_of_not_isMark hc]

theorem compose_cons (hc : isMark c = false) : compose (c :: cs) = composeFrom c [] 0 cs := by
  rw [compose, if_pos (combiningClass_of_not_isMark hc)]

theorem flatMap_decomposition_composeFrom (h : ∀ c ∈ cs, isMark c = false) :
    (composeFrom s [] 0 cs).flatMap decomposition =
      decomposition s ++ cs.flatMap decomposition := by
  induction cs generalizing s with
  | nil => simp [composeFrom]
  | cons c cs ih =>
    have hc := h c List.mem_cons_self
    have hcs := fun d hd => h d (List.mem_cons_of_mem _ hd)
    rw [composeFrom_cons hc, List.flatMap_cons]
    cases hj : composition? s c with
    | none => rw [List.flatMap_cons, ih hcs]
    | some j => rw [ih hcs, decomposition_of_composition? hc hj, List.append_assoc]

/-- **A bare text comes out of its composition as it was.** -/
theorem nfd_compose (h : ∀ c ∈ cs, Bare c) : nfd (compose cs) = cs := by
  have hparts : (compose cs).flatMap decomposition = cs := by
    cases cs with
    | nil => rfl
    | cons c cs =>
      rw [compose_cons (h c List.mem_cons_self).not_isMark, flatMap_decomposition_composeFrom
        fun d hd => (h d (List.mem_cons_of_mem _ hd)).not_isMark, ← List.flatMap_cons]
      exact flatMap_decomposition_of_bare h
  rw [nfd, hparts]
  exact canonicalOrder_eq_self fun c hc => (h c hc).combiningClass_eq

theorem withoutMarks_eq (cs : List Char) :
    withoutMarks cs = compose ((nfd cs).filter (!isMark ·)) := by
  rw [withoutMarks, nfc, nfd_of_bare fun c hc => bare_of_mem_filter_nfd hc]

/-- A composed text that is bare stays as it is when its marks are taken away. -/
theorem withoutMarks_compose (h : ∀ c ∈ cs, Bare c) : withoutMarks (compose cs) = compose cs := by
  rw [withoutMarks_eq, nfd_compose h, filter_of_bare h]

/-! ## Blanks -/

theorem not_isBlank_ofNat {n : ℕ} (h : (0x1100 ≤ n ∧ n ≤ 0x11C2) ∨ 0x3000 < n) :
    isBlank (Char.ofNat n) = false := by
  have hn : (Char.ofNat n).toNat = n ∨ (Char.ofNat n).toNat = 0 := by
    rw [toNat_ofNat]
    split_ifs
    · exact .inl rfl
    · exact .inr rfl
  simp only [isBlank, Bool.or_eq_false_iff, Bool.and_eq_false_iff, decide_eq_false_iff_not,
    beq_eq_false_iff_ne]
  omega

/-- What is joined is not blank, nor is what it is joined of. -/
theorem not_isBlank_of_composition? (hb : isMark b = false) (h : composition? a b = some s) :
    isBlank a = false ∧ isBlank b = false ∧ isBlank s = false := by
  obtain ⟨k, hk, rfl⟩ := joins_of_composition? hb h
  rw [← Char.ofNat_toNat a, ← Char.ofNat_toNat b]
  generalize a.toNat = m at hk
  generalize b.toNat = n at hk
  cases hk with
  | two | three =>
    exact ⟨not_isBlank_ofNat (by omega), not_isBlank_ofNat (by omega), not_isBlank_ofNat (by omega)⟩
  | listed hmem =>
    simp only [List.mem_cons, Prod.mk.injEq, List.not_mem_nil, or_false] at hmem
    exact ⟨not_isBlank_ofNat (by omega), not_isBlank_ofNat (by omega), not_isBlank_ofNat (by omega)⟩

/-- A blank in front is not joined with what comes after. -/
theorem compose_cons_blank (hb : isBlank b = true) (h : ∀ c ∈ b :: cs, isMark c = false) :
    compose (b :: cs) = b :: compose cs := by
  rw [compose_cons (h b List.mem_cons_self)]
  cases cs with
  | nil => rfl
  | cons c cs =>
    have hc : isMark c = false := h c (List.mem_cons_of_mem _ List.mem_cons_self)
    rw [composeFrom_cons hc, compose_cons hc]
    cases hj : composition? b c with
    | none => rfl
    | some j =>
      rw [(not_isBlank_of_composition? hc hj).1] at hb
      exact Bool.noConfusion hb

/-- The first character of a text is not blank after composition if it was not before. -/
theorem exists_composeFrom_cons (hs : isBlank s = false) (h : ∀ c ∈ cs, isMark c = false) :
    ∃ x rest, composeFrom s [] 0 cs = x :: rest ∧ isBlank x = false := by
  induction cs generalizing s with
  | nil => exact ⟨s, [], rfl, hs⟩
  | cons c cs ih =>
    have hc := h c List.mem_cons_self
    rw [composeFrom_cons hc]
    cases hj : composition? s c with
    | none => exact ⟨s, _, rfl, hs⟩
    | some j =>
      exact ih (not_isBlank_of_composition? hc hj).2.2 fun d hd => h d (List.mem_cons_of_mem _ hd)

theorem dropWhile_compose (h : ∀ c ∈ cs, isMark c = false) :
    (compose cs).dropWhile isBlank = compose (cs.dropWhile isBlank) := by
  induction cs with
  | nil => rfl
  | cons c cs ih =>
    have hcs := fun d hd => h d (List.mem_cons_of_mem _ hd)
    cases hb : isBlank c with
    | true =>
      rw [compose_cons_blank hb h, List.dropWhile_cons_of_pos hb, List.dropWhile_cons_of_pos hb,
        ih hcs]
    | false =>
      have hneg : ∀ {x}, isBlank x = false → ¬ isBlank x = true := fun hx => by simp [hx]
      rw [List.dropWhile_cons_of_neg (hneg hb), compose_cons (h c List.mem_cons_self)]
      obtain ⟨x, rest, heq, hx⟩ := exists_composeFrom_cons hb hcs
      rw [heq, List.dropWhile_cons_of_neg (hneg hx)]

/-- The last character of a text is joined with what is before it or stays, and is not blank after
composition if and only if it was not before. -/
theorem exists_composeFrom_concat (hc : isMark c = false) (h : ∀ d ∈ cs, isMark d = false) :
    ∃ init x, composeFrom s [] 0 (cs ++ [c]) = init ++ [x] ∧
      (isBlank c = false → isBlank x = false) ∧
      (isBlank c = true → init = composeFrom s [] 0 cs ∧ x = c) := by
  induction cs generalizing s with
  | nil =>
    rw [List.nil_append, composeFrom_cons hc]
    cases hj : composition? s c with
    | none => exact ⟨[s], c, rfl, id, fun _ => ⟨rfl, rfl⟩⟩
    | some j =>
      obtain ⟨-, hblank, hblank'⟩ := not_isBlank_of_composition? hc hj
      refine ⟨[], j, rfl, fun _ => hblank', fun hb => ?_⟩
      rw [hblank] at hb
      exact Bool.noConfusion hb
  | cons d ds ih =>
    have hd := h d List.mem_cons_self
    have hds := fun e he => h e (List.mem_cons_of_mem _ he)
    rw [List.cons_append, composeFrom_cons hd, composeFrom_cons hd]
    cases composition? s d with
    | some j => exact ih hds
    | none =>
      obtain ⟨init, x, heq, hx, hinit⟩ := ih (s := d) hds
      refine ⟨s :: init, x, by rw [heq]; rfl, hx, fun hb => ?_⟩
      rw [(hinit hb).1]
      exact ⟨rfl, (hinit hb).2⟩

theorem trimRight_compose (h : ∀ c ∈ cs, isMark c = false) :
    trimRight (compose cs) = compose (trimRight cs) := by
  induction cs using List.reverseRecOn with
  | nil => rfl
  | append_singleton cs c ih =>
    have hc := h c (by simp)
    have hcs := fun d hd => h d (List.mem_append_left _ hd)
    obtain ⟨init, x, heq, hx, hinit⟩ : ∃ init x, compose (cs ++ [c]) = init ++ [x] ∧
        (isBlank c = false → isBlank x = false) ∧
        (isBlank c = true → init = compose cs ∧ x = c) := by
      cases cs with
      | nil => exact ⟨[], c, compose_cons hc, id, fun _ => ⟨rfl, rfl⟩⟩
      | cons d ds =>
        rw [List.cons_append, compose_cons (h d (by simp)), compose_cons (h d (by simp))]
        exact exists_composeFrom_concat hc fun e he => hcs e (List.mem_cons_of_mem _ he)
    simp only [trimRight_eq_rdropWhile] at ih ⊢
    rw [heq, List.rdropWhile_concat, List.rdropWhile_concat]
    cases hb : isBlank c with
    | true =>
      obtain ⟨rfl, rfl⟩ := hinit hb
      rw [hb, if_pos rfl, if_pos rfl, ih hcs]
    | false =>
      rw [hx hb, if_neg Bool.false_ne_true, if_neg Bool.false_ne_true, heq]

/-- **Blanks are neither joined nor made by joining.** -/
theorem trim_compose (h : ∀ c ∈ cs, isMark c = false) : trim (compose cs) = compose (trim cs) := by
  rw [trim, dropWhile_compose h, trim]
  exact trimRight_compose fun c hc => h c ((List.dropWhile_sublist isBlank).subset hc)

end EntityQuery.Text.Normal
