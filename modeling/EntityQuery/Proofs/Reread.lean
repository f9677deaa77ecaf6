import Mathlib.Tactic
import EntityQuery.Proofs.Nested
import EntityQuery.Proofs.ReadDoubles

/-!
# Values read back from their text

What is read of the compact text of a value is the value itself but for three things: a double is
what its digits mean, an object under the embedding key is the value of the text in it, and nothing
is read of a text that nests more containers than the reader takes.

* `Json.reread?`: what is read of the text of a value;
* **`Json.ofText?_compact_eq_reread?`**: that it is;
* `Json.Readable`, `Json.isSome_reread?_iff`: the values of whose text something is read.
-/

namespace EntityQuery.Json

mutual

/-- What is read of the text of a value where so many containers may nest. -/
def reread? : Nat → Json → Option Json
  | _, .double d => d.numeral.double?.map .double
  | 0, .array _ => none
  | n + 1, .array items => (rereadItems? n items).map .array
  | 0, .object _ => none
  | n + 1, .object members =>
    if isEmbedding members then (embedded? members).bind ofText?
    else (rereadMembers? n members).map .object
  | _, j => some j

/-- What is read of the texts of items. -/
def rereadItems? : Nat → List Json → Option (List Json)
  | _, [] => some []
  | n, x :: xs => do
    let y ← reread? n x
    let ys ← rereadItems? n xs
    return y :: ys

/-- What is read of the texts of members. -/
def rereadMembers? : Nat → List (String × Json) → Option (List (String × Json))
  | _, [] => some []
  | n, (key, x) :: xs => do
    let y ← reread? n x
    let ys ← rereadMembers? n xs
    return (key, y) :: ys

end

variable {n : Nat} {items : List Json} {members ms : List (String × Json)}

/-- The value that is read of a printed value at some depth. -/
def readWritten? (n : Nat) (j : Json) : Option Json :=
  (j.written.toJson? n).bind (meaning? ofText?)

theorem readItems?_eq (h : ∀ x ∈ items, readWritten? n x = reread? n x) :
    (Written.itemsToJson? n (writtenItems items)).bind (itemMeanings? ofText?) =
      rereadItems? n items := by
  induction items with
  | nil => rfl
  | cons x xs ih =>
    obtain ⟨hx, hxs⟩ := List.forall_mem_cons.1 h
    rw [rereadItems?, ← hx, ← ih hxs, readWritten?, writtenItems, Written.itemsToJson?]
    cases x.written.toJson? n with
    | none => rfl
    | some y =>
      cases Written.itemsToJson? n (writtenItems xs) with
      | none => cases hy : meaning? ofText? y <;> simp [hy]
      | some ys => simp [itemMeanings?]

theorem rereadMembers?_eq (n : Nat) (members : List (String × Json)) :
    rereadMembers? n members = Entries.mapValues? (reread? n) members := by
  induction members with
  | nil => rfl
  | cons m members ih =>
    obtain ⟨key, x⟩ := m
    rw [rereadMembers?, Entries.mapValues?, ih]

theorem membersToJson?_written (n : Nat) (members : List (String × Json)) :
    Written.membersToJson? n (writtenMembers members) =
      Entries.mapValues? (fun x => x.written.toJson? n) members := by
  induction members with
  | nil => rfl
  | cons m members ih =>
    obtain ⟨key, x⟩ := m
    rw [writtenMembers, Written.membersToJson?, Entries.mapValues?, ih, string?_pieces]
    rfl

theorem readMembers?_eq (h : ∀ m ∈ members, readWritten? n m.2 = reread? n m.2) :
    (Written.membersToJson? n (writtenMembers members)).bind (memberMeanings? ofText?) =
      rereadMembers? n members := by
  rw [membersToJson?_written, rereadMembers?_eq, ← Entries.mapValues?_congr h,
    funext (memberMeanings?_eq ofText?), Entries.bind_mapValues?]
  rfl

theorem map_fst_membersToJson? (h : Written.membersToJson? n (writtenMembers members) = some ms) :
    ms.map (·.1) = members.map (·.1) :=
  Entries.map_fst_mapValues? ((membersToJson?_written n members).symm.trans h)

theorem eq_text_of_toJson? {j : Json} {s : String} (h : j.written.toJson? n = some (.text s)) :
    j = .text s := by
  cases j with
  | text s' =>
    rw [written, Written.toJson?, string?_pieces, Option.map_some, Option.some.injEq] at h
    exact h
  | null => cases h
  | bool b => cases h
  | int i =>
    rw [written, Written.toJson?, Numeral.toJson?] at h
    split_ifs at h
    · cases h
    · obtain ⟨d, -, h⟩ := Option.map_eq_some_iff.1 h
      cases h
  | double d =>
    rw [written, Written.toJson?, Double.toJson?_numeral] at h
    obtain ⟨d, -, h⟩ := Option.map_eq_some_iff.1 h
    cases h
  | array items =>
    cases n with
    | zero => cases h
    | succ n =>
      obtain ⟨xs, -, h⟩ := Option.map_eq_some_iff.1 h
      cases h
  | object members =>
    cases n with
    | zero => cases h
    | succ n =>
      obtain ⟨xs, -, h⟩ := Option.map_eq_some_iff.1 h
      cases h

/-- A text is embedded in what is written exactly if it is embedded in the members. -/
theorem embedded?_written :
    (Written.membersToJson? n (writtenMembers members)).bind embedded? = embedded? members := by
  apply Option.ext
  intro s
  rw [Option.bind_eq_some_iff, embedded?_eq_some_iff]
  constructor
  · rintro ⟨ms, hms, hs⟩
    obtain ⟨key, rfl⟩ := embedded?_eq_some_iff.1 hs
    have hkeys := map_fst_membersToJson? hms
    match members, hkeys with
    | [(key', x)], _ =>
      simp only [writtenMembers, Written.membersToJson?, string?_pieces, Option.bind_eq_bind,
        Option.bind_some, Option.bind_eq_some_iff] at hms
      obtain ⟨y, hy, hlist⟩ := hms
      cases hlist
      exact ⟨key, by rw [eq_text_of_toJson? hy]⟩
  · rintro ⟨key, rfl⟩
    refine ⟨[(key, .text s)], ?_, rfl⟩
    simp [writtenMembers, Written.membersToJson?, string?_pieces, written, Written.toJson?]

theorem readWritten?_eq_reread? {j : Json} (h : j.IsValue) (n : Nat) :
    readWritten? n j = reread? n j := by
  induction h generalizing n with
  | null => cases n <;> rfl
  | bool b => cases n <;> rfl
  | @int i hi =>
    rw [readWritten?, written, Written.toJson?, toJson?_ofInt hi]
    cases n <;> rfl
  | double d =>
    rw [readWritten?, written, Written.toJson?, Double.toJson?_numeral, reread?]
    cases d.numeral.double? <;> rfl
  | text s =>
    rw [readWritten?, written, Written.toJson?, string?_pieces]
    cases n <;> rfl
  | @array items _ ih =>
    cases n with
    | zero => rfl
    | succ n =>
      rw [reread?, ← readItems?_eq fun x hx => ih x hx n, readWritten?, written, Written.toJson?]
      cases Written.itemsToJson? n (writtenItems items) with
      | none => rfl
      | some xs => simp [meaning?]
  | @object members hkeys _ ih =>
    cases n with
    | zero => rfl
    | succ n =>
      rw [reread?, ← readMembers?_eq fun m hm => ih m hm n, ← embedded?_written (n := n),
        readWritten?, written, Written.toJson?]
      cases hms : Written.membersToJson? n (writtenMembers members) with
      | none => simp
      | some ms =>
        have hsame := isEmbedding_eq_of_keys (map_fst_membersToJson? hms)
        rw [Option.map_some, Option.bind_some, Option.bind_some, Option.bind_some, meaning?, hsame]
        split_ifs
        · rfl
        · -- the keys are in order, so that nothing moves or goes
          have hlist : ∀ xs, memberMeanings? ofText? ms = some xs → Entries.ofList xs = xs := by
            intro xs hxs
            refine Entries.ofList_eq_self ?_
            rw [Entries.increasing_iff, map_fst_memberMeanings? hxs, map_fst_membersToJson? hms,
              ← Entries.increasing_iff]
            exact hkeys
          cases hxs : memberMeanings? ofText? ms with
          | none => rfl
          | some xs => rw [Option.map_some, Option.map_some, hlist xs hxs]

/-- **What is read of the text of a value.** -/
theorem ofText?_compact_eq_reread? {j : Json} (h : j.IsValue) :
    ofText? j.compact = reread? nestingBound j := by
  rw [ofText?_eq, asWritten?, ofText?_compact]
  exact readWritten?_eq_reread? h nestingBound

/-! ## Values that are read -/

/-- The value nests at most so many containers, and a text that it embeds can be read. -/
inductive Readable : Nat → Json → Prop
  | null {n : Nat} : Readable n .null
  | bool {n : Nat} (b : Bool) : Readable n (.bool b)
  | int {n : Nat} (i : Int) : Readable n (.int i)
  | double {n : Nat} (d : Double) : Readable n (.double d)
  | text {n : Nat} (s : String) : Readable n (.text s)
  | array {n : Nat} {items : List Json} : (∀ x ∈ items, Readable n x) →
      Readable (n + 1) (.array items)
  | object {n : Nat} {members : List (String × Json)} : isEmbedding members = false →
      (∀ m ∈ members, Readable n m.2) → Readable (n + 1) (.object members)
  | embedded {n : Nat} {s : String} : (ofText? s).isSome = true →
      Readable (n + 1) (.object [(embeddingKey, .text s)])

theorem isSome_rereadItems?_iff :
    (rereadItems? n items).isSome = true ↔ ∀ x ∈ items, (reread? n x).isSome = true := by
  induction items with
  | nil => simp [rereadItems?]
  | cons x xs ih =>
    rw [List.forall_mem_cons, ← ih, rereadItems?]
    cases reread? n x <;> cases rereadItems? n xs <;> simp

theorem isSome_rereadMembers?_iff :
    (rereadMembers? n members).isSome = true ↔ ∀ m ∈ members, (reread? n m.2).isSome = true := by
  rw [rereadMembers?_eq, Entries.isSome_mapValues?_iff]

theorem Readable.isSome_reread? {j : Json} (h : Readable n j) : (reread? n j).isSome = true := by
  induction h with
  | double d =>
    rw [reread?, Option.isSome_map]
    exact d.isSome_double?
  | array _ ih =>
    rw [reread?, Option.isSome_map]
    exact isSome_rereadItems?_iff.2 ih
  | object hplain _ ih =>
    rw [reread?, hplain, if_neg Bool.false_ne_true, Option.isSome_map]
    exact isSome_rereadMembers?_iff.2 ih
  | embedded hs =>
    exact hs
  | @null n => cases n <;> rfl
  | @bool n _ => cases n <;> rfl
  | @int n _ => cases n <;> rfl
  | @text n _ => cases n <;> rfl

/-- **Something is read of the text of a value exactly if the value is readable.** -/
theorem isSome_reread?_iff {j : Json} : (reread? n j).isSome = true ↔ Readable n j := by
  refine ⟨fun h => ?_, Readable.isSome_reread?⟩
  induction j using induction_on generalizing n with
  | null => exact .null
  | bool b => exact .bool b
  | int i => exact .int i
  | double d => exact .double d
  | text s => exact .text s
  | array items ih =>
    cases n with
    | zero => cases h
    | succ n =>
      rw [reread?, Option.isSome_map, isSome_rereadItems?_iff] at h
      exact .array fun x hx => ih x hx (h x hx)
  | object members ih =>
    cases n with
    | zero => cases h
    | succ n =>
      rw [reread?] at h
      split_ifs at h with hembeds
      · obtain ⟨s, hs⟩ : ∃ s, embedded? members = some s := by
          cases hs : embedded? members with
          | none =>
            rw [hs] at h
            cases h
          | some s => exact ⟨s, rfl⟩
        rw [hs, Option.bind_some] at h
        obtain ⟨key, rfl⟩ := embedded?_eq_some_iff.1 hs
        obtain rfl : key = embeddingKey := by simpa [isEmbedding] using hembeds
        exact .embedded h
      · rw [Option.isSome_map, isSome_rereadMembers?_iff] at h
        exact .object (Bool.eq_false_iff.2 hembeds) fun m hm => ih m hm (h m hm)

end EntityQuery.Json
