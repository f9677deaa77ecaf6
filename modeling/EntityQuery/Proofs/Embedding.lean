import Mathlib.Tactic
import EntityQuery.Json.Reader
import EntityQuery.Proofs.Dict

/-!
# Embedded texts

A value that is read again stays what it is, unless it holds an object whose first key is the
embedding key: that object is replaced by the value of the text embedded in it, and no text has such
an object for its value.

* `Json.IsValue`: values as they are kept;
* `Json.embeds`: a value holds an object under the embedding key;
* `Json.memberMeanings?_eq`, `Json.memberMeanings?_eq_self_iff`: what the members of an object
  mean;
* **`Json.meaning?_eq_self_iff`**: the values that stay what they are.
-/

namespace EntityQuery.Json

/-- A value as it is kept: its integers fit 64 bits, and the members of its objects are in order of
their keys, without repetitions. -/
inductive IsValue : Json → Prop
  | null : IsValue .null
  | bool (b : Bool) : IsValue (.bool b)
  | int {n : Int} : (isSigned n || isUnsigned n) = true → IsValue (.int n)
  | double (d : Double) : IsValue (.double d)
  | text (s : String) : IsValue (.text s)
  | array {items : List Json} : (∀ x ∈ items, IsValue x) → IsValue (.array items)
  | object {members : List (String × Json)} : Entries.Increasing members →
      (∀ m ∈ members, IsValue m.2) → IsValue (.object members)

mutual

/-- The value is, or holds at some depth, an object whose first key is the embedding key. -/
def embeds : Json → Bool
  | .array items => embedsItem items
  | .object members => isEmbedding members || embedsMember members
  | _ => false

/-- One of the items embeds a text. -/
def embedsItem : List Json → Bool
  | [] => false
  | x :: xs => embeds x || embedsItem xs

/-- One of the members embeds a text. -/
def embedsMember : List (String × Json) → Bool
  | [] => false
  | (_, x) :: xs => embeds x || embedsMember xs

end

variable {read? : String → Option Json} {items : List Json} {members ms : List (String × Json)}

theorem embedsItem_eq_false_iff : embedsItem items = false ↔ ∀ x ∈ items, embeds x = false := by
  induction items with
  | nil => simp [embedsItem]
  | cons x xs ih => simp [embedsItem, ih]

theorem embedsMember_eq_false_iff :
    embedsMember members = false ↔ ∀ m ∈ members, embeds m.2 = false := by
  induction members with
  | nil => simp [embedsMember]
  | cons m members ih => simp [embedsMember, ih]

theorem text?_eq_some_iff {j : Json} {s : String} : j.text? = some s ↔ j = .text s := by
  cases j <;> simp [text?]

theorem embedded?_eq_some_iff {s : String} :
    embedded? members = some s ↔ ∃ key, members = [(key, .text s)] := by
  match members with
  | [] => simp [embedded?]
  | [(key, value)] => simp [embedded?, text?_eq_some_iff]
  | _ :: _ :: _ => simp [embedded?]

/-! ## Items and members -/

theorem itemMeanings?_eq_self_iff :
    itemMeanings? read? items = some items ↔ ∀ x ∈ items, meaning? read? x = some x := by
  induction items with
  | nil => simp [itemMeanings?]
  | cons x xs ih => simp [itemMeanings?, Option.bind_eq_some_iff, ih]

theorem memberMeanings?_eq (read? : String → Option Json) (members : List (String × Json)) :
    memberMeanings? read? members = Entries.mapValues? (meaning? read?) members := by
  induction members with
  | nil => rfl
  | cons m members ih =>
    obtain ⟨key, x⟩ := m
    rw [memberMeanings?, Entries.mapValues?, ih]

theorem memberMeanings?_eq_self_iff :
    memberMeanings? read? members = some members ↔
      ∀ m ∈ members, meaning? read? m.2 = some m.2 := by
  rw [memberMeanings?_eq, Entries.mapValues?_eq_self_iff]

/-- What members mean is under the same keys. -/
theorem map_fst_memberMeanings? (h : memberMeanings? read? members = some ms) :
    ms.map (·.1) = members.map (·.1) :=
  Entries.map_fst_mapValues? ((memberMeanings?_eq read? members).symm.trans h)

/-! ## Values that stay what they are -/

theorem isEmbedding_eq_of_keys (h : ms.map (·.1) = members.map (·.1)) :
    isEmbedding ms = isEmbedding members := by
  cases ms with
  | nil =>
    cases members with
    | nil => rfl
    | cons m members => simp at h
  | cons m ms =>
    cases members with
    | nil => simp at h
    | cons m' members =>
      rw [List.map_cons, List.map_cons] at h
      simp [isEmbedding, (List.cons.inj h).1]

/-- No text means an object with the embedding key alone: written first it embeds a text. -/
theorem ofTextWithin?_ne_embedding (n : Nat) (s : String) (value : Json) :
    ofTextWithin? n s ≠ some (.object [(embeddingKey, value)]) := by
  induction n generalizing s with
  | zero => simp [ofTextWithin?]
  | succ n ih =>
    intro h
    obtain ⟨w, -, hw⟩ := Option.bind_eq_some_iff.1 h
    cases w with
    | null | bool | int | double | text => simp [meaning?] at hw
    | array items => simp [meaning?] at hw
    | object members =>
      rw [meaning?] at hw
      split_ifs at hw with hembeds
      · obtain ⟨s', -, hs'⟩ := Option.bind_eq_some_iff.1 hw
        exact ih s' hs'
      · obtain ⟨ms, hms, hlist⟩ := Option.map_eq_some_iff.1 hw
        have hentries : (Dict.ofList ms).entries = [(embeddingKey, value)] := Json.object.inj hlist
        -- every key written is the only one that is kept, and so is the first
        have hkeys : ∀ key ∈ ms.map (·.1), key = embeddingKey := by
          intro key hkey
          have hmem := Dict.mem_keys_iff.2 (Dict.contains_ofList hkey)
          rw [Dict.keys, hentries] at hmem
          simpa using hmem
        rw [← isEmbedding_eq_of_keys (map_fst_memberMeanings? hms)] at hembeds
        cases ms with
        | nil => cases hentries
        | cons m ms => simp [isEmbedding, hkeys m.1 (by simp)] at hembeds

theorem meaning?_of_embedding (h : isEmbedding members = true) :
    meaning? ofText? (.object members) ≠ some (.object members) := by
  rw [meaning?, if_pos h]
  intro hself
  obtain ⟨s, hs, hread⟩ := Option.bind_eq_some_iff.1 hself
  match members, hs with
  | [(key, value)], hs =>
    have hkey : key = embeddingKey := by simpa [isEmbedding] using h
    rw [hkey] at hread
    exact ofTextWithin?_ne_embedding _ s value hread

/-- **A value stays what it is exactly where it embeds no text.** -/
theorem meaning?_eq_self_iff {j : Json} (h : j.IsValue) :
    meaning? ofText? j = some j ↔ j.embeds = false := by
  induction h with
  | null | bool | int | double | text => simp [meaning?, embeds]
  | @array items _ ih =>
    have hitems : meaning? ofText? (.array items) = some (.array items) ↔
        itemMeanings? ofText? items = some items := by simp [meaning?]
    rw [hitems, itemMeanings?_eq_self_iff, embeds, embedsItem_eq_false_iff]
    exact forall₂_congr ih
  | @object members hkeys _ ih =>
    rw [embeds, Bool.or_eq_false_iff, embedsMember_eq_false_iff]
    cases hembeds : isEmbedding members with
    | true => simp [meaning?_of_embedding hembeds]
    | false =>
      have hmembers : meaning? ofText? (.object members) = some (.object members) ↔
          memberMeanings? ofText? members = some members := by
        rw [meaning?, hembeds, if_neg Bool.false_ne_true, Option.map_eq_some_iff]
        constructor
        · rintro ⟨ms, hms, hlist⟩
          have hsame : Entries.Increasing ms := by
            rw [Entries.increasing_iff, map_fst_memberMeanings? hms, ← Entries.increasing_iff]
            exact hkeys
          rw [Entries.ofList_eq_self hsame, Json.object.injEq] at hlist
          rw [hms, hlist]
        · intro hms
          exact ⟨members, hms, by rw [Entries.ofList_eq_self hkeys]⟩
      rw [hmembers, memberMeanings?_eq_self_iff]
      simpa using forall₂_congr ih

end EntityQuery.Json
