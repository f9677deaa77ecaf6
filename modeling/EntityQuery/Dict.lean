/-!
# Dictionaries

A dictionary maps texts to values and keeps its entries in strictly increasing order of their keys.
Keys are ordered by code points, which is also the order of their UTF-8 bytes.

* `get?_insert`, `get?_erase`: what a key finds after a change;
* `ext`: a dictionary is determined by what its keys find.
-/

namespace EntityQuery

/-! ## Entries in order -/

namespace Entries

variable {α : Type}

/-- Puts a value under a key, in place of the one already there. -/
def insert (key : String) (value : α) : List (String × α) → List (String × α)
  | [] => [(key, value)]
  | (k, v) :: rest =>
    if key < k then (key, value) :: (k, v) :: rest
    else if key = k then (key, value) :: rest
    else (k, v) :: insert key value rest

/-- The value under a key. -/
def find? (key : String) : List (String × α) → Option α
  | [] => none
  | (k, v) :: rest => if key = k then some v else find? key rest

/-- The entries in order, a later one replacing an earlier one of the same key. -/
def ofList (entries : List (String × α)) : List (String × α) :=
  entries.foldl (fun done e => insert e.1 e.2 done) []

/-- The keys increase strictly. -/
def Increasing (entries : List (String × α)) : Prop := entries.Pairwise (·.1 < ·.1)

theorem mem_insert {key : String} {value : α} {e : String × α} {entries : List (String × α)}
    (h : e ∈ insert key value entries) : e = (key, value) ∨ e ∈ entries := by
  induction entries with
  | nil => simpa [insert] using h
  | cons x rest ih =>
    simp only [insert] at h
    split at h
    · simpa using h
    · split at h
      · rcases List.mem_cons.1 h with h | h
        · exact .inl h
        · exact .inr (List.mem_cons_of_mem _ h)
      · rcases List.mem_cons.1 h with rfl | h
        · exact .inr List.mem_cons_self
        · exact (ih h).imp_right (List.mem_cons_of_mem _)

theorem increasing_insert {key : String} {value : α} {entries : List (String × α)}
    (h : Increasing entries) : Increasing (insert key value entries) := by
  induction entries with
  | nil => simp [insert, Increasing]
  | cons x rest ih =>
    have hrest := List.pairwise_cons.1 h
    simp only [insert]
    split
    · rename_i hlt
      refine List.pairwise_cons.2 ⟨fun e he => ?_, h⟩
      rcases List.mem_cons.1 he with rfl | he
      · exact hlt
      · exact String.lt_trans hlt (hrest.1 e he)
    · split
      · rename_i heq
        exact List.pairwise_cons.2 ⟨fun e he => heq ▸ hrest.1 e he, hrest.2⟩
      · rename_i hlt heq
        refine List.pairwise_cons.2 ⟨fun e he => ?_, ih hrest.2⟩
        rcases mem_insert he with rfl | he
        · exact Std.lt_of_le_of_ne (String.not_lt.1 hlt) (Ne.symm heq)
        · exact hrest.1 e he

theorem increasing_ofList (entries : List (String × α)) : Increasing (ofList entries) := by
  have go : ∀ (es done : List (String × α)), Increasing done →
      Increasing (es.foldl (fun done e => insert e.1 e.2 done) done) := by
    intro es
    induction es with
    | nil => exact fun _ h => h
    | cons e es ih => exact fun _ h => ih _ (increasing_insert h)
  exact go entries [] List.Pairwise.nil

theorem find?_insert (key k : String) (value : α) {entries : List (String × α)} :
    find? k (insert key value entries) = if k = key then some value else find? k entries := by
  induction entries with
  | nil => rfl
  | cons x rest ih => simp only [insert]; grind [find?]

theorem mem_of_find? {key : String} {value : α} {entries : List (String × α)}
    (h : find? key entries = some value) : (key, value) ∈ entries := by
  induction entries with
  | nil => simp [find?] at h
  | cons x rest ih => simp only [find?] at h; grind

theorem find?_of_mem {key : String} {value : α} {entries : List (String × α)}
    (hs : Increasing entries) (h : (key, value) ∈ entries) : find? key entries = some value := by
  induction entries with
  | nil => simp at h
  | cons x rest ih =>
    have hrest := List.pairwise_cons.1 hs
    rcases List.mem_cons.1 h with rfl | h
    · simp [find?]
    · have hne : key ≠ x.1 := fun heq => String.lt_irrefl x.1 (heq ▸ hrest.1 _ h)
      simp [find?, hne, ih hrest.2 h]

end Entries

/-! ## Dictionaries -/

/-- Entries in strictly increasing order of their keys. -/
structure Dict (α : Type) where
  entries : List (String × α)
  increasing : Entries.Increasing entries

namespace Dict

variable {α β : Type}

/-- No entries. -/
def empty : Dict α := ⟨[], List.Pairwise.nil⟩

instance : Inhabited (Dict α) := ⟨empty⟩

/-- The dictionary of these entries, a later one replacing an earlier one of the same key. -/
def ofList (entries : List (String × α)) : Dict α :=
  ⟨Entries.ofList entries, Entries.increasing_ofList entries⟩

/-- The value under a key. -/
def get? (d : Dict α) (key : String) : Option α := Entries.find? key d.entries

/-- The key has a value. -/
def contains (d : Dict α) (key : String) : Bool := (d.get? key).isSome

/-- Puts a value under a key, in place of the one already there. -/
def insert (d : Dict α) (key : String) (value : α) : Dict α :=
  ⟨Entries.insert key value d.entries, Entries.increasing_insert d.increasing⟩

/-- Takes the value under a key away. -/
def erase (d : Dict α) (key : String) : Dict α :=
  ⟨d.entries.filter (·.1 != key), d.increasing.filter _⟩

/-- Changes the value under a key, or puts one there. -/
def alter (d : Dict α) (key : String) (f : Option α → α) : Dict α :=
  d.insert key (f (d.get? key))

/-- The keys, in order. -/
def keys (d : Dict α) : List String := d.entries.map (·.1)

/-- The values, in order of their keys. -/
def values (d : Dict α) : List α := d.entries.map (·.2)

/-- There are no entries. -/
def isEmpty (d : Dict α) : Bool := d.entries.isEmpty

/-- The entries whose key and value pass a test. -/
def filter (d : Dict α) (p : String → α → Bool) : Dict α :=
  ⟨d.entries.filter fun e => p e.1 e.2, d.increasing.filter _⟩

@[simp] theorem get?_empty (key : String) : (empty : Dict α).get? key = none := rfl

theorem get?_insert (d : Dict α) (key k : String) (value : α) :
    (d.insert key value).get? k = if k = key then some value else d.get? k :=
  Entries.find?_insert key k value

@[simp] theorem get?_insert_self (d : Dict α) (key : String) (value : α) :
    (d.insert key value).get? key = some value := by simp [get?_insert]

theorem mem_entries_iff {d : Dict α} {key : String} {value : α} :
    (key, value) ∈ d.entries ↔ d.get? key = some value :=
  ⟨Entries.find?_of_mem d.increasing, Entries.mem_of_find?⟩

theorem get?_filter (d : Dict α) (p : String → α → Bool) (key : String) :
    (d.filter p).get? key = (d.get? key).filter (p key) := by
  apply Option.ext
  intro value
  rw [← mem_entries_iff, Option.filter_eq_some_iff, ← mem_entries_iff]
  simp [filter]

theorem get?_erase (d : Dict α) (key k : String) :
    (d.erase key).get? k = if k = key then none else d.get? k := by
  apply Option.ext
  intro value
  rw [← mem_entries_iff]
  by_cases h : k = key <;> simp [erase, h, mem_entries_iff]

@[simp] theorem get?_erase_self (d : Dict α) (key : String) : (d.erase key).get? key = none := by
  simp [get?_erase]

private theorem entries_ext {xs ys : List (String × α)} (hx : Entries.Increasing xs)
    (hy : Entries.Increasing ys) (h : ∀ e, e ∈ xs ↔ e ∈ ys) : xs = ys := by
  induction xs generalizing ys with
  | nil =>
    cases ys with
    | nil => rfl
    | cons y ys => exact absurd ((h y).2 List.mem_cons_self) List.not_mem_nil
  | cons x xs ih =>
    cases ys with
    | nil => exact absurd ((h x).1 List.mem_cons_self) List.not_mem_nil
    | cons y ys =>
      have hx' := List.pairwise_cons.1 hx
      have hy' := List.pairwise_cons.1 hy
      have hxy : x = y := by
        rcases List.mem_cons.1 ((h x).1 List.mem_cons_self) with rfl | h1
        · rfl
        · rcases List.mem_cons.1 ((h y).2 List.mem_cons_self) with rfl | h2
          · rfl
          · exact absurd (hx'.1 _ h2) (String.lt_asymm (hy'.1 _ h1))
      subst hxy
      refine congrArg _ (ih hx'.2 hy'.2 fun e => ⟨fun he => ?_, fun he => ?_⟩)
      · rcases List.mem_cons.1 ((h e).1 (List.mem_cons_of_mem _ he)) with rfl | h1
        · exact absurd (hx'.1 _ he) (String.lt_irrefl _)
        · exact h1
      · rcases List.mem_cons.1 ((h e).2 (List.mem_cons_of_mem _ he)) with rfl | h1
        · exact absurd (hy'.1 _ he) (String.lt_irrefl _)
        · exact h1

theorem ext {d e : Dict α} (h : ∀ key, d.get? key = e.get? key) : d = e := by
  have hl : d.entries = e.entries := entries_ext d.increasing e.increasing fun ⟨k, v⟩ => by
    rw [mem_entries_iff, mem_entries_iff, h]
  cases d; cases e; simp_all

end Dict

end EntityQuery
