import Mathlib.Tactic
import EntityQuery.Dict

/-!
# Entries of dictionaries

Which entries a dictionary has, said of the list that it is made of.

* `Dict.mem_values_iff`, `Dict.mem_values_erase`, `Dict.mem_values_insert`: the values, by key;
* `Dict.map_values_congr`: dictionaries with the same keys list alike what is alike under each key;
* `Dict.mem_entries_ofList`: a list in which no key has two values keeps all its entries;
* `Entries.ofList_map`: changing the values commutes with putting the entries in order;
* `Entries.mapValues?`: changing the values, where that may fail;
* `Entries.find?_perm`: the order of entries does not matter to what their keys find;
* `Dict.get?_ofList_append`, `Dict.ofList_entries`: the entries of a dictionary put on top of
  others, and alone.
-/

namespace EntityQuery

namespace Entries

variable {α β : Type}

theorem insert_map (g : α → β) (key : String) (value : α) (entries : List (String × α)) :
    insert key (g value) (entries.map fun e => (e.1, g e.2)) =
      (insert key value entries).map fun e => (e.1, g e.2) := by
  induction entries with
  | nil => rfl
  | cons x rest ih =>
    simp only [List.map_cons, insert]
    split_ifs
    · rfl
    · rfl
    · rw [ih, List.map_cons]

theorem ofList_map (g : α → β) (entries : List (String × α)) :
    ofList (entries.map fun e => (e.1, g e.2)) = (ofList entries).map fun e => (e.1, g e.2) := by
  have go : ∀ es done : List (String × α),
      (es.map fun e => (e.1, g e.2)).foldl (fun done e => insert e.1 e.2 done)
        (done.map fun e => (e.1, g e.2)) =
      (es.foldl (fun done e => insert e.1 e.2 done) done).map fun e => (e.1, g e.2) := by
    intro es
    induction es with
    | nil => exact fun _ => rfl
    | cons e es ih =>
      intro done
      rw [List.map_cons, List.foldl_cons, List.foldl_cons, insert_map g e.1 e.2 done, ih]
  exact go entries []

theorem find?_eq_some_iff_mem {key : String} {value : α} {entries : List (String × α)}
    (h : (entries.map (·.1)).Nodup) : find? key entries = some value ↔ (key, value) ∈ entries := by
  refine ⟨mem_of_find?, fun hmem => ?_⟩
  induction entries with
  | nil => exact absurd hmem List.not_mem_nil
  | cons x rest ih =>
    rw [List.map_cons, List.nodup_cons] at h
    rw [find?]
    rcases List.mem_cons.1 hmem with rfl | hmem
    · rw [if_pos rfl]
    · have hne : key ≠ x.1 := fun heq => h.1 (heq ▸ List.mem_map_of_mem hmem)
      rw [if_neg hne]
      exact ih h.2 hmem

/-- Entries of different keys find the same values in every order. -/
theorem find?_perm {key : String} {entries entries' : List (String × α)}
    (hp : entries.Perm entries') (h : (entries.map (·.1)).Nodup) :
    find? key entries = find? key entries' := by
  apply Option.ext
  intro value
  rw [find?_eq_some_iff_mem h, find?_eq_some_iff_mem ((hp.map _).nodup_iff.1 h), hp.mem_iff]

theorem find?_eq_none_of_not_mem {key : String} {entries : List (String × α)}
    (h : key ∉ entries.map (·.1)) : find? key entries = none := by
  rw [Option.eq_none_iff_forall_ne_some]
  intro value hvalue
  exact h (List.mem_map_of_mem (mem_of_find? hvalue))

/-- Entries of different keys that are put on top of others hide those of the same keys. -/
theorem find?_foldl_insert {key : String} {entries start : List (String × α)}
    (h : (entries.map (·.1)).Nodup) :
    find? key (entries.foldl (fun done e => insert e.1 e.2 done) start) =
      (find? key entries).or (find? key start) := by
  induction entries generalizing start with
  | nil => rfl
  | cons e rest ih =>
    rw [List.map_cons, List.nodup_cons] at h
    rw [List.foldl_cons, ih h.2, find?_insert, find?]
    by_cases hkey : key = e.1
    · rw [if_pos hkey, if_pos hkey, hkey, find?_eq_none_of_not_mem h.1]
      rfl
    · rw [if_neg hkey, if_neg hkey]

/-- Changes all values, if each of them can be changed. -/
def mapValues? (f : α → Option β) : List (String × α) → Option (List (String × β))
  | [] => some []
  | (key, x) :: rest => do
    let y ← f x
    let ys ← mapValues? f rest
    return (key, y) :: ys

section mapValues

variable {γ : Type} {f : α → Option β} {g : β → Option γ} {entries : List (String × α)}
  {changed : List (String × β)}

theorem map_fst_mapValues? (h : mapValues? f entries = some changed) :
    changed.map (·.1) = entries.map (·.1) := by
  induction entries generalizing changed with
  | nil =>
    cases h
    rfl
  | cons e rest ih =>
    simp only [mapValues?, Option.bind_eq_bind, Option.bind_eq_some_iff] at h
    obtain ⟨y, -, ys, hys, h⟩ := h
    cases h
    rw [List.map_cons, List.map_cons, ih hys]

theorem find?_mapValues? (h : mapValues? f entries = some changed) (key : String) :
    find? key changed = (find? key entries).bind f := by
  induction entries generalizing changed with
  | nil =>
    cases h
    rfl
  | cons e rest ih =>
    simp only [mapValues?, Option.bind_eq_bind, Option.bind_eq_some_iff] at h
    obtain ⟨y, hy, ys, hys, h⟩ := h
    cases h
    rw [find?, find?]
    split_ifs with hkey
    · exact hy.symm
    · exact ih hys

theorem isSome_mapValues?_iff : (mapValues? f entries).isSome = true ↔
    ∀ e ∈ entries, (f e.2).isSome = true := by
  induction entries with
  | nil => simp [mapValues?]
  | cons e rest ih =>
    rw [List.forall_mem_cons, ← ih]
    simp only [mapValues?, Option.bind_eq_bind]
    cases f e.2 with
    | none => simp
    | some y => cases mapValues? f rest <;> simp

theorem bind_mapValues? : (mapValues? f entries).bind (mapValues? g) =
    mapValues? (fun x => (f x).bind g) entries := by
  induction entries with
  | nil => rfl
  | cons e rest ih =>
    simp only [mapValues?, Option.bind_eq_bind, ← ih]
    cases f e.2 with
    | none => rfl
    | some y =>
      cases mapValues? f rest with
      | none => cases hy : g y <;> simp [hy]
      | some ys => simp [mapValues?]

theorem mapValues?_eq_self_iff {f : α → Option α} {entries : List (String × α)} :
    mapValues? f entries = some entries ↔ ∀ e ∈ entries, f e.2 = some e.2 := by
  induction entries with
  | nil => simp [mapValues?]
  | cons e rest ih =>
    obtain ⟨key, x⟩ := e
    simp [mapValues?, Option.bind_eq_some_iff, ih]

theorem mapValues?_congr {f' : α → Option β} (h : ∀ e ∈ entries, f e.2 = f' e.2) :
    mapValues? f entries = mapValues? f' entries := by
  induction entries with
  | nil => rfl
  | cons e rest ih =>
    obtain ⟨he, hrest⟩ := List.forall_mem_cons.1 h
    rw [mapValues?, mapValues?, he, ih hrest]

end mapValues

theorem increasing_iff {entries : List (String × α)} :
    Increasing entries ↔ (entries.map (·.1)).Pairwise (· < ·) := List.pairwise_map.symm

end Entries

namespace Dict

variable {α β : Type}

theorem mem_values_iff {d : Dict α} {value : α} :
    value ∈ d.values ↔ ∃ key, d.get? key = some value := by
  simp only [values, List.mem_map, Prod.exists, exists_eq_right, mem_entries_iff]

theorem mem_values_erase {d : Dict α} {key : String} {value : α} :
    value ∈ (d.erase key).values ↔ ∃ k ≠ key, d.get? k = some value := by
  rw [mem_values_iff]
  refine exists_congr fun k => ?_
  rw [get?_erase]
  by_cases h : k = key <;> simp [h]

theorem mem_values_insert {d : Dict α} {key : String} {value v : α} :
    v ∈ (d.insert key value).values ↔ v = value ∨ v ∈ (d.erase key).values := by
  rw [mem_values_erase, mem_values_iff]
  constructor
  · rintro ⟨k, hk⟩
    rw [get?_insert] at hk
    split_ifs at hk with h
    · exact .inl (Option.some.inj hk).symm
    · exact .inr ⟨k, h, hk⟩
  · rintro (rfl | ⟨k, h, hk⟩)
    · exact ⟨key, get?_insert_self d key v⟩
    · exact ⟨k, by rw [get?_insert, if_neg h, hk]⟩

theorem mem_keys_iff {d : Dict α} {key : String} : key ∈ d.keys ↔ d.contains key = true := by
  simp only [keys, List.mem_map, Prod.exists, exists_and_right, exists_eq_right, mem_entries_iff,
    contains, Option.isSome_iff_exists]

theorem pairwise_keys (d : Dict α) : d.keys.Pairwise (· < ·) := List.pairwise_map.2 d.increasing

theorem nodup_keys (d : Dict α) : d.keys.Nodup := d.pairwise_keys.imp String.ne_of_lt

/-- Dictionaries with the same keys list them in the same order. -/
theorem keys_eq {d e : Dict α} (h : ∀ key, d.contains key = e.contains key) : d.keys = e.keys := by
  refine d.pairwise_keys.eq_of_mem_iff e.pairwise_keys fun key => ?_
  rw [mem_keys_iff, mem_keys_iff, h]

theorem map_values (d : Dict α) (f : α → β) :
    d.values.map f = d.keys.filterMap fun key => (d.get? key).map f := by
  rw [values, keys, List.map_map, List.filterMap_map, ← List.filterMap_eq_map]
  refine List.filterMap_congr fun e he => ?_
  simp only [Function.comp_apply, mem_entries_iff.1 he, Option.map_some]

theorem map_values_congr {d e : Dict α} {f : α → β}
    (h : ∀ key, d.contains key = e.contains key)
    (hf : ∀ key v w, d.get? key = some v → e.get? key = some w → f v = f w) :
    d.values.map f = e.values.map f := by
  rw [map_values, map_values, keys_eq h]
  refine List.filterMap_congr fun key hkey => ?_
  have he := mem_keys_iff.1 hkey
  have hd := (h key).trans he
  obtain ⟨v, hv⟩ := Option.isSome_iff_exists.1 hd
  obtain ⟨w, hw⟩ := Option.isSome_iff_exists.1 he
  rw [hv, hw, Option.map_some, Option.map_some, hf key v w hv hw]

theorem get?_foldl_insert {entries : List (String × α)} {d : List (String × α)} {key : String}
    {value : α}
    (h : Entries.find? key (entries.foldl (fun done e => Entries.insert e.1 e.2 done) d) =
      some value) : (key, value) ∈ entries ∨ Entries.find? key d = some value := by
  induction entries generalizing d with
  | nil => exact .inr h
  | cons e rest ih =>
    rcases ih h with hr | hr
    · exact .inl (List.mem_cons_of_mem _ hr)
    · rw [Entries.find?_insert] at hr
      split_ifs at hr with hk
      · exact .inl (by rw [hk, ← Option.some.inj hr]; exact List.mem_cons_self)
      · exact .inr hr

theorem mem_of_mem_entries_ofList {entries : List (String × α)} {e : String × α}
    (h : e ∈ (ofList entries).entries) : e ∈ entries := by
  have hf : Entries.find? e.1 (entries.foldl (fun done e => Entries.insert e.1 e.2 done) []) =
      some e.2 := mem_entries_iff.1 h
  rcases get?_foldl_insert hf with h | h
  · exact h
  · exact absurd h (by simp [Entries.find?])

theorem isSome_find?_foldl_insert {entries : List (String × α)} {d : List (String × α)}
    {key : String} (h : key ∈ entries.map (·.1) ∨ (Entries.find? key d).isSome) :
    (Entries.find? key (entries.foldl (fun done e => Entries.insert e.1 e.2 done) d)).isSome := by
  induction entries generalizing d with
  | nil => simpa using h
  | cons e rest ih =>
    rw [List.foldl_cons]
    refine ih ?_
    rw [Entries.find?_insert]
    by_cases hk : key = e.1
    · exact .inr (by rw [if_pos hk]; rfl)
    · rw [if_neg hk]
      refine h.imp_left fun hm => ?_
      rw [List.map_cons, List.mem_cons] at hm
      exact hm.resolve_left hk

theorem contains_ofList {entries : List (String × α)} {key : String}
    (h : key ∈ entries.map (·.1)) : (ofList entries).contains key = true :=
  isSome_find?_foldl_insert (.inl h)

/-- A list in which no key has two values keeps all its entries. -/
theorem mem_entries_ofList {entries : List (String × α)}
    (hf : ∀ e ∈ entries, ∀ e' ∈ entries, e.1 = e'.1 → e.2 = e'.2) {e : String × α} :
    e ∈ (ofList entries).entries ↔ e ∈ entries := by
  refine ⟨mem_of_mem_entries_ofList, fun h => ?_⟩
  obtain ⟨value, hv⟩ := Option.isSome_iff_exists.1 (contains_ofList (List.mem_map_of_mem h))
  have hm : (e.1, value) ∈ (ofList entries).entries := mem_entries_iff.2 hv
  have heq : e.2 = value := hf e h (e.1, value) (mem_of_mem_entries_ofList hm) rfl
  rwa [← heq] at hm

theorem get?_ofList_append (entries : List (String × α)) (d : Dict α) (key : String) :
    (ofList (entries ++ d.entries)).get? key = (d.get? key).or ((ofList entries).get? key) := by
  show Entries.find? key ((entries ++ d.entries).foldl _ []) = _
  rw [List.foldl_append, Entries.find?_foldl_insert d.nodup_keys]
  rfl

@[simp] theorem ofList_entries (d : Dict α) : ofList d.entries = d := by
  apply ext
  intro key
  have h := get?_ofList_append [] d key
  rw [List.nil_append] at h
  rw [h]
  exact Option.or_none

end Dict

/-- Entries in order are kept as they are. -/
theorem Entries.ofList_eq_self {α : Type} {entries : List (String × α)}
    (h : Increasing entries) : ofList entries = entries :=
  congrArg Dict.entries (Dict.ofList_entries ⟨entries, h⟩)

end EntityQuery
