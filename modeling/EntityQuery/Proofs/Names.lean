import Mathlib.Tactic
import EntityQuery.Proofs.Dict
import EntityQuery.Proofs.Fill
import EntityQuery.Registry.Bundled
import EntityQuery.Table

/-!
# Names

Names come from registries, which declare them, and from keys, where a mark makes a path of them.
What a statement holds of a name is the name itself, its path or its slug.

* `Text.IsWord`, `Text.IsDotted`: texts of letters, digits and underscores, and words with points
  between them;
* `Registry.Wordy`, `Registry.Plain`: all declared names are words, or hold no question mark;
* `SameName`: two names that are one to a database;
* `Field.Resolved`, `Field.resolved_of_resolve`: all that a key can stand for;
* `Field.plain_of_resolve`: by a registry of words, the texts of a field hold no question mark;
* `Field.slug_of_contextMark`, `Field.contextMark_of_scalar`: where the context mark stands.
-/

namespace EntityQuery

open Text

variable {table : String} {registry : Registry}

/-! ## Words and paths -/

namespace Text

/-- Letters, digits and underscores. -/
def IsWord (cs : List Char) : Prop := ∀ c ∈ cs, c.isAlphanum = true ∨ c = '_'

-- the list is what is gone through, not all characters there are
instance (cs : List Char) : Decidable (IsWord cs) :=
  decidable_of_iff (cs.all fun c => c.isAlphanum || c == '_') (by simp [IsWord])

/-- Words with points between them, at least one, and none of them empty. -/
def IsDotted (path : List Char) : Prop :=
  ∃ segments : List (List Char), segments ≠ [] ∧
    (∀ segment ∈ segments, segment ≠ [] ∧ IsWord segment) ∧ path = ['.'].intercalate segments

variable {cs : List Char}

theorem mem_intercalate {separator c : Char} {parts : List (List Char)}
    (h : c ∈ [separator].intercalate parts) : c = separator ∨ ∃ part ∈ parts, c ∈ part := by
  induction parts with
  | nil => exact absurd h List.not_mem_nil
  | cons part parts ih =>
    cases parts with
    | nil =>
      rw [List.intercalate_singleton] at h
      exact .inr ⟨part, List.mem_cons_self, h⟩
    | cons part' parts =>
      rw [List.intercalate_cons_cons, List.append_assoc, List.mem_append, List.mem_append,
        List.mem_singleton] at h
      rcases h with h | h | h
      · exact .inr ⟨part, List.mem_cons_self, h⟩
      · exact .inl h
      · obtain h | ⟨p, hp, hc⟩ := ih h
        · exact .inl h
        · exact .inr ⟨p, List.mem_cons_of_mem _ hp, hc⟩

theorem IsDotted.mem (h : IsDotted cs) {c : Char} (hc : c ∈ cs) :
    c.isAlphanum = true ∨ c = '_' ∨ c = '.' := by
  obtain ⟨segments, -, hsegments, rfl⟩ := h
  obtain hc | ⟨segment, hs, hc⟩ := mem_intercalate hc
  · exact .inr (.inr hc)
  · have := (hsegments segment hs).2 c hc
    tauto

theorem isDotted_of_isWord (h : IsWord cs) (hne : cs ≠ []) : IsDotted cs :=
  ⟨[cs], by simp, by simp [h, hne], by simp⟩

theorem question_not_mem (h : ∀ c ∈ cs, c.isAlphanum = true ∨ c = '_' ∨ c = '.') : '?' ∉ cs := by
  intro hq
  rcases h _ hq with h | h | h
  · exact absurd h (by decide)
  · exact absurd h (by decide)
  · exact absurd h (by decide)

theorem IsWord.plain {name : String} (h : IsWord name.toList) : Plain name := by
  refine question_not_mem fun c hc => ?_
  have := h c hc
  tauto

end Text

/-! ## Declared names -/

/-- All names that a registry declares are made of ASCII letters, digits and underscores. -/
def Registry.Wordy (registry : Registry) : Prop :=
  ∀ name, registry.isMeta name = true ∨ registry.isProperty name = true →
    ∀ c ∈ name.toList, c.isAlphanum = true ∨ c = '_'

/-- No name that a registry declares has a question mark in it. -/
def Registry.Plain (registry : Registry) : Prop :=
  ∀ name, registry.isMeta name = true ∨ registry.isProperty name = true → Text.Plain name

theorem Registry.Wordy.plain (h : registry.Wordy) : registry.Plain :=
  fun name hname => IsWord.plain (h name hname)

theorem isWord_of_isName {name : String} (h : EntityTable.isName name = true) :
    IsWord name.toList := by
  intro c hc
  rw [EntityTable.isName, Bool.and_eq_true, List.all_eq_true] at h
  have := h.2 c hc
  rw [Bool.or_eq_true, beq_iff_eq] at this
  exact this

theorem plain_of_isName {name : String} (h : EntityTable.isName name = true) : Plain name :=
  (isWord_of_isName h).plain

theorem Model.isProperty_of_mem {model : Model} {entries : List (String × PropertyType)}
    (hm : model.properties = .ofList entries) {name : String} (h : name ∈ entries.map (·.1)) :
    model.registry.isProperty name = true := by
  show model.properties.contains name = true
  rw [hm]
  exact Dict.contains_ofList h

theorem Model.exists_mem_of_isProperty {model : Model} {name : String}
    (h : model.registry.isProperty name = true) :
    ∃ type, (name, type) ∈ model.properties.entries := by
  obtain ⟨type, htype⟩ := Option.isSome_iff_exists.1 h
  exact ⟨type, Dict.mem_entries_iff.2 htype⟩

/-- The names of a model are plain if those that it lists are. -/
theorem Model.wordy {model : Model}
    (hmeta : ∀ name ∈ model.metaFields, EntityTable.isName name = true)
    (hproperties : ∀ e ∈ model.properties.entries, EntityTable.isName e.1 = true) :
    model.registry.Wordy := by
  rintro name (h | h) c hc
  · exact isWord_of_isName (hmeta name (List.contains_iff_mem.1 h)) c hc
  · obtain ⟨type, htype⟩ := exists_mem_of_isProperty h
    exact isWord_of_isName (hproperties (name, type) htype) c hc

theorem Model.wordy_bundled : Model.bundled.registry.Wordy := by
  refine Model.wordy (by decide) fun e he => ?_
  have hall : ∀ e ∈ Model.bundledProperties, EntityTable.isName e.1 = true := by decide +kernel
  exact hall e (Dict.mem_of_mem_entries_ofList he)

/-! ## Slugs -/

theorem Slug.mem_continued {owed : Bool} {cs : List Char} {c : Char} (h : c ∈ continued owed cs) :
    c.isAlphanum = true ∨ c = '_' := by
  induction cs generalizing owed with
  | nil => exact absurd h List.not_mem_nil
  | cons d cs ih =>
    rw [continued] at h
    by_cases hd : d.isAlphanum = true
    · rw [if_pos hd, List.mem_append] at h
      rcases h with h | h
      · cases owed <;> simp at h
        · rw [h]
          exact .inl hd
        · rcases h with rfl | rfl
          · exact .inr rfl
          · exact .inl hd
      · exact ih h
    · rw [if_neg hd] at h
      exact ih h

theorem Slug.mem_characters {cs : List Char} {c : Char} (h : c ∈ characters cs) :
    c.isAlphanum = true ∨ c = '_' := by
  induction cs with
  | nil => exact absurd h List.not_mem_nil
  | cons d cs ih =>
    rw [characters] at h
    split_ifs at h with hd
    · rcases List.mem_cons.1 h with rfl | h
      · exact .inl hd
      · exact mem_continued h
    · exact ih h

theorem isWord_slug (name : String) : IsWord (slug name).toList := by
  intro c hc
  rw [slug, String.toList_ofList] at hc
  exact Slug.mem_characters hc

/-- Two names are one name to a database: they differ in the case of ASCII letters at most. -/
def SameName (a b : String) : Prop := a.toList.map Char.toLower = b.toList.map Char.toLower

instance (a b : String) : Decidable (SameName a b) := by unfold SameName; infer_instance

/-! ## Fields -/

namespace Field

theorem isDotted_of_isPath {cs : List Char} (h : isPath cs = true) : IsDotted cs := by
  rw [isPath, List.all_eq_true] at h
  refine ⟨cs.splitOn '.', List.splitOn_ne_nil _ _, fun segment hs => ?_,
    (List.intercalate_splitOn '.').symm⟩
  have hsegment := h segment hs
  rw [isSegment, Bool.and_eq_true, List.all_eq_true] at hsegment
  refine ⟨by simpa using hsegment.1, fun c hc => ?_⟩
  simpa using hsegment.2 c hc

/-- All that a key can stand for: the mark of all properties, a name that is declared, or a path. -/
inductive Resolved (registry : Registry) : Field → Prop
  | column {name : String} : registry.isMeta name = true → Resolved registry (.column name)
  | datasets : Resolved registry .datasets
  | property {name : String} : name ≠ "" → registry.isProperty name = true →
      Resolved registry (.property name (registry.isNumeric name))
  | scalar {name path : String} : contextMark.isPrefixOf name.toList = true →
      IsDotted path.toList → Resolved registry (.scalar name path)
  | list {name path : String} : IsDotted path.toList → Resolved registry (.list name path)
  | reverse : Resolved registry .reverse

theorem resolved_of_extra {name : String} {f : Field} (h : extra? name = some f)
    (hmark : (contextMark.isPrefixOf name.toList || listMark.isSuffixOf name.toList) = true) :
    Resolved registry f := by
  simp only [extra?] at h
  split_ifs at h with hp hl
  · cases h
    exact .list (by simpa using isDotted_of_isPath hp)
  · cases h
    have hcontext := (Bool.or_eq_true _ _ ▸ hmark).resolve_right hl
    exact .scalar hcontext (by simpa using isDotted_of_isPath hp)

theorem resolved_of_declared {name : String} {f : Field} (h : declared? registry name = some f)
    (hne : name ≠ "") : Resolved registry f := by
  unfold declared? at h
  split_ifs at h with hm hd hp
  · cases h
    exact .datasets
  · cases h
    exact .column hm
  · cases h
    exact .property hne hp

theorem resolved_of_resolve {key : String} {f : Field} (h : resolve registry key = .ok f) :
    Resolved registry f := by
  unfold resolve at h
  cases ho : ofName? registry (Key.base key) with
  | none => simp [ho] at h
  | some field =>
    simp only [ho, Except.ok.injEq] at h
    subst h
    unfold ofName? at ho
    split_ifs at ho with he hreverse hmark
    · cases ho
      exact .reverse
    · exact resolved_of_extra ho hmark
    · exact resolved_of_declared ho (by simpa using he)

/-- The texts of a field in a statement hold no question mark. -/
structure Plain (f : Field) : Prop where
  reference : Text.Plain f.reference
  path : ∀ path, f.path? = some path → Text.Plain path
  name : ∀ name, f = .column name → Text.Plain name

theorem plain_column {name : String} (h : Text.Plain name) : (column name).Plain where
  reference := by
    have hrow : Text.Plain "t." := by decide
    exact hrow.append h
  path path hpath := by simp [path?] at hpath
  name _ heq := by
    cases heq
    exact h

theorem plain_extracted {f : Field} {path : String} (hf : f.path? = some path)
    (hpath : Text.Plain path) (hr : Text.Plain f.reference) : f.Plain where
  reference := hr
  path path' hpath' := by
    rw [hf] at hpath'
    cases hpath'
    exact hpath
  name name hname := by
    rw [hname] at hf
    simp [path?] at hf

/-- A field that is resolved by a registry of names without question marks is plain. -/
theorem plain_of_resolve_of_plain (hr : registry.Plain) {key : String} {f : Field}
    (h : Field.resolve registry key = .ok f) : f.Plain := by
  have hpath : ∀ path : String, IsDotted path.toList → Text.Plain path :=
    fun path hpath => question_not_mem fun c hc => hpath.mem hc
  cases resolved_of_resolve h with
  | column hmeta => exact plain_column (hr _ (.inl hmeta))
  | datasets => exact plain_extracted rfl (by decide) (by decide)
  | property _ hproperty =>
    have hproperties : Text.Plain "properties." := by decide
    exact plain_extracted rfl (hproperties.append (hr _ (.inr hproperty))) (isWord_slug _).plain
  | scalar _ hdotted => exact plain_extracted rfl (hpath _ hdotted) (isWord_slug _).plain
  | list hdotted => exact plain_extracted rfl (hpath _ hdotted) (isWord_slug _).plain
  | reverse => exact ⟨by decide, by simp [path?], by simp⟩

/-- A field that is resolved by a registry of words is plain. -/
theorem plain_of_resolve (hr : registry.Wordy) {key : String} {f : Field}
    (h : Field.resolve registry key = .ok f) : f.Plain :=
  plain_of_resolve_of_plain hr.plain h

/-- The slug of a name with the context mark begins with the word. -/
theorem slug_of_contextMark {name : String} (h : contextMark.isPrefixOf name.toList = true) :
    ['c', 'o', 'n', 't', 'e', 'x', 't'] <+: (slug name).toList := by
  obtain ⟨rest, hrest⟩ := List.isPrefixOf_iff_prefix.1 h
  rw [slug, String.toList_ofList, ← hrest]
  exact ⟨Slug.continued true rest, by simp [contextMark, Slug.characters, Slug.continued]⟩

theorem contextMark_of_scalar {key name path : String}
    (h : resolve registry key = .ok (.scalar name path)) :
    contextMark.isPrefixOf name.toList = true := by
  cases resolved_of_resolve h with
  | scalar hmark => exact hmark

end Field

end EntityQuery
