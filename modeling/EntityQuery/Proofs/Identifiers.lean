import Mathlib.Tactic
import EntityQuery.Proofs.Classification
import EntityQuery.Proofs.Injection

/-!
# Identifiers

Extracted values are selected under the slug of a name, which begins with the first letter or digit
of the name. It is an identifier where that is a letter. Names of properties begin with a letter,
and so does the context mark; but a list of extra values may be named by digits or underscores only.

* `Text.IsIdentifier`, `Registry.Lettered`: identifiers, and registries whose properties have them
  as names;
* `Slug.head?_characters`: where a slug begins;
* **`Field.reference_identifier_iff`**: where the name of extracted values is an identifier.
-/

namespace EntityQuery

open Text

variable {registry : Registry} {key name : String} {token : Option String} {f : Field}

/-! ## Identifiers -/

/-- A letter, and then letters, digits and underscores. -/
def Text.IsIdentifier (cs : List Char) : Prop :=
  ∃ c rest, cs = c :: rest ∧ c.isAlpha = true ∧ IsWord rest

/-- All properties have identifiers as their names. -/
def Registry.Lettered (registry : Registry) : Prop :=
  ∀ name, registry.isProperty name = true → IsIdentifier name.toList

theorem isAlphanum_of_isAlpha {c : Char} (h : c.isAlpha = true) : c.isAlphanum = true := by
  rw [Char.isAlphanum, h, Bool.true_or]

theorem isIdentifier_iff {cs : List Char} (h : IsWord cs) :
    IsIdentifier cs ↔ ∃ c, cs.head? = some c ∧ c.isAlpha = true := by
  constructor
  · rintro ⟨c, rest, rfl, hc, -⟩
    exact ⟨c, rfl, hc⟩
  · rintro ⟨c, hhead, hc⟩
    obtain ⟨rest, rfl⟩ := List.head?_eq_some_iff.1 hhead
    exact ⟨c, rest, rfl, hc, fun d hd => h d (List.mem_cons_of_mem _ hd)⟩

/-- The first letter or digit of an identifier is its first letter. -/
theorem Text.IsIdentifier.find? {cs : List Char} (h : IsIdentifier cs) :
    ∃ c, cs.find? Char.isAlphanum = some c ∧ c.isAlpha = true := by
  obtain ⟨c, rest, rfl, hc, -⟩ := h
  exact ⟨c, by rw [List.find?_cons, isAlphanum_of_isAlpha hc], hc⟩

theorem Model.lettered_bundled : Model.bundled.registry.Lettered := by
  intro name h
  have hall : ∀ e ∈ Model.bundledProperties, EntityTable.isName e.1 = true ∧
      (e.1.toList.head?).any Char.isAlpha = true := by decide +kernel
  obtain ⟨type, htype⟩ := exists_mem_of_isProperty h
  obtain ⟨hname, hhead⟩ := hall _ (Dict.mem_of_mem_entries_ofList htype)
  exact (isIdentifier_iff (isWord_of_isName hname)).2 ((Option.any_eq_true _ _).1 hhead)

/-! ## Slugs -/

/-- A slug begins with the first letter or digit of the name. -/
theorem Slug.head?_characters (cs : List Char) :
    (characters cs).head? = cs.find? Char.isAlphanum := by
  induction cs with
  | nil => rfl
  | cons c cs ih =>
    rw [characters, List.find?_cons]
    cases c.isAlphanum with
    | true => rfl
    | false => exact ih

theorem head?_slug (name : String) :
    (slug name).toList.head? = name.toList.find? Char.isAlphanum := by
  rw [slug, String.toList_ofList, Slug.head?_characters]

namespace Field

/-- Extracted values are selected under a word that begins with the first letter or digit of the
name. -/
theorem head?_reference {path : String} (h : f.path? = some path) :
    f.reference.toList.head? = f.name.toList.find? Char.isAlphanum := by
  cases f with
  | column | reverse => cases h
  | datasets => decide
  | property | scalar | list => exact head?_slug _

theorem find?_of_contextMark (h : contextMark <+: name.toList) :
    name.toList.find? Char.isAlphanum = some 'c' := by
  obtain ⟨rest, hrest⟩ := h
  rw [← hrest]
  rfl

/-- **Extracted values are selected under an identifier if the first letter or digit of the name is
a letter, and only then.** The word that they are selected under begins with just this character, or
is empty if there is none. It is a letter for each name of a property, for the list of datasets and
after the context mark, so that no names but those of lists without the context mark are left. -/
theorem reference_identifier_iff (hr : registry.Lettered) (hk : Key.Reads key name token)
    (h : resolve registry key = .ok f) {expression : String}
    (hx : f.expression? = some expression) :
    IsWord f.reference.toList ∧
    f.reference.toList.head? = name.toList.find? Char.isAlphanum ∧
    (IsIdentifier f.reference.toList ↔
      ∃ c, name.toList.find? Char.isAlphanum = some c ∧ c.isAlpha = true) ∧
    (contextMark <+: name.toList ∨ ¬ listMark <:+ name.toList →
      IsIdentifier f.reference.toList) := by
  obtain ⟨path, hpath, -⟩ := Option.map_eq_some_iff.1 hx
  obtain ⟨hname, hclassified⟩ := classified_of_ofName? ((resolve_eq_ok_iff hk).1 h)
  have hword := (resolved_of_resolve h).isWord_reference hpath
  have hhead := head?_reference hpath
  rw [hname] at hhead
  have hiff := isIdentifier_iff hword
  rw [hhead] at hiff
  refine ⟨hword, hhead, hiff, fun hmark => hiff.2 ?_⟩
  rcases hmark with hmark | hmark
  · exact ⟨'c', find?_of_contextMark hmark, by decide⟩
  rw [hpath] at hclassified
  generalize f.kind = kind, f.isNumeric = numeric at hclassified
  cases hclassified with
  | datasets hdataset =>
    subst hdataset
    exact ⟨'d', by decide, by decide⟩
  | property _ _ _ _ hproperty => exact (hr name hproperty).find?
  | scalar hcontext => exact ⟨'c', find?_of_contextMark hcontext, by decide⟩
  | list hlist => exact absurd hlist hmark

/-- A list with the context mark is selected under an identifier, though digits come after it. -/
theorem context_list_identifier : ∃ f, Model.bundled.registry.Lettered ∧
    Key.Reads "context.2024[]__in" "context.2024[]" (some "in") ∧
    resolve Model.bundled.registry "context.2024[]__in" = .ok f ∧
    f.expression? = some "json_extract(t.entity, '$.2024')" ∧ f.reference = "context_2024" ∧
    IsIdentifier f.reference.toList := by
  have hk : Key.Reads "context.2024[]__in" "context.2024[]" (some "in") :=
    Key.reads_iff.2 (by decide)
  have hf : resolve Model.bundled.registry "context.2024[]__in" =
      .ok (.list "context.2024[]" "2024") := rfl
  have hx : (Field.list "context.2024[]" "2024").expression? =
      some "json_extract(t.entity, '$.2024')" := rfl
  obtain ⟨-, -, -, hmarked⟩ := reference_identifier_iff Model.lettered_bundled hk hf hx
  exact ⟨_, Model.lettered_bundled, hk, hf, hx, by decide, hmarked (.inl (by decide))⟩

/-- A list that is named by digits is selected under a number, and one that is named by underscores
under no name at all: the values of it are selected as nothing, and looked for in nothing. -/
theorem nameless_lists_selected : Model.bundled.registry.Lettered ∧
    (∃ f, resolve Model.bundled.registry "1[]" = .ok f ∧
      f.expression? = some "json_extract(t.entity, '$.1')" ∧ f.reference = "1" ∧
      ¬ IsIdentifier f.reference.toList) ∧
    (∃ f, resolve Model.bundled.registry "_[]" = .ok f ∧
      f.expression? = some "json_extract(t.entity, '$._')" ∧ f.reference = "" ∧
      ¬ IsIdentifier f.reference.toList) ∧
    ∃ q, (Query.new "ftm" Model.bundled.registry).filter "_[]" (.text "x") = .ok q ∧
      q.sql = "SELECT t.id, t.schema, t.entity, json_extract(t.entity, '$._') AS  FROM ftm t " ++
        "WHERE (EXISTS (SELECT 1 FROM json_each() WHERE value = ?))" := by
  have hdigit : ¬ IsIdentifier ['1'] := by
    rintro ⟨c, rest, h, hc, -⟩
    obtain ⟨rfl, -⟩ := List.cons_eq_cons.1 h
    exact absurd hc (by decide)
  have hempty : ¬ IsIdentifier [] := by
    rintro ⟨c, rest, h, -⟩
    cases h
  exact ⟨Model.lettered_bundled, ⟨.list "1[]" "1", rfl, rfl, by decide, hdigit⟩,
    ⟨.list "_[]" "_", rfl, rfl, by decide, hempty⟩, _, rfl, by decide⟩

end Field

end EntityQuery
