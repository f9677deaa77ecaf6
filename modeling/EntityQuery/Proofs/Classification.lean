import Mathlib.Tactic
import EntityQuery.Proofs.LookupLanguage

/-!
# Kinds of names

A key is the name of a field, with an operator after it or without one, and the field depends on the
name alone. A name stands for any property, for what a registry declares under it, or, if it has a
mark, for an extra member of the entity document.

* `Field.Marked`, `Field.Remains`: the marks of a name, and what remains without them;
* `Field.Declared`, `Field.Extra`, `Field.Classified`: the names that stand for a field, and its
  kind, path and comparison;
* `Model.resolve_declared`: what a document declares as a property is one;
* **`Field.classified_by_name`**: exactly these names stand for fields, and for fields as they say.
-/

namespace EntityQuery

open Text

variable {registry : Registry} {name : String} {path : List Char} {f : Field}

namespace Field

/-! ## Marks -/

/-- The name begins with the context mark or ends with the list mark. -/
def Marked (name : String) : Prop := contextMark <+: name.toList ∨ listMark <:+ name.toList

instance : Decidable (Marked name) := by unfold Marked; infer_instance

/-- What remains of a name without the context mark that it begins with, if it does, and the list
mark that it ends with, if it does. -/
def Remains (name : String) (path : List Char) : Prop :=
  name.toList = (if contextMark <+: name.toList then contextMark else []) ++ path ++
    if listMark <:+ name.toList then listMark else []

theorem marked_iff : (contextMark.isPrefixOf name.toList || listMark.isSuffixOf name.toList) = true ↔
    Marked name := by
  rw [Bool.or_eq_true, List.isPrefixOf_iff_prefix, List.isSuffixOf_iff_suffix, Marked]

/-- The marks have no character in common, so the list mark is after the context mark. -/
theorem listMark_suffix_iff {cs : List Char} :
    listMark <:+ contextMark ++ cs ↔ listMark <:+ cs := by
  constructor
  · rintro ⟨before, h⟩
    rcases List.append_eq_append_iff.1 h with ⟨between, hmark, hlist⟩ | ⟨between, -, hcs⟩
    · cases between with
      | nil => exact ⟨[], hlist⟩
      | cons c between =>
        obtain ⟨rfl, -⟩ := List.cons_eq_cons.1 hlist
        have hmem : '[' ∈ contextMark := by simp [hmark]
        exact absurd hmem (by decide)
    · exact ⟨between, hcs.symm⟩
  · exact fun h => h.trans (List.suffix_append _ _)

theorem withoutListMark_eq_iff {cs : List Char} : withoutListMark cs = path ↔
    cs = path ++ if listMark <:+ cs then listMark else [] := by
  rw [withoutListMark]
  by_cases h : listMark <:+ cs
  · obtain ⟨before, rfl⟩ := h
    simp [List.isSuffixOf_iff_suffix]
  · rw [if_neg (by simpa [List.isSuffixOf_iff_suffix] using h), if_neg h, List.append_nil]

/-- A name remains in one way. -/
theorem remains_iff :
    Remains name path ↔ withoutListMark (withoutContextMark name.toList) = path := by
  rw [withoutListMark_eq_iff, Remains, withoutContextMark]
  by_cases h : contextMark <+: name.toList
  · obtain ⟨after, hname⟩ := h
    rw [← hname, if_pos (List.isPrefixOf_iff_prefix.2 (List.prefix_append _ _)),
      if_pos (List.prefix_append _ _), List.drop_left, List.append_assoc,
      List.append_cancel_left_eq]
    simp only [listMark_suffix_iff]
  · have hprefix : ¬ contextMark.isPrefixOf name.toList = true := by
      rwa [List.isPrefixOf_iff_prefix]
    rw [if_neg h, if_neg hprefix, List.nil_append]

theorem isPath_iff : isPath path = true ↔ IsDotted path := by
  refine ⟨isDotted_of_isPath, ?_⟩
  rintro ⟨segments, hne, hsegments, rfl⟩
  have hpoint : ∀ segment ∈ segments, '.' ∉ segment := by
    intro segment hs hmem
    rcases (hsegments segment hs).2 '.' hmem with h | h <;> exact absurd h (by decide)
  rw [isPath, List.splitOn_intercalate '.' hpoint hne, List.all_eq_true]
  intro segment hs
  obtain ⟨hnil, hword⟩ := hsegments segment hs
  rw [isSegment, Bool.and_eq_true, List.all_eq_true]
  refine ⟨by simpa using hnil, fun c hc => ?_⟩
  simpa using hword c hc

/-! ## Names that stand for fields -/

/-- The name has no mark and is that of a meta field or a property. -/
def Declared (registry : Registry) (name : String) : Prop :=
  ¬ Marked name ∧ (registry.isMeta name = true ∨ registry.isProperty name = true)

/-- The name has a mark, and what remains of it is words with points between them. -/
def Extra (name : String) : Prop := Marked name ∧ ∃ path, Remains name path ∧ IsDotted path

/-- The kind of the field that a name stands for, the path of its values and whether these are
compared as numbers. -/
inductive Classified (registry : Registry) (name : String) :
    FieldKind → Option String → Bool → Prop
  | reverse : name = "reverse" → Classified registry name .reverse none false
  | datasets : name = "dataset" → registry.isMeta name = true →
      Classified registry name .list (some "datasets") false
  | column : name ≠ "" → name ≠ "reverse" → name ≠ "dataset" → ¬ Marked name →
      registry.isMeta name = true → Classified registry name .column none false
  | property : name ≠ "" → name ≠ "reverse" → ¬ Marked name → registry.isMeta name = false →
      registry.isProperty name = true →
      Classified registry name .property (some ("properties." ++ name)) (registry.isNumeric name)
  | scalar {path : List Char} : contextMark <+: name.toList → ¬ listMark <:+ name.toList →
      Remains name path → IsDotted path →
      Classified registry name .scalar (some (String.ofList path)) false
  | list {path : List Char} : listMark <:+ name.toList → Remains name path → IsDotted path →
      Classified registry name .list (some (String.ofList path)) false

theorem ofName?_marked (h : Marked name) : ofName? registry name = extra? name := by
  have hne : name ≠ "" := by
    rintro rfl
    exact absurd h (by decide)
  have hreverse : name ≠ reverseName := by
    rintro rfl
    exact absurd h (by decide)
  rw [ofName?, if_neg (by simpa using hne), if_neg (by simpa using hreverse),
    if_pos (marked_iff.2 h)]

theorem ofName?_unmarked (h : ¬ Marked name) (hne : name ≠ "") (hreverse : name ≠ reverseName) :
    ofName? registry name = declared? registry name := by
  rw [ofName?, if_neg (by simpa using hne), if_neg (by simpa using hreverse),
    if_neg (by rwa [marked_iff])]

theorem extra?_eq_some_iff : extra? name = some f ↔ ∃ path, Remains name path ∧ IsDotted path ∧
    f = if listMark <:+ name.toList then .list name (String.ofList path)
      else .scalar name (String.ofList path) := by
  simp only [remains_iff, exists_eq_left', ← isPath_iff]
  rw [extra?]
  cases isPath (withoutListMark (withoutContextMark name.toList)) with
  | false => simp
  | true =>
    simp only [if_true, List.isSuffixOf_iff_suffix]
    split_ifs <;> simp [eq_comm]

theorem declared?_eq_some_iff : declared? registry name = some f ↔
    (registry.isMeta name = true ∧ f = if name = "dataset" then .datasets else .column name) ∨
    (registry.isMeta name = false ∧ registry.isProperty name = true ∧
      f = .property name (registry.isNumeric name)) := by
  rw [declared?, datasetName]
  cases registry.isMeta name with
  | true =>
    simp only [if_true, beq_iff_eq]
    split_ifs <;> simp [eq_comm (a := f)]
  | false => cases registry.isProperty name <;> simp [eq_comm (a := f)]

/-- A field is classified as its name says. -/
theorem classified_of_ofName? (h : ofName? registry name = some f) :
    f.name = name ∧ Classified registry name f.kind f.path? f.isNumeric := by
  -- neither the empty name nor `reverse` has a mark, so names with marks can be told apart first
  by_cases hmark : Marked name
  · rw [ofName?_marked hmark, extra?_eq_some_iff] at h
    obtain ⟨path, hpath, hdotted, rfl⟩ := h
    split_ifs with hlist
    · exact ⟨rfl, .list hlist hpath hdotted⟩
    · exact ⟨rfl, .scalar (hmark.resolve_right hlist) hlist hpath hdotted⟩
  by_cases hne : name = ""
  · rw [ofName?, if_pos (by simp [hne])] at h
    cases h
  by_cases hreverse : name = reverseName
  · rw [ofName?, if_neg (by simpa using hne), if_pos (by simpa using hreverse)] at h
    cases h
    exact ⟨hreverse.symm, .reverse hreverse⟩
  rw [ofName?_unmarked hmark hne hreverse, declared?_eq_some_iff] at h
  rcases h with ⟨hmeta, rfl⟩ | ⟨hmeta, hproperty, rfl⟩
  · split_ifs with hdataset
    · exact ⟨hdataset.symm, .datasets hdataset hmeta⟩
    · exact ⟨rfl, .column hne hreverse hdataset hmark hmeta⟩
  · exact ⟨rfl, .property hne hreverse hmark hmeta hproperty⟩

/-- A name that is classified stands for a field. -/
theorem exists_ofName?_of_classified {kind : FieldKind} {path : Option String} {numeric : Bool}
    (h : Classified registry name kind path numeric) : ∃ f, ofName? registry name = some f ∧
      f.kind = kind ∧ f.path? = path ∧ f.isNumeric = numeric := by
  cases h with
  | reverse hname =>
    subst hname
    exact ⟨.reverse, rfl, rfl, rfl, rfl⟩
  | datasets hname hmeta =>
    subst hname
    refine ⟨.datasets, ?_, rfl, rfl, rfl⟩
    rw [ofName?_unmarked (by decide) (by decide) (by decide), declared?_eq_some_iff]
    exact .inl ⟨hmeta, rfl⟩
  | column hne hreverse hdataset hmark hmeta =>
    refine ⟨.column name, ?_, rfl, rfl, rfl⟩
    rw [ofName?_unmarked hmark hne hreverse, declared?_eq_some_iff, if_neg hdataset]
    exact .inl ⟨hmeta, rfl⟩
  | property hne hreverse hmark hmeta hproperty =>
    refine ⟨.property name (registry.isNumeric name), ?_, rfl, rfl, rfl⟩
    rw [ofName?_unmarked hmark hne hreverse, declared?_eq_some_iff]
    exact .inr ⟨hmeta, hproperty, rfl⟩
  | @scalar path hcontext hlist hpath hdotted =>
    refine ⟨.scalar name (String.ofList path), ?_, rfl, rfl, rfl⟩
    rw [ofName?_marked (.inl hcontext), extra?_eq_some_iff]
    exact ⟨path, hpath, hdotted, by rw [if_neg hlist]⟩
  | @list path hlist hpath hdotted =>
    refine ⟨.list name (String.ofList path), ?_, rfl, rfl, rfl⟩
    rw [ofName?_marked (.inr hlist), extra?_eq_some_iff]
    exact ⟨path, hpath, hdotted, by rw [if_pos hlist]⟩

/-- Names stand for fields if they are classified. -/
theorem exists_classified_iff : (∃ kind path numeric, Classified registry name kind path numeric) ↔
    name ≠ "" ∧ (name = "reverse" ∨ Declared registry name ∨ Extra name) := by
  constructor
  · rintro ⟨kind, path, numeric, h⟩
    cases h with
    | reverse hname =>
      subst hname
      exact ⟨by decide, .inl rfl⟩
    | datasets hname hmeta =>
      subst hname
      exact ⟨by decide, .inr (.inl ⟨by decide, .inl hmeta⟩)⟩
    | column hne _ _ hmark hmeta => exact ⟨hne, .inr (.inl ⟨hmark, .inl hmeta⟩)⟩
    | property hne _ hmark _ hproperty => exact ⟨hne, .inr (.inl ⟨hmark, .inr hproperty⟩)⟩
    | scalar hcontext _ hpath hdotted =>
      refine ⟨?_, .inr (.inr ⟨.inl hcontext, _, hpath, hdotted⟩)⟩
      rintro rfl
      exact absurd hcontext (by decide)
    | list hlist hpath hdotted =>
      refine ⟨?_, .inr (.inr ⟨.inr hlist, _, hpath, hdotted⟩)⟩
      rintro rfl
      exact absurd hlist (by decide)
  · rintro ⟨hne, h⟩
    by_cases hreverse : name = "reverse"
    · exact ⟨_, _, _, .reverse hreverse⟩
    rcases h with h | ⟨hmark, h⟩ | ⟨hmark, path, hpath, hdotted⟩
    · exact absurd h hreverse
    · cases hmeta : registry.isMeta name with
      | true =>
        by_cases hdataset : name = "dataset"
        · exact ⟨_, _, _, .datasets hdataset hmeta⟩
        · exact ⟨_, _, _, .column hne hreverse hdataset hmark hmeta⟩
      | false =>
        rw [hmeta] at h
        exact ⟨_, _, _, .property hne hreverse hmark hmeta (h.resolve_left Bool.false_ne_true)⟩
    · by_cases hlist : listMark <:+ name.toList
      · exact ⟨_, _, _, .list hlist hpath hdotted⟩
      · exact ⟨_, _, _, .scalar (hmark.resolve_right hlist) hlist hpath hdotted⟩

end Field

/-! ## Models -/

/-- A model that is read has the properties that its document declares, and none of them is a meta
field. -/
theorem Model.properties_of_ofText {text : String} {model : Model} (h : ofText text = .ok model) :
    ∃ schemata metaFields, declared? text = some (schemata, model.properties, metaFields) ∧
      ∀ name, model.properties.contains name = true → model.registry.isMeta name = false := by
  rw [ofText] at h
  split at h
  · cases h
  · rename_i schemata properties metaFields hdeclared
    split_ifs at h
    dsimp only at h
    split at h
    · cases h
    · rename_i hnone
      cases h
      refine ⟨schemata, metaFields, hdeclared, fun name hname => ?_⟩
      have hmeta := List.find?_eq_none.1 hnone name (Dict.mem_keys_iff.2 hname)
      exact Bool.eq_false_iff.2 hmeta

/-- What a document declares as a property is one, unless its name is read in another way. -/
theorem Model.resolve_declared {text : String} {model : Model} (h : ofText text = .ok model)
    {type : PropertyType} (hname : model.properties.get? name = some type) (hne : name ≠ "")
    (hreverse : name ≠ "reverse") (hdivided : ¬ Key.Divided name) (hmark : ¬ Field.Marked name) :
    Field.resolve model.registry name = .ok (.property name type.isNumeric) := by
  have hproperty : model.registry.isProperty name = true := by
    show (model.properties.get? name).isSome = true
    rw [hname]
    rfl
  have hnumeric : model.registry.isNumeric name = type.isNumeric := by
    show (model.properties.get? name).any PropertyType.isNumeric = _
    rw [hname]
    rfl
  obtain ⟨_, _, -, hmeta⟩ := properties_of_ofText h
  rw [Field.resolve_eq_ok_iff (.bare hdivided), Field.ofName?_unmarked hmark hne hreverse,
    Field.declared?_eq_some_iff, ← hnumeric]
  exact .inr ⟨hmeta name hproperty, hproperty, rfl⟩

namespace Field

/-- **Exactly the names that are classified stand for fields, and for fields as they say.** A key is
resolved if and only if its name is `reverse`, has no mark and is declared, or has a mark and
remains as words with points between them. The field has the kind, the path and the comparison that
the name has; it is the same for all keys with that name, and a refusal carries the whole key. What
a model document declares as a property is one, unless its name is empty, `reverse`, divided or
marked. -/
theorem classified_by_name (registry : Registry) (key : String) :
    (∃ name token, Key.Reads key name token ∧
      ((∃ f, resolve registry key = .ok f) ↔
        name ≠ "" ∧ (name = "reverse" ∨ Declared registry name ∨ Extra name)) ∧
      (∀ kind path numeric, Classified registry name kind path numeric ↔
        ∃ f, resolve registry key = .ok f ∧ f.name = name ∧ f.kind = kind ∧ f.path? = path ∧
          f.isNumeric = numeric) ∧
      (∀ key' token', Key.Reads key' name token' →
        ∀ f, resolve registry key' = .ok f ↔ resolve registry key = .ok f) ∧
      ∀ e, resolve registry key = .error e → e = .invalidField key) ∧
    ∀ text model schemata properties metaFields, Model.ofText text = .ok model →
      Model.declared? text = some (schemata, properties, metaFields) →
        ∀ name type, properties.get? name = some type → name ≠ "" → name ≠ "reverse" →
          ¬ Key.Divided name → ¬ Marked name →
            resolve model.registry name = .ok (.property name type.isNumeric) := by
  have hk := Key.reads_self key
  refine ⟨⟨_, _, hk, ?_, ?_, ?_, fun e he => ((resolve_eq_error_iff hk).1 he).2⟩, ?_⟩
  · rw [← exists_classified_iff]
    simp only [resolve_eq_ok_iff hk]
    constructor
    · rintro ⟨f, hf⟩
      exact ⟨_, _, _, (classified_of_ofName? hf).2⟩
    · rintro ⟨kind, path, numeric, h⟩
      obtain ⟨f, hf, -⟩ := exists_ofName?_of_classified h
      exact ⟨f, hf⟩
  · intro kind path numeric
    simp only [resolve_eq_ok_iff hk]
    constructor
    · intro h
      obtain ⟨f, hf, hkind, hpath, hnumeric⟩ := exists_ofName?_of_classified h
      exact ⟨f, hf, (classified_of_ofName? hf).1, hkind, hpath, hnumeric⟩
    · rintro ⟨f, hf, -, rfl, rfl, rfl⟩
      exact (classified_of_ofName? hf).2
  · intro key' token' hk' f
    rw [resolve_eq_ok_iff hk', resolve_eq_ok_iff hk]
  · intro text model schemata properties metaFields hmodel hdeclared name type hname
    obtain ⟨_, _, hread, -⟩ := Model.properties_of_ofText hmodel
    rw [hdeclared, Option.some.injEq, Prod.mk.injEq, Prod.mk.injEq] at hread
    rw [hread.2.1] at hname
    exact Model.resolve_declared hmodel hname

/-- A list of extra values that is asked for with an operator, and a property of a model document
that declares one called `reverse` too. -/
theorem marked_and_declared_names :
    (∃ f, resolve Model.bundled.registry "context.a.b[]__in" = .ok f ∧ f.name = "context.a.b[]" ∧
      f.kind = .list ∧ f.path? = some "a.b" ∧ f.isNumeric = false) ∧
    ∃ model, Model.ofText "\x7b\"properties\":\x7b\"amount\":\"number\",\"reverse\":\"name\"\x7d\x7d" =
        .ok model ∧ model.registry.isProperty "reverse" = true ∧
      resolve model.registry "amount" = .ok (.property "amount" true) := by
  obtain ⟨⟨name, token, hk, -, hclassified, -⟩, hdeclared⟩ :=
    classified_by_name Model.bundled.registry "context.a.b[]__in"
  constructor
  · have hname : name = "context.a.b[]" := (Key.reads_iff.1 hk).1.trans (by decide)
    subst hname
    exact (hclassified .list (some "a.b") false).1
      (.list (by decide) (remains_iff.2 (by decide)) (isPath_iff.1 (by decide)))
  · obtain ⟨text, htext⟩ : ∃ text : String, text =
        "\x7b\"properties\":\x7b\"amount\":\"number\",\"reverse\":\"name\"\x7d\x7d" := ⟨_, rfl⟩
    rw [← htext]
    have hread : (match Model.ofText text with
        | .ok model => model.registry.isProperty "reverse"
        | .error _ => false) = true := by
      rw [htext]
      decide +kernel
    have hparts : (match Model.declared? text with
        | some (_, properties, _) => properties.get? "amount" == some .number
        | none => false) = true := by
      rw [htext]
      decide +kernel
    have hdivided : ¬ Key.Divided "amount" := by
      rw [← Key.isDivided_iff]
      decide
    split at hread
    · rename_i model hmodel
      split at hparts
      · rename_i hparts'
        exact ⟨model, hmodel, hread, hdeclared text model _ _ _ hmodel hparts' "amount" .number
          (beq_iff_eq.1 hparts) (by decide) (by decide) hdivided (by decide)⟩
      · cases hparts
    · cases hread

end Field

end EntityQuery
