import Mathlib.Tactic
import EntityQuery.Proofs.Closed
import EntityQuery.Proofs.Names

/-!
# Captured names

A database takes names that differ in the case of their letters only for one name, and prefers a
column of a source to a selected name. So a selected name is read as something else where a source
at hand has a column of that name, and where two extractions go by one name but for case.

* `Select.Uncaptured`: no selected name that is referred to is read as something else;
* `Search.Separate`: no bare name in use is slugged to a column at hand, and no two fields in use
  are extracted in two ways under names that are one but for case;
* **`uncaptured_iff_separate`**: the statements of reachable searches and queries are uncaptured
  exactly where their fields are separate;
* `bundled_sameName_iff`, `alias_captured`: they need not be, under the bundled model.
-/

namespace EntityQuery

variable {table : String} {registry : Registry}

namespace Select

/-- The columns of an entity table. -/
def entityColumns : List String := ["id", "schema", "dataset", "entity"]

/-- The columns of the rows that are made of a JSON list or object. -/
def jsonColumns : List String :=
  ["key", "value", "type", "atom", "id", "parent", "fullkey", "path", "json", "root"]

/-- The columns of the index besides the id. -/
def indexColumns : List String := ["text", "rank"]

/-- The columns of a source. -/
def Source.columns : Source → List String
  | .entities _ => entityColumns
  | .found _ => indexColumns ++ entityColumns
  | .properties => jsonColumns

/-- The columns of all sources. -/
def columns (s : Select) : List String := s.sources.flatMap Source.columns

/-- The selected names that a condition refers to, each with the columns at hand there. In the
condition on the values of a list these are the columns of the list, too. -/
def Condition.uses (outer : List String) : Condition → List (String × List String)
  | .compare subject _ _ => subject.names.map (·, outer)
  | .anyOf list subject _ _ => (list.names ++ subject.names).map (·, jsonColumns ++ outer)
  | .found _ => []

/-- The selected names that a tree refers to, each with the columns at hand there. -/
def uses (s : Select) : List (String × List String) :=
  s.conditions.flatMap (Condition.uses s.columns) ++
    s.ordered.flatMap fun e => e.names.map (·, s.columns)

/-- No selected name that is referred to is the name of a column at hand or of another
extraction. -/
structure Uncaptured (s : Select) : Prop where
  columns : ∀ use ∈ s.uses, ∀ column ∈ use.2, ¬ SameName use.1 column
  items : ∀ use ∈ s.uses, ∀ item ∈ s.items, item.name = some use.1 →
    ∀ other ∈ s.items, other.expression ≠ item.expression → ∀ name, other.name = some name →
      ¬ SameName use.1 name

end Select

/-! ## Fields -/

namespace Field

/-- The field is selected under the slug of a name without the context mark: a property, or a list
that is marked by its brackets only. -/
def IsBare : Field → Prop
  | .property _ _ => True
  | .list name _ => contextMark.isPrefixOf name.toList = false
  | .column _ | .datasets | .scalar _ _ | .reverse => False

instance : DecidablePred IsBare
  | .property _ _ => .isTrue trivial
  | .list _ _ => inferInstanceAs (Decidable (_ = _))
  | .column _ | .datasets | .scalar _ _ | .reverse => .isFalse id

theorem IsBare.isMultivalued {f : Field} (h : f.IsBare) : f.isMultivalued = true := by
  cases f with
  | property | list => rfl
  | column | datasets | scalar | reverse => exact absurd h id

theorem IsBare.isSome_path? {f : Field} (h : f.IsBare) : f.path?.isSome := by
  cases f with
  | property | list => rfl
  | column | datasets | scalar | reverse => exact absurd h id

/-- A name that begins with the context mark's word is not the name of a column. -/
theorem not_sameName_of_context {name : String}
    (h : ['c', 'o', 'n', 't', 'e', 'x', 't'] <+: name.toList) {column : String}
    (hc : column ∈ Select.jsonColumns ++ Select.entityColumns ++ Select.indexColumns) :
    ¬ SameName name column := by
  intro hsame
  obtain ⟨rest, hrest⟩ := h
  have htake : (column.toList.map Char.toLower).take 7 = ['c', 'o', 'n', 't', 'e', 'x', 't'] := by
    rw [← hsame, ← hrest]
    rfl
  have hall : ∀ column ∈ Select.jsonColumns ++ Select.entityColumns ++ Select.indexColumns,
      (column.toList.map Char.toLower).take 7 ≠ ['c', 'o', 'n', 't', 'e', 'x', 't'] := by decide
  exact hall column hc htake

/-- Only bare fields are selected under the name of a column. -/
theorem not_sameName_of_not_isBare {key : String} {f : Field}
    (h : resolve registry key = .ok f) (hf : ¬ f.IsBare) (hp : f.path?.isSome) {column : String}
    (hc : column ∈ Select.jsonColumns ++ Select.entityColumns ++ Select.indexColumns) :
    ¬ SameName f.reference column := by
  cases f with
  | column | reverse => simp [path?] at hp
  | datasets => exact (by decide : ∀ column ∈ Select.jsonColumns ++ Select.entityColumns ++
      Select.indexColumns, ¬ SameName "datasets" column) column hc
  | property => exact absurd trivial hf
  | scalar name path =>
    exact not_sameName_of_context (slug_of_contextMark (contextMark_of_scalar h)) hc
  | list name path =>
    exact not_sameName_of_context (slug_of_contextMark (Bool.not_eq_false _ ▸ hf)) hc

end Field

namespace Lookup

theorem uses_condition (key : String) (l : Lookup) (outer : List String) :
    (l.condition key).uses outer = l.predicate.field.expression.names.map
      (·, if l.predicate.field.isMultivalued then Select.jsonColumns ++ outer else outer) := by
  simp only [condition]
  cases l.predicate.field.isMultivalued with
  | false => rfl
  | true =>
    have helement : (if l.predicate.field.isNumeric then Select.Expression.number .element
        else .element).names = [] := by
      cases l.predicate.field.isNumeric <;> rfl
    rw [if_pos rfl, if_pos rfl, Select.Condition.uses, helement, List.append_nil]

end Lookup

/-! ## Searches -/

namespace Field

theorem extraction_injective : Function.Injective extraction := by
  intro a b h
  have hlist : ("json_extract(t.entity, '$." ++ a ++ "')").toList =
      ("json_extract(t.entity, '$." ++ b ++ "')").toList := congrArg String.toList h
  rw [String.toList_append, String.toList_append, String.toList_append, String.toList_append]
    at hlist
  exact String.toList_inj.1 (List.append_cancel_left (List.append_cancel_right hlist))

end Field

theorem Query.mem_paths {q : Query} (h : q.Sound table registry) {reference path : String} :
    (reference, path) ∈ q.paths.entries ↔
      ∃ f ∈ q.fields, f.reference = reference ∧ f.path? = some path := by
  have hmem : (reference, path) ∈ q.paths.entries ↔
      (reference, Field.extraction path) ∈ q.extractions.entries := by
    rw [Search.entries_extractions, List.mem_map]
    constructor
    · exact fun he => ⟨_, he, rfl⟩
    · rintro ⟨e, he, heq⟩
      rw [Prod.mk.injEq] at heq
      rw [← heq.1, ← Field.extraction_injective heq.2]
      exact he
  rw [hmem, mem_extractions h]
  refine exists_congr fun f => and_congr_right fun _ => and_congr_right fun _ => ?_
  rw [Field.expression?, Option.map_eq_some_iff]
  constructor
  · rintro ⟨p, hp, heq⟩
    rw [hp, Field.extraction_injective heq]
  · exact fun hp => ⟨path, hp, rfl⟩

namespace Search

variable {s : Search}

/-- The columns of the sources of a search. -/
def columns (s : Search) : List String :=
  Select.entityColumns ++ (if s.term.isSome then Select.indexColumns else []) ++
    if s.query.hasReverse then Select.jsonColumns else []

/-- The names that the fields in use are selected under are kept apart. No bare field is slugged to
the name of a column at hand, and fields that are extracted in two ways go by two names. -/
@[mk_iff]
structure Separate (s : Search) : Prop where
  lookups : ∀ f ∈ s.query.lookupFields, f.IsBare →
    ∀ column ∈ Select.jsonColumns ++ s.columns, ¬ SameName f.reference column
  order : ∀ f ∈ s.query.orderFields, f.IsBare →
    ∀ column ∈ s.columns, ¬ SameName f.reference column
  fields : ∀ f ∈ s.query.fields, ∀ g ∈ s.query.fields, f.path?.isSome → g.path?.isSome →
    f.path? ≠ g.path? → ¬ SameName f.reference g.reference

instance (s : Search) : Decidable s.Separate := decidable_of_iff' _ (separate_iff s)

theorem mem_columns {column : String} : column ∈ s.columns ↔ column ∈ Select.entityColumns ∨
    (s.term.isSome ∧ column ∈ Select.indexColumns) ∨
      (s.query.hasReverse ∧ column ∈ Select.jsonColumns) := by
  unfold columns
  cases s.term <;> cases s.query.hasReverse <;> simp

theorem mem_select_columns {column : String} :
    column ∈ s.select.columns ↔ column ∈ s.columns := by
  rw [mem_columns]
  unfold Select.columns select sources
  cases s.term <;> cases s.query.hasReverse <;> simp [Select.Source.columns] <;> tauto

theorem columns_subset {column : String} (h : column ∈ Select.jsonColumns ++ s.columns) :
    column ∈ Select.jsonColumns ++ Select.entityColumns ++ Select.indexColumns := by
  rw [List.mem_append, mem_columns] at h
  rw [List.mem_append, List.mem_append]
  tauto

theorem mem_items (h : s.Reachable table registry) {item : Select.Item} {name : String} :
    (item ∈ s.items ∧ item.name = some name) ↔
      ∃ f ∈ s.query.fields, f.reference = name ∧
        ∃ path, f.path? = some path ∧ item = ⟨.extraction path, some name⟩ := by
  rw [items, List.mem_append]
  constructor
  · rintro ⟨hitem | hitem, hname⟩
    · obtain ⟨base, -, rfl⟩ := List.mem_map.1 hitem
      exact absurd hname (by simp)
    · obtain ⟨⟨reference, path⟩, he, rfl⟩ := List.mem_map.1 hitem
      obtain ⟨f, hf, hr, hpath⟩ := (Query.mem_paths h.query.sound).1 he
      cases hname
      exact ⟨f, hf, hr, path, hpath, rfl⟩
  · rintro ⟨f, hf, hr, path, hpath, rfl⟩
    have he := (Query.mem_paths h.query.sound).2 ⟨f, hf, hr, hpath⟩
    exact ⟨.inr (List.mem_map.2 ⟨_, he, rfl⟩), rfl⟩

theorem orderItem_mem_ordered {f : Field} (hf : f ∈ s.query.orderFields) :
    f.orderItem s.joined ∈ s.select.ordered := by
  unfold Query.orderFields at hf
  unfold Select.ordered select ordering
  cases ho : s.query.order with
  | none => simp [ho] at hf
  | some order =>
    rw [ho] at hf
    exact List.mem_map_of_mem hf

theorem mem_names_expression {f : Field} {name : String} :
    name ∈ f.expression.names ↔ f.path?.isSome ∧ name = f.reference := by
  rw [Field.names_expression]
  split_ifs with hp <;> simp [hp]

theorem mem_uses {use : String × List String} : use ∈ s.select.uses ↔
    (∃ f ∈ s.query.lookupFields, f.path?.isSome ∧ use = (f.reference,
      if f.isMultivalued then Select.jsonColumns ++ s.select.columns else s.select.columns)) ∨
    ∃ f ∈ s.query.orderFields, f.path?.isSome ∧ use = (f.reference, s.select.columns) := by
  rw [Select.uses, List.mem_append, List.mem_flatMap, List.mem_flatMap]
  refine or_congr ⟨?_, ?_⟩ ⟨?_, ?_⟩
  · rintro ⟨c, hc, huse⟩
    rcases mem_conditions.1 hc with ⟨key, l, hl, rfl⟩ | ⟨term, -, rfl⟩
    · rw [Lookup.uses_condition, List.mem_map] at huse
      obtain ⟨name, hname, rfl⟩ := huse
      obtain ⟨hp, rfl⟩ := mem_names_expression.1 hname
      exact ⟨_, Query.mem_lookupFields.2 ⟨key, l, hl, rfl⟩, hp, rfl⟩
    · exact absurd huse List.not_mem_nil
  · rintro ⟨f, hf, hp, rfl⟩
    obtain ⟨key, l, hl, rfl⟩ := Query.mem_lookupFields.1 hf
    refine ⟨l.condition key, mem_conditions.2 (.inl ⟨key, l, hl, rfl⟩), ?_⟩
    rw [Lookup.uses_condition]
    exact List.mem_map_of_mem (mem_names_expression.2 ⟨hp, rfl⟩)
  · rintro ⟨e, he, huse⟩
    obtain ⟨name, hname, rfl⟩ := List.mem_map.1 huse
    rcases mem_ordered he with ⟨f, hf, rfl⟩ | ⟨-, rfl⟩
    · rw [Field.names_orderItem] at hname
      obtain ⟨hp, rfl⟩ := mem_names_expression.1 hname
      exact ⟨f, hf, hp, rfl⟩
    · exact absurd hname List.not_mem_nil
  · rintro ⟨f, hf, hp, rfl⟩
    refine ⟨_, orderItem_mem_ordered hf, List.mem_map_of_mem ?_⟩
    rw [Field.names_orderItem]
    exact mem_names_expression.2 ⟨hp, rfl⟩

/-- A field that is not bare, or whose columns are kept apart from it, goes by the name of no
column. -/
theorem not_sameName_of_separate (h : s.Reachable table registry) {f : Field}
    (hf : f ∈ s.query.fields) (hp : f.path?.isSome) {column : String}
    (hc : column ∈ Select.jsonColumns ++ s.columns)
    (hbare : f.IsBare → ¬ SameName f.reference column) : ¬ SameName f.reference column := by
  by_cases hb : f.IsBare
  · exact hbare hb
  · obtain ⟨key, hkey⟩ := h.query.sound.exists_resolve hf
    exact Field.not_sameName_of_not_isBare hkey hb hp (columns_subset hc)

theorem separate_of_uncaptured (h : s.Reachable table registry) (hu : s.select.Uncaptured) :
    s.Separate where
  lookups f hf hb column hc := by
    refine hu.columns _ (mem_uses.2 (.inl ⟨f, hf, hb.isSome_path?, rfl⟩)) column ?_
    rw [hb.isMultivalued, if_pos rfl, List.mem_append, mem_select_columns]
    exact List.mem_append.1 hc
  order f hf hb column hc := by
    refine hu.columns _ (mem_uses.2 (.inr ⟨f, hf, hb.isSome_path?, rfl⟩)) column ?_
    exact mem_select_columns.2 hc
  fields f hf g hg hfp hgp hne := by
    obtain ⟨path, hpath⟩ := Option.isSome_iff_exists.1 hfp
    obtain ⟨path', hpath'⟩ := Option.isSome_iff_exists.1 hgp
    obtain ⟨hitem, -⟩ := (mem_items h).2 ⟨f, hf, rfl, path, hpath, rfl⟩
    obtain ⟨hother, hname'⟩ := (mem_items h).2 ⟨g, hg, rfl, path', hpath', rfl⟩
    have hdiffer : Select.Expression.extraction path' ≠ .extraction path := by
      intro heq
      rw [hpath, hpath', (Select.Expression.extraction.inj heq)] at hne
      exact hne rfl
    obtain ⟨use, hmem, heq⟩ : ∃ use ∈ s.select.uses, use.1 = f.reference := by
      rcases Query.mem_fields.1 hf with hf | hf
      · exact ⟨_, mem_uses.2 (.inl ⟨f, hf, hfp, rfl⟩), rfl⟩
      · exact ⟨_, mem_uses.2 (.inr ⟨f, hf, hfp, rfl⟩), rfl⟩
    rw [← heq]
    exact hu.items use hmem _ hitem (by rw [heq]) _ hother hdiffer _ hname'

theorem uncaptured_of_separate (h : s.Reachable table registry) (hs : s.Separate) :
    s.select.Uncaptured where
  columns use huse column hc := by
    rcases mem_uses.1 huse with ⟨f, hf, hp, rfl⟩ | ⟨f, hf, hp, rfl⟩
    · have hall : column ∈ Select.jsonColumns ++ s.columns := by
        rw [List.mem_append, ← mem_select_columns]
        split_ifs at hc
        · exact List.mem_append.1 hc
        · exact .inr hc
      exact not_sameName_of_separate h (Query.mem_fields.2 (.inl hf)) hp hall
        fun hb => hs.lookups f hf hb column hall
    · have hcolumn := mem_select_columns.1 hc
      exact not_sameName_of_separate h (Query.mem_fields.2 (.inr hf)) hp
        (List.mem_append_right _ hcolumn) fun hb => hs.order f hf hb column hcolumn
  items use huse item hitem hname other hother hdiffer name hname' := by
    obtain ⟨f, hf, hr, path, hpath, rfl⟩ := (mem_items h).1 ⟨hitem, hname⟩
    obtain ⟨g, hg, hr', path', hpath', rfl⟩ := (mem_items h).1 ⟨hother, hname'⟩
    rw [← hr, ← hr']
    refine hs.fields f hf g hg (by rw [hpath]; rfl) (by rw [hpath']; rfl) fun heq => ?_
    rw [hpath, hpath'] at heq
    exact hdiffer (by rw [Option.some.inj heq])

theorem uncaptured_iff (h : s.Reachable table registry) : s.select.Uncaptured ↔ s.Separate :=
  ⟨separate_of_uncaptured h, uncaptured_of_separate h⟩

theorem uncaptured_inner_iff (h : s.Reachable table registry) :
    s.inner.Uncaptured ↔ s.unpaged.Separate := by
  have huses : s.inner.uses = s.unpaged.select.uses := by
    unfold inner Select.uses Select.ordered
    cases ht : s.term <;> simp [Select.unpaged, select, ordering, unpaged, withQuery, ht,
      Query.unpaged, Select.Expression.names, Select.columns]
  rw [← uncaptured_iff h.unpaged]
  constructor
  · rintro ⟨hcolumns, hitems⟩
    rw [huses] at hcolumns hitems
    exact ⟨hcolumns, hitems⟩
  · rintro ⟨hcolumns, hitems⟩
    rw [← huses] at hcolumns hitems
    exact ⟨hcolumns, hitems⟩

end Search

/-! ## All statements -/

/-- **The statements of reachable searches and queries are uncaptured exactly where the names of
their fields are kept apart.** -/
theorem uncaptured_iff_separate :
    (∀ s : Search, s.Reachable table registry →
      s.statement = s.select.statement Select.hole ∧ (s.select.Uncaptured ↔ s.Separate) ∧
        (s.inner.Uncaptured ↔ s.unpaged.Separate)) ∧
    ∀ q : Query, q.Reachable table registry →
      q.statement = q.select.statement Select.hole ∧
        (q.select.Uncaptured ↔ (⟨q, none⟩ : Search).Separate) ∧
        (q.inner.Uncaptured ↔ (⟨q.unpaged, none⟩ : Search).Separate) := by
  have hall : ∀ s : Search, s.Reachable table registry →
      s.statement = s.select.statement Select.hole ∧ (s.select.Uncaptured ↔ s.Separate) ∧
        (s.inner.Uncaptured ↔ s.unpaged.Separate) := fun s h =>
    ⟨Search.statement_eq h, Search.uncaptured_iff h, Search.uncaptured_inner_iff h⟩
  exact ⟨hall, fun q h => hall _ (Search.reachable_of_query h)⟩

/-- Of all properties of the bundled model, only one is slugged to the name of a column. -/
theorem bundled_sameName_iff {name : String}
    (h : Model.bundled.registry.isProperty name = true) :
    (∃ column ∈ Select.jsonColumns ++ Select.entityColumns ++ Select.indexColumns,
      SameName (slug name) column) ↔ name = "parent" := by
  have hall : ∀ e ∈ Model.bundledProperties, (Slug.characters e.1.toList).map Char.toLower ∈
      (Select.jsonColumns ++ Select.entityColumns ++ Select.indexColumns).map
        (·.toList.map Char.toLower) ↔ e.1 = "parent" := by
    decide +kernel
  obtain ⟨type, htype⟩ := Model.exists_mem_of_isProperty h
  rw [← hall (name, type) (Dict.mem_of_mem_entries_ofList htype), List.mem_map]
  simp only [SameName, slug, String.toList_ofList, eq_comm]

theorem resolve_parent (hm : registry.isMeta "parent" = false)
    (hp : registry.isProperty "parent" = true) :
    Field.resolve registry "parent" = .ok (.property "parent" (registry.isNumeric "parent")) := by
  have hbase : Key.base "parent" = "parent" := rfl
  have hname : Field.ofName? registry "parent" = Field.declared? registry "parent" := rfl
  rw [Field.resolve, hbase, hname, Field.declared?, hm, hp]
  rfl

/-- Statements of the bundled model that are captured: of one property the values of a list are
looked for in a column of the list itself, and of two names that are one but for case the second is
read as the first. -/
theorem alias_captured :
    (∃ q, (Query.new "ftm" Model.bundled.registry).filter "parent" (.text "x") = .ok q ∧
      Query.Reachable "ftm" Model.bundled.registry q ∧ ¬ q.select.Uncaptured) ∧
    ∃ q q', (Query.new "ftm" Model.bundled.registry).filter "context.Foo" (.text "x") = .ok q ∧
      q.filter "context.foo" (.text "y") = .ok q' ∧
        Query.Reachable "ftm" Model.bundled.registry q' ∧ ¬ q'.select.Uncaptured := by
  constructor
  · have hparent : "parent" ∈ Model.bundledProperties.map (·.1) := by decide +kernel
    have hproperty := @Model.isProperty_of_mem Model.bundled _ rfl _ hparent
    have hresolve := resolve_parent (by decide) hproperty
    have hp := @Predicate.compile_eq_ok_iff _ "parent" (.text "x")
      ⟨_, .single .equal (.text "x")⟩ |>.2 ⟨hresolve, .relation .equal, rfl, rfl⟩
    have hq := @Query.filter_new "ftm" _ _ _ _ rfl hp
    have h := Query.Reachable.step (.filter "parent" (.text "x")) .new hq
    refine ⟨_, hq, h, fun hu => ?_⟩
    have hs := Search.separate_of_uncaptured (Search.reachable_of_query h) hu
    exact hs.lookups _ List.mem_cons_self trivial "parent" (by decide) (by decide)
  · refine ⟨_, _, rfl, rfl, ?_⟩
    have h := Query.Reachable.step (.filter "context.foo" (.text "y"))
      (.step (.filter "context.Foo" (.text "x")) (@Query.Reachable.new "ftm" Model.bundled.registry)
        rfl) rfl
    refine ⟨h, fun hu => ?_⟩
    have hs := Search.separate_of_uncaptured (Search.reachable_of_query h) hu
    refine hs.fields (.scalar "context.Foo" "Foo") ?_ (.scalar "context.foo" "foo") ?_ rfl rfl
      (by decide) (by decide)
    · exact List.mem_cons_self
    · exact List.mem_cons_of_mem _ List.mem_cons_self

/-- A search by an extra member, a property and any property at all, in the order of another
property, is uncaptured: three names are extracted, with the columns of all sources at hand. -/
theorem search_uncaptured : ∃ s, Search.Reachable "ftm" Model.bundled.registry s ∧
    s.query.lookupFields = [.scalar "context.foo" "foo", .property "country" false, .reverse] ∧
    s.query.orderFields = [.property "name" false] ∧ s.term = some "x" ∧
    s.select.Uncaptured ∧ s.inner.Uncaptured := by
  obtain ⟨q₁, q₂, q₃, q, hq₁, hq₂, hq₃, hq, hlookups, horder, hterm, hpaged, hunpaged⟩ :
      ∃ q₁ q₂ q₃ q,
      (Query.Step.filter "context.foo" (.text "y")).run (.new "ftm" Model.bundled.registry) =
        .ok q₁ ∧
      (Query.Step.filter "country" (.text "de")).run q₁ = .ok q₂ ∧
      (Query.Step.filter "reverse" (.text "z")).run q₂ = .ok q₃ ∧
      (Query.Step.orderBy ["name"] .ascending).run q₃ = .ok q ∧
      q.lookupFields = [.scalar "context.foo" "foo", .property "country" false, .reverse] ∧
      q.orderFields = [.property "name" false] ∧ (Search.new q (some "x")).term = some "x" ∧
      (Search.new q (some "x")).Separate ∧ (Search.new q (some "x")).unpaged.Separate :=
    ⟨_, _, _, _, rfl, rfl, rfl, rfl, rfl, rfl, by decide +kernel, by decide +kernel,
      by decide +kernel⟩
  have h : Search.Reachable "ftm" Model.bundled.registry (.new q (some "x")) :=
    .new _ (.step _ (.step _ (.step _ (.step _ .new hq₁) hq₂) hq₃) hq)
  obtain ⟨-, hselect, hinner⟩ := uncaptured_iff_separate.1 _ h
  exact ⟨_, h, hlookups, horder, hterm, hselect.2 hpaged, hinner.2 hunpaged⟩

end EntityQuery
