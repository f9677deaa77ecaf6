import Mathlib.Tactic
import EntityQuery.Proofs.Capture

/-!
# Meaning of statements

What a tree asks of an entity. The sources yield the rows that are made of it: the row of the entity
itself or, where the property lists are joined, one row for each of them. A row passes if all
conditions hold of it. A condition on the values of a list holds if it holds of one of them.

What the database makes of paths, numbers, comparisons and terms is left open. A selected name is
read as the value that is selected under it; `Select.Uncaptured` says where a database reads it so.

* `Select.Reading`, `Select.Tuple`: what is left open, and the rows at hand;
* `Select.tuples`, `Select.Passes`, `Select.Matches`: the meaning of a tree;
* `Search.named_reference`: the value under a field's name is the field's own in every sound search;
* **`Query.passes_iff`**: a row passes where each lookup holds of the row by itself.
-/

namespace EntityQuery

/-- The values that rows are made of: the items of a list and the values of the members of an
object; nothing is made of `null`, and of any other value a single row. -/
def Json.elements : Json → List Json
  | .null => []
  | .array items => items
  | .object members => members.map (·.2)
  | value => [value]

namespace Select

/-- How a database reads values: what it finds under a path of a document, the number it makes of a
value, which values pass a comparison with operands, and which texts a term finds. -/
structure Reading where
  extract : String → Json → Json
  number : Json → Json
  passes : Comparison → List Json → Json → Prop
  finds : Json → Json → Prop

/-- The rows at hand, one of each source: the columns of an entity and of its text in the index, and
a property list. -/
structure Tuple where
  entity : String → Json
  index : String → Json
  property : Json

namespace Tuple

/-- The value of a column. -/
def column (t : Tuple) : RowName → String → Json
  | .entity, name => t.entity name
  | .index, name => t.index name
  | .property, name => if name = "value" then t.property else .null

/-- The document of the entity. -/
def document (t : Tuple) : Json := t.entity "entity"

/-- The rows that are made by joining the property lists. -/
def joined (rd : Reading) (t : Tuple) : List Tuple :=
  (rd.extract "properties" t.document).elements.map fun list => { t with property := list }

end Tuple

variable (rd : Reading)

/-- The value of an expression, from the values under the selected names and the value of the list
at hand. -/
def Expression.value (t : Tuple) (named : String → Json) (element : Json) : Expression → Json
  | .column row name => t.column row name
  | .bare name => t.entity name
  | .selected name => named name
  | .extraction path => rd.extract path t.document
  | .element => element
  | .first list => (list.value t named element).elements.headD .null
  | .number value => rd.number (value.value t named element)

/-- The value that is selected under a name. -/
def named (s : Select) (t : Tuple) (name : String) : Json :=
  match s.items.find? fun item => item.name = some name with
  | some item => item.expression.value rd t (fun _ => .null) .null
  | none => .null

/-- A condition holds of a row. -/
def Condition.Holds (t : Tuple) (named : String → Json) : Condition → Prop
  | .compare subject c operands => rd.passes c operands (subject.value rd t named .null)
  | .anyOf list subject c operands =>
    ∃ item ∈ (list.value rd t named .null).elements,
      rd.passes c operands (subject.value rd t named item)
  | .found term => rd.finds term (t.index "text")

/-- The rows with those of one more source. -/
def Source.join (rows : List Tuple) : Source → List Tuple
  | .entities _ | .found _ => rows
  | .properties => rows.flatMap (Tuple.joined rd)

/-- The rows that the sources make of an entity. -/
def tuples (s : Select) (entity : Tuple) : List Tuple := s.sources.foldl (Source.join rd) [entity]

/-- All conditions hold of a row. -/
def Passes (s : Select) (t : Tuple) : Prop := ∀ c ∈ s.conditions, c.Holds rd t (s.named rd t)

/-- An entity is matched: one of its rows passes, whatever the window keeps of the rows. -/
def Matches (s : Select) (entity : Tuple) : Prop := ∃ t ∈ s.tuples rd entity, s.Passes rd t

end Select

variable {table : String} {registry : Registry} {rd : Select.Reading} {t : Select.Tuple}

/-! ## Values of fields -/

/-- The values of a field in a row, without a name. -/
def Field.value (rd : Select.Reading) (t : Select.Tuple) : Field → Json
  | .column name => t.entity name
  | .reverse => t.property
  | f => match f.path? with
    | some path => rd.extract path t.document
    | none => .null

theorem Field.value_of_path? {f : Field} {path : String} (h : f.path? = some path) :
    f.value rd t = rd.extract path t.document := by
  cases f with
  | column | reverse => cases h
  | datasets | property | scalar | list =>
    cases h
    rfl

namespace Search

variable {s : Search}

/-- No field in use is read as another one: fields that are selected under one name are extracted in
one way. -/
theorem named_reference (h : s.Reachable table registry) {f : Field} (hf : f ∈ s.query.fields)
    {path : String} (hp : f.path? = some path) :
    s.select.named rd t f.reference = rd.extract path t.document := by
  obtain ⟨hmem, hname⟩ := (mem_items h).2 ⟨f, hf, rfl, path, hp, rfl⟩
  have hitems : s.select.items = s.items := rfl
  rw [Select.named, hitems]
  cases hfind : s.items.find? fun item => item.name = some f.reference with
  | none => exact absurd hname (by simpa using List.find?_eq_none.1 hfind _ hmem)
  | some item =>
    have hitem := List.mem_of_find?_eq_some hfind
    have hitemName : item.name = some f.reference := by simpa using List.find?_some hfind
    obtain ⟨g, hg, hr, path', hp', rfl⟩ := (mem_items h).1 ⟨hitem, hitemName⟩
    have hsame := Field.collides_eq_false_iff.1 (h.query.sound.compatible f hf g hg) hr.symm
    rw [Field.expression?, Field.expression?, hp, hp', Option.map_some, Option.map_some,
      Option.some.injEq, Field.extraction_injective.eq_iff] at hsame
    rw [hsame]
    rfl

theorem value_expression (h : s.Reachable table registry) {f : Field} (hf : f ∈ s.query.fields) :
    f.expression.value rd t (s.select.named rd t) .null = f.value rd t := by
  cases hp : f.path? with
  | none =>
    cases f with
    | column | reverse => rfl
    | datasets | property | scalar | list => cases hp
  | some path =>
    rw [Field.value_of_path? hp, ← named_reference h hf hp]
    cases f with
    | column | reverse => cases hp
    | datasets | property | scalar | list => rfl

end Search

/-! ## Lookups -/

namespace Lookup

/-- A lookup holds of a row by itself: the field's value passes the test or, where the field has
many values, one of them does. -/
def Holds (rd : Select.Reading) (t : Select.Tuple) (key : String) (l : Lookup) : Prop :=
  if l.predicate.field.isMultivalued then
    ∃ item ∈ (l.predicate.field.value rd t).elements,
      rd.passes l.predicate.test.comparison (asked key l.value)
        (if l.predicate.field.isNumeric then rd.number item else item)
  else
    rd.passes l.predicate.test.comparison (asked key l.value) (l.predicate.field.value rd t)

theorem value_element (named : String → Json) (item : Json) (numeric : Bool) :
    (if numeric then Select.Expression.number .element else .element).value rd t named item =
      if numeric then rd.number item else item := by
  cases numeric <;> rfl

/-- The condition of a lookup says the same in every statement that has the lookup. -/
theorem holds_condition_iff {s : Search} (h : s.Reachable table registry) {key : String}
    {l : Lookup} (hl : s.query.lookups.get? key = some l) :
    (l.condition key).Holds rd t (s.select.named rd t) ↔ l.Holds rd t key := by
  have hf : l.predicate.field ∈ s.query.fields :=
    Query.mem_fields.2 (.inl (Query.mem_lookupFields.2 ⟨key, l, hl, rfl⟩))
  have hvalue : l.predicate.field.expression.value rd t (s.select.named rd t) .null =
      l.predicate.field.value rd t := Search.value_expression h hf
  unfold condition Holds
  by_cases hm : l.predicate.field.isMultivalued = true
  · simp only [if_pos hm, Select.Condition.Holds, hvalue, value_element]
  · simp only [if_neg hm, Select.Condition.Holds, hvalue]

/-- Only a lookup of any property depends on the property list that is joined. -/
theorem holds_joined_iff {key : String} {l : Lookup} (hl : l.predicate.field ≠ .reverse)
    {row : Select.Tuple} (hrow : row ∈ t.joined rd) : l.Holds rd row key ↔ l.Holds rd t key := by
  obtain ⟨list, -, rfl⟩ := List.mem_map.1 hrow
  have hvalue : l.predicate.field.value rd { t with property := list } =
      l.predicate.field.value rd t := by
    cases hf : l.predicate.field with
    | reverse => exact absurd hf hl
    | column | datasets | property | scalar | list => rfl
  rw [Holds, Holds, hvalue]

end Lookup

/-! ## Rows -/

namespace Search

/-- A row passes where each lookup holds of it by itself and the term finds its text. -/
theorem passes_iff {s : Search} (h : s.Reachable table registry) : s.select.Passes rd t ↔
    (∀ key l, s.query.lookups.get? key = some l → l.Holds rd t key) ∧
      ∀ term, s.term = some term →
        rd.finds (.text (Term.matchExpression term)) (t.index "text") := by
  constructor
  · intro hp
    refine ⟨fun key l hl => ?_, fun term ht => ?_⟩
    · exact (Lookup.holds_condition_iff h hl).1 (hp _ (mem_conditions.2 (.inl ⟨key, l, hl, rfl⟩)))
    · exact hp _ (mem_conditions.2 (.inr ⟨term, ht, rfl⟩))
  · rintro ⟨hlookups, hterm⟩ c hc
    rcases mem_conditions.1 hc with ⟨key, l, hl, rfl⟩ | ⟨term, ht, rfl⟩
    · exact (Lookup.holds_condition_iff h hl).2 (hlookups key l hl)
    · exact hterm term ht

/-- The rows of an entity: its own or, for lookups of any property, one row for each list. -/
theorem tuples_select (s : Search) (rd : Select.Reading) (t : Select.Tuple) :
    s.select.tuples rd t = if s.query.hasReverse then t.joined rd else [t] := by
  unfold Select.tuples select sources
  cases s.term <;> cases s.query.hasReverse <;> simp [Select.Source.join]

end Search

/-- **A row passes where each lookup holds of it by itself.** -/
theorem Query.passes_iff {q : Query} (h : q.Reachable table registry) : q.select.Passes rd t ↔
    ∀ key l, q.lookups.get? key = some l → l.Holds rd t key := by
  rw [select, Search.passes_iff (Search.reachable_of_query h), and_iff_left]
  intro term ht
  cases ht

end EntityQuery
