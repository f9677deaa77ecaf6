import Mathlib.Tactic

/-!
# Filling templates

A template is a text in which each question mark stands for a value. To fill it is to put the values
in the places of the question marks, one after the other; what a value brings along is not filled in
turn.

* `Text.fill`: a template filled with values;
* `Text.Fills`: there is a question mark for each value, and a value for each question mark;
* `Text.Fills.append`, `Text.Fills.intercalate`: templates are filled part by part.
-/

namespace EntityQuery.Text

/-- The characters of a template with values in the places of its question marks. Question marks
after the last value stay. -/
def fillCharacters : List Char → List String → List Char
  | c :: cs, value :: values =>
    if c = '?' then value.toList ++ fillCharacters cs values
    else c :: fillCharacters cs (value :: values)
  | cs, _ => cs

/-- A template with values in the places of its question marks. -/
def fill (template : String) (values : List String) : String :=
  .ofList (fillCharacters template.toList values)

/-- A template has as many question marks as there are values, and becomes a text with these in
their places. -/
structure Fills (template : String) (values : List String) (text : String) : Prop where
  count : template.toList.count '?' = values.length
  fill : fill template values = text

/-- A text without question marks. -/
def Plain (text : String) : Prop := '?' ∉ text.toList

instance (text : String) : Decidable (Plain text) := by unfold Plain; infer_instance

/-! ## Plain texts -/

theorem Plain.append {a b : String} (ha : Plain a) (hb : Plain b) : Plain (a ++ b) := by
  rw [Plain, String.toList_append, List.mem_append]
  exact not_or.2 ⟨ha, hb⟩

/-- What appending keeps, texts with a separator between them have if each of them has it. -/
theorem intercalate_induct {P : String → Prop} (hempty : P "")
    (happend : ∀ a b, P a → P b → P (a ++ b)) {separator : String} (hs : P separator)
    {texts : List String} (h : ∀ text ∈ texts, P text) : P (separator.intercalate texts) := by
  induction texts with
  | nil =>
    rw [String.intercalate_nil]
    exact hempty
  | cons text texts ih =>
    have hrest := ih fun t ht => h t (List.mem_cons_of_mem _ ht)
    have htext := h text List.mem_cons_self
    cases texts with
    | nil =>
      rw [String.intercalate_singleton]
      exact htext
    | cons text' texts =>
      rw [String.intercalate_cons_cons]
      exact happend _ _ (happend _ _ htext hs) hrest

theorem Plain.intercalate {separator : String} (hs : Plain separator) {texts : List String}
    (h : ∀ text ∈ texts, Plain text) : Plain (separator.intercalate texts) :=
  intercalate_induct (by decide) (fun _ _ ha hb => ha.append hb) hs h

/-- Numbers are written without question marks. -/
theorem plain_repr (n : Int) : Plain n.repr := by
  have hnat : ∀ m : Nat, '?' ∉ m.repr.toList := by
    intro m hm
    rw [Nat.repr, String.toList_ofList] at hm
    have hdigit := Nat.isDigit_of_mem_toDigits (by omega) (by omega) hm
    exact absurd hdigit (by decide)
  cases n with
  | ofNat m => exact hnat m
  | negSucc m =>
    have hminus : Plain "-" := by decide
    exact hminus.append (hnat _)

/-! ## Filling -/

@[simp] theorem fillCharacters_nil (cs : List Char) : fillCharacters cs [] = cs := by
  cases cs <;> rfl

theorem fillCharacters_append {cs : List Char} {values : List String}
    (h : cs.count '?' = values.length) (cs' : List Char) (values' : List String) :
    fillCharacters (cs ++ cs') (values ++ values') =
      fillCharacters cs values ++ fillCharacters cs' values' := by
  induction cs generalizing values with
  | nil =>
    rw [List.count_nil, eq_comm, List.length_eq_zero_iff] at h
    rw [h]
    rfl
  | cons c cs ih =>
    by_cases hc : c = '?'
    · rw [hc, List.count_cons_self] at h
      obtain ⟨value, rest, rfl⟩ := List.exists_cons_of_length_eq_add_one h.symm
      rw [List.length_cons, Nat.add_right_cancel_iff] at h
      simp only [List.cons_append, fillCharacters, if_pos hc, ih h, List.append_assoc]
    · rw [List.count_cons_of_ne hc] at h
      have hrest := ih h
      cases hv : values ++ values' with
      | nil =>
        obtain ⟨rfl, rfl⟩ := List.append_eq_nil_iff.1 hv
        simp only [fillCharacters_nil]
      | cons value rest =>
        rw [hv] at hrest
        cases values with
        | nil => simp only [List.cons_append, fillCharacters, if_neg hc, hrest, fillCharacters_nil]
        | cons v vs => simp only [List.cons_append, fillCharacters, if_neg hc, hrest]

namespace Fills

variable {template template' text text' : String} {values values' : List String}

theorem append (h : Fills template values text) (h' : Fills template' values' text') :
    Fills (template ++ template') (values ++ values') (text ++ text') where
  count := by
    rw [String.toList_append, List.count_append, List.length_append, h.count, h'.count]
  fill := by
    rw [← h.fill, ← h'.fill, Text.fill, String.toList_append, fillCharacters_append h.count,
      String.ofList_append]
    rfl

/-- A plain text is filled with nothing. -/
theorem plain (h : Plain text) : Fills text [] text where
  count := List.count_eq_zero.2 h
  fill := by
    rw [Text.fill, fillCharacters_nil, String.ofList_toList]

theorem hole (value : String) : Fills "?" [value] value where
  count := rfl
  fill := by
    rw [Text.fill]
    simp [fillCharacters]

theorem plain_append (h : Plain text) (h' : Fills template' values' text') :
    Fills (text ++ template') values' (text ++ text') :=
  (plain h).append h'

theorem append_plain (h : Fills template values text) (h' : Plain text') :
    Fills (template ++ text') values (text ++ text') := by
  have happ := h.append (plain h')
  rw [List.append_nil] at happ
  exact happ

/-- Templates with a plain separator between two of them are filled one after the other. -/
theorem intercalate {α : Type} {separator : String} (hs : Plain separator) (items : List α)
    (template text : α → String) (values : α → List String)
    (h : ∀ a ∈ items, Fills (template a) (values a) (text a)) :
    Fills (separator.intercalate (items.map template)) (items.flatMap values)
      (separator.intercalate (items.map text)) := by
  induction items with
  | nil =>
    rw [List.map_nil, List.map_nil, String.intercalate_nil]
    exact plain (by decide)
  | cons a items ih =>
    have ha := h a List.mem_cons_self
    have hrest := ih fun b hb => h b (List.mem_cons_of_mem _ hb)
    cases items with
    | nil =>
      rw [List.map_singleton, List.map_singleton, String.intercalate_singleton,
        String.intercalate_singleton, List.flatMap_singleton]
      exact ha
    | cons b items =>
      simp only [List.map_cons, String.intercalate_cons_cons] at hrest ⊢
      exact (ha.append_plain hs).append hrest

end Fills

end EntityQuery.Text
