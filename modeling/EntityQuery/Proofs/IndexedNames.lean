import Mathlib.Tactic
import EntityQuery.Proofs.ByteOrder
import EntityQuery.Proofs.Calls
import EntityQuery.Proofs.SearchTerm

/-!
# Names in the index

An entity is indexed by a text that is made of its names, and a search for one of these names is
made of the same words. A name is split into words on two ways: in the text of the index, among all
names of the entity, and alone, in a match expression.

* `Store.nameWords`, `Store.words_searchText`: the words that an entity is indexed by;
* `Store.putCalls`, `Store.put_eq`: the calls by which an entity is put;
* **`Store.names_found_by_search`**: the words of each name stand in the index as a search for the
  name asks for them.
-/

namespace EntityQuery

/-! ## Calls -/

namespace Work

variable {σ : Type}

/-- The calls, one after the other. -/
def runCalls (db : Database σ) (calls : List Call) : Work σ Unit :=
  calls.forM fun call => db.execute call.sql call.parameters

theorem runCalls_cons (db : Database σ) (call : Call) (calls : List Call) :
    runCalls db (call :: calls) =
      db.execute call.sql call.parameters >>= fun _ => runCalls db calls := rfl

/-- Calls of which none fails are all made, in order. -/
theorem recorded_runCalls {db : Database σ} {calls : List Call} {before after : σ × List Call}
    (h : (runCalls db.recorded calls).run.run before = (.ok (), after)) :
    after.2 = before.2 ++ calls := by
  induction calls generalizing before with
  | nil =>
    cases h
    exact (List.append_nil _).symm
  | cons call calls ih =>
    rw [runCalls_cons, run_bind] at h
    have hmade : ((db.recorded.execute call.sql call.parameters).run.run before).2.2 =
        before.2 ++ [call] := rfl
    split at h
    · rw [ih h, hmade, List.append_assoc, List.singleton_append]
    · cases h

end Work

namespace Store

/-! ## Words -/

/-- The values of an entity's names: of the properties that are names, in order. -/
def nameValues (s : Store) (e : Entity) : List String :=
  (e.properties.entries.filter fun p => s.registry.propertyType p.1 == some .name).flatMap (·.2)

/-- The words of an entity's names, each in normal form. -/
def nameWords (s : Store) (e : Entity) : List (List Char) :=
  (s.nameValues e).flatMap fun value => Text.words (Term.normalize value).toList

variable {s : Store} {e : Entity}

theorem mem_nameValues {value : String} : value ∈ s.nameValues e ↔
    ∃ property values, e.properties.get? property = some values ∧ value ∈ values ∧
      s.registry.propertyType property = some .name := by
  simp only [nameValues, List.mem_flatMap, List.mem_filter, beq_iff_eq, Prod.exists,
    Dict.mem_entries_iff]
  constructor
  · rintro ⟨property, values, ⟨hget, htype⟩, hvalue⟩
    exact ⟨property, values, hget, hvalue, htype⟩
  · rintro ⟨property, values, hget, hvalue, htype⟩
    exact ⟨property, values, ⟨hget, htype⟩, hvalue⟩

/-- An empty name has no words, so that it makes no difference to leave it out. -/
theorem flatMap_words_filter (values : List String) :
    (values.filter (!·.isEmpty)).flatMap (Text.words ·.toList) =
      values.flatMap (Text.words ·.toList) := by
  induction values with
  | nil => rfl
  | cons value values ih =>
    by_cases hempty : value = ""
    · subst hempty
      simpa using ih
    · simp [hempty, ih]

/-- The text of the index is made of the names that are not empty in normal form. -/
theorem searchText_eq (s : Store) (e : Entity) : s.searchText e =
    " ".intercalate (((s.nameValues e).map Term.normalize).filter (!·.isEmpty)) := rfl

theorem words_searchText (s : Store) (e : Entity) :
    Text.words (s.searchText e).toList = s.nameWords e := by
  rw [searchText_eq, Text.words_intercalate, flatMap_words_filter, List.flatMap_map]
  rfl

theorem isEmpty_searchText : (s.searchText e).isEmpty = true ↔ s.nameWords e = [] := by
  constructor
  · intro hempty
    rw [← words_searchText, String.isEmpty_iff.1 hempty]
    rfl
  · intro hwords
    have hnone : ((s.nameValues e).map Term.normalize).filter (!·.isEmpty) = [] := by
      rw [List.filter_eq_nil_iff]
      intro name hname
      obtain ⟨value, hvalue, rfl⟩ := List.mem_map.1 hname
      have hnil := List.flatMap_eq_nil_iff.1 hwords value hvalue
      by_contra hne
      exact Term.words_normalize_ne_nil (by simpa using hne) hnil
    rw [searchText_eq, hnone]
    rfl

/-! ## Putting -/

/-- The calls by which an entity is put. It comes into the index if its names have words. -/
def putCalls (s : Store) (e : Entity) : List Call :=
  ⟨s.table.insertSql, rowValues e⟩ :: ⟨s.table.indexDeleteSql, [.text e.id]⟩ ::
    if s.nameWords e = [] then []
    else [⟨s.table.indexInsertSql, [.text e.id, .text (s.searchText e)]⟩]

theorem put_eq {σ : Type} (db : Database σ) (s : Store) (e : Entity) :
    s.put db e = Work.runCalls db (s.putCalls e) := by
  by_cases hwords : s.nameWords e = []
  · have hempty : (s.searchText e).isEmpty = true := isEmpty_searchText.2 hwords
    simp [put, putCalls, Work.runCalls, hwords, hempty]
  · have hempty : (s.searchText e).isEmpty = false := by simpa using isEmpty_searchText.not.2 hwords
    simp [put, putCalls, Work.runCalls, hwords, hempty]

/-- Texts that differ in their first parts differ. -/
theorem append_ne_append {a b : String} (n : Nat) (ha : n < a.toList.length)
    (hb : n < b.toList.length) (hne : a.toList[n] ≠ b.toList[n]) (x y : String) :
    a ++ x ≠ b ++ y := by
  intro h
  have hchar := congrArg (·.toList[n]?) h
  simp only [String.toList_append, List.getElem?_append_left ha, List.getElem?_append_left hb,
    List.getElem?_eq_getElem ha, List.getElem?_eq_getElem hb, Option.some.injEq] at hchar
  exact hne hchar

theorem indexInsertSql_eq (t : EntityTable) : t.indexInsertSql =
    "INSERT INTO " ++ (t.indexTable ++ " (id, text) VALUES (?, ?)") := String.append_assoc

theorem insertSql_ne (t : EntityTable) : t.insertSql ≠ t.indexInsertSql := by
  have hinsert : t.insertSql = "INSERT OR REPLACE INTO " ++
      (t.name ++ " (id, schema, dataset, entity) VALUES (?, ?, ?, ?)") := String.append_assoc
  rw [hinsert, indexInsertSql_eq]
  exact append_ne_append 7 (by decide) (by decide) (by decide) _ _

theorem indexDeleteSql_ne (t : EntityTable) : t.indexDeleteSql ≠ t.indexInsertSql := by
  have hdelete : t.indexDeleteSql = "DELETE FROM " ++ (t.indexTable ++ " WHERE id = ?") :=
    String.append_assoc
  rw [hdelete, indexInsertSql_eq]
  exact append_ne_append 0 (by decide) (by decide) (by decide) _ _

/-- A text is put into the index once, unless there is no word to be found by. -/
theorem indexed_putCalls (s : Store) (e : Entity) :
    (s.putCalls e).filter (·.sql == s.table.indexInsertSql) = if s.nameWords e = [] then []
      else [⟨s.table.indexInsertSql, [.text e.id, .text (s.searchText e)]⟩] := by
  rw [putCalls, List.filter_cons_of_neg (by simpa using insertSql_ne s.table),
    List.filter_cons_of_neg (by simpa using indexDeleteSql_ne s.table)]
  split_ifs
  · rfl
  · exact List.filter_cons_of_pos (beq_self_eq_true _)

/-- **The words of each name stand in the index as a search for the name asks for them.** An entity
is put by its calls, each of them if none fails. Its text in the index has the words of its names,
in order of the bytes of their properties, and there is none if it has no word. The words of a
single name stand there side by side, and are the ones that a search for the name quotes. -/
theorem names_found_by_search (s : Store) (e : Entity) :
    (∀ {σ : Type} (db : Database σ), s.put db e = Work.runCalls db (s.putCalls e)) ∧
    (∀ {σ : Type} (db : Database σ) (before after : σ × List Call),
      (s.put db.recorded e).run.run before = (.ok (), after) →
        after.2 = before.2 ++ s.putCalls e) ∧
    ((s.putCalls e).filter (·.sql == s.table.indexInsertSql) = if s.nameWords e = [] then []
      else [⟨s.table.indexInsertSql, [.text e.id, .text (s.searchText e)]⟩]) ∧
    Text.words (s.searchText e).toList = s.nameWords e ∧
    e.properties.entries.Pairwise (fun p p' => Text.bytes p.1 < Text.bytes p'.1) ∧
    ∀ property values value, e.properties.get? property = some values → value ∈ values →
      s.registry.propertyType property = some .name → Term.normalize value ≠ "" →
        ⟨s.table.indexInsertSql, [.text e.id, .text (s.searchText e)]⟩ ∈ s.putCalls e ∧
        Text.words (Term.normalize value).toList <:+: Text.words (s.searchText e).toList ∧
        ∀ q, ∃ expression,
          (Search.new q (some value)).parameters.getLast? = some (.text expression) ∧
          Term.quotedStrings? expression = some (Text.words (Term.normalize value).toList) := by
  refine ⟨fun db => put_eq db s e, fun db before after h => ?_, indexed_putCalls s e,
    words_searchText s e, ?_, fun property values value hget hvalue htype hne => ?_⟩
  · rw [put_eq] at h
    exact Work.recorded_runCalls h
  · exact e.properties.increasing.imp fun hlt => Text.bytes_lt_iff.2 hlt
  · have hmem : value ∈ s.nameValues e :=
      mem_nameValues.2 ⟨property, values, hget, hvalue, htype⟩
    have hinfix : Text.words (Term.normalize value).toList <:+: s.nameWords e :=
      List.infix_of_mem_flatten (List.mem_map_of_mem hmem)
    have hwords : s.nameWords e ≠ [] := by
      intro hnil
      rw [hnil, List.infix_nil] at hinfix
      exact Term.words_normalize_ne_nil hne hinfix
    refine ⟨?_, by rwa [words_searchText], fun q => ⟨_, ?_, Term.quotedStrings?_matchExpression _⟩⟩
    · rw [putCalls, if_neg hwords]
      simp
    · exact Search.getLast?_parameters (Search.term_new_eq_some_iff.2 ⟨value, rfl, rfl, hne⟩)

/-- A model whose persons have a name, other names and a country. -/
def personModel : Model :=
  ⟨Model.defaultMetaFields, ["Person"],
    .ofList [("name", .name), ("alias", .name), ("country", .country)]⟩

/-- A person with an accented name, an alias and a country. -/
def person : Entity :=
  (((Entity.new "p1" "Person").withProperty "name" "José  Pérez").withProperty "country"
    "Perú").withProperty "alias" "Pepe"

/-- The person is put by three calls, and found by the name. -/
theorem person_found_by_name : ∃ s record, Store.new "ftm" personModel.registry = .ok s ∧
    (s.put (Database.recorded ⟨fun _ _ => pure (), fun _ _ => pure []⟩) person).run.run ((), []) =
      (.ok (), (), record) ∧
    record.length = 3 ∧
    Text.words (s.searchText person).toList =
      [['P', 'e', 'p', 'e'], ['J', 'o', 's', 'e'], ['P', 'e', 'r', 'e', 'z']] ∧
    ∀ q, ∃ expression,
      (Search.new q (some "José  Pérez")).parameters.getLast? = some (.text expression) ∧
      Term.quotedStrings? expression = some [['J', 'o', 's', 'e'], ['P', 'e', 'r', 'e', 'z']] := by
  obtain ⟨t, ht⟩ : ∃ t, EntityTable.new "ftm" = .ok t := ⟨_, rfl⟩
  have hs : Store.new "ftm" personModel.registry = .ok ⟨t, personModel.registry⟩ := by
    rw [new, ht]
    rfl
  have hnormal : Term.normalize "José  Pérez" = "Jose  Perez" := by decide +kernel
  have hsplit : Text.words "Jose  Perez".toList =
      [['J', 'o', 's', 'e'], ['P', 'e', 'r', 'e', 'z']] := by decide
  have hnames : (⟨t, personModel.registry⟩ : Store).nameWords person =
      [['P', 'e', 'p', 'e'], ['J', 'o', 's', 'e'], ['P', 'e', 'r', 'e', 'z']] := rfl
  obtain ⟨record, hrun⟩ : ∃ record, ((⟨t, personModel.registry⟩ : Store).put
      (Database.recorded ⟨fun _ _ => pure (), fun _ _ => pure []⟩) person).run.run ((), []) =
        (.ok (), (), record) := by
    rw [put_eq, putCalls, hnames]
    exact ⟨_, rfl⟩
  obtain ⟨-, hmade, -, hwords, -, hfound⟩ :=
    names_found_by_search ⟨t, personModel.registry⟩ person
  have hrecord : record = putCalls ⟨t, personModel.registry⟩ person := hmade _ _ _ hrun
  obtain ⟨-, -, hquoted⟩ := hfound "name" ["José  Pérez"] _ rfl List.mem_cons_self rfl
    (by rw [hnormal]; decide)
  rw [hnormal, hsplit] at hquoted
  refine ⟨_, record, hs, hrun, ?_, hwords.trans hnames, hquoted⟩
  rw [hrecord, putCalls, hnames]
  rfl

end Store

end EntityQuery
