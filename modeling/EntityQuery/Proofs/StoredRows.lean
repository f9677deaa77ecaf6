import Mathlib.Tactic
import EntityQuery.Proofs.Calls
import EntityQuery.Proofs.Documents
import EntityQuery.Proofs.IndexedNames
import EntityQuery.Proofs.Reread

/-!
# Rows of stored entities

An entity is stored with its id, its schema and its first dataset in columns of their own, beside a
document that says the same, unless an extra member stands in the place of one of them or the text
of the document cannot be read.

* `Entity.Built`: the entities that can be built;
* `Store.Agrees`: the columns of a row say what its document says;
* `Entity.Faithful`: nothing in the entity hides what the columns say, and all can be read;
* **`Store.rows_agree_iff_faithful`**: a row that is put agrees with its document exactly then.
-/

namespace EntityQuery

/-! ## Entities -/

namespace Entity

variable {e : Entity}

/-- The entities that are built from an id and a schema by adding values, datasets and extra
members. -/
inductive Built : Entity → Prop
  | new (id schema : String) : Built (.new id schema)
  | withProperty {e : Entity} (name value : String) : Built e → Built (e.withProperty name value)
  | withDataset {e : Entity} (dataset : String) : Built e → Built (e.withDataset dataset)
  | withExtra {e : Entity} (key : String) {value : Json} : value.IsValue → Built e →
      Built (e.withExtra key value)

theorem Built.isValue (h : Built e) : ∀ v ∈ e.extra.values, v.IsValue := by
  induction h with
  | new id schema => exact fun v hv => nomatch hv
  | withProperty name value _ ih => exact ih
  | withDataset dataset _ ih => exact ih
  | withExtra key hvalue _ ih =>
    intro v hv
    rcases Dict.mem_values_insert.1 hv with rfl | hv
    · exact hvalue
    · obtain ⟨k, -, hk⟩ := Dict.mem_values_erase.1 hv
      exact ih v (Dict.mem_values_iff.2 ⟨k, hk⟩)

/-- The greatest number of containers that a member of a document may nest. -/
def memberBound : Nat := 126

/-- Nothing in the entity hides what its columns say, and its document can be read: neither its
extra members nor its properties embed a text in place of the whole, and each extra member can be
read. One that stands in place of the id, the schema or the datasets is read as these. -/
structure Faithful (e : Entity) : Prop where
  extra : Json.isEmbedding e.extra.entries = false
  properties : e.extra.get? "properties" = none → e.propertiesJson.embeds = false
  readable : ∀ v ∈ e.extra.values, v.Readable memberBound
  id : ∀ v, e.extra.get? "id" = some v → v.reread? memberBound = some (.text e.id)
  schema : ∀ v, e.extra.get? "schema" = some v → v.reread? memberBound = some (.text e.schema)
  datasets : ∀ v, e.extra.get? "datasets" = some v →
    ∃ items, v.reread? memberBound = some (.array items) ∧
      items.head? = e.datasets.head?.map .text

end Entity

/-! ## Rows -/

namespace Store

variable {e : Entity} {values : List Json} {d : Dict Json}

/-- The first dataset that a document lists, `null` if it lists none. -/
inductive FirstDataset (d : Dict Json) : Json → Prop
  | missing : d.get? "datasets" = none → FirstDataset d .null
  | empty : d.get? "datasets" = some (.array []) → FirstDataset d .null
  | first {x : Json} {xs : List Json} : d.get? "datasets" = some (.array (x :: xs)) →
      x.isNull = false → FirstDataset d x

/-- The id, the schema and the dataset that are bound for a row are those of the document, as it is
read from the text that is bound with them. -/
def Agrees (values : List Json) : Prop :=
  ∃ id schema dataset text d, values = [id, schema, dataset, .text text] ∧
    Json.ofText? text = some (.ofDict d) ∧ d.get? "id" = some id ∧
    d.get? "schema" = some schema ∧ FirstDataset d dataset

theorem firstDataset_iff {first : Option String} :
    FirstDataset d ((first.map .text).getD .null) ↔
      (d.get? "datasets" = none ∧ first = none) ∨
      ∃ items, d.get? "datasets" = some (.array items) ∧ items.head? = first.map .text := by
  constructor
  · cases first with
    | none =>
      rintro (hmissing | hempty | ⟨-, hnull⟩)
      · exact .inl ⟨hmissing, rfl⟩
      · exact .inr ⟨[], hempty, rfl⟩
      · cases hnull
    | some s =>
      rintro (- | - | ⟨hfirst, -⟩)
      exact .inr ⟨_, hfirst, rfl⟩
  · rintro (⟨hmissing, rfl⟩ | ⟨items, hitems, hhead⟩)
    · exact .missing hmissing
    · cases items with
      | nil =>
        cases first with
        | none => exact .empty hitems
        | some s => cases hhead
      | cons x xs =>
        cases first with
        | none => cases hhead
        | some s =>
          cases hhead
          exact .first hitems rfl

end Store

/-! ## Reading a document back -/

theorem Dict.isEmbedding_iff {d : Dict Json} : Json.isEmbedding d.entries = true ↔
    d.contains Json.embeddingKey = true ∧
      ∀ key, d.contains key = true → ¬ key < Json.embeddingKey := by
  have hkeys : ∀ key, d.contains key = true ↔ key ∈ d.entries.map (·.1) := fun key =>
    Dict.mem_keys_iff.symm
  have hsorted := Entries.increasing_iff.1 d.increasing
  simp only [hkeys, Json.isEmbedding]
  cases hentries : d.entries with
  | nil => simp
  | cons m rest =>
    rw [hentries, List.map_cons, List.pairwise_cons] at hsorted
    simp only [List.head?_cons, Option.any_some, beq_iff_eq, List.map_cons, List.mem_cons]
    constructor
    · intro h
      rw [← h]
      refine ⟨.inl rfl, fun key hkey => ?_⟩
      rcases hkey with rfl | hkey
      · exact String.lt_irrefl _
      · exact String.lt_asymm (hsorted.1 key hkey)
    · rintro ⟨hmem, hleast⟩
      rcases hmem with h | h
      · exact h.symm
      · exact absurd (hsorted.1 _ h) (hleast m.1 (.inl rfl))

namespace Json

theorem reread?_text (n : Nat) (s : String) : reread? n (.text s) = some (.text s) := by
  cases n <;> rfl

theorem reread?_ofTexts (n : Nat) (texts : List String) :
    reread? (n + 1) (ofTexts texts) = some (ofTexts texts) := by
  have hitems : rereadItems? n (texts.map .text) = some (texts.map .text) := by
    induction texts with
    | nil => rfl
    | cons s texts ih => rw [List.map_cons, rereadItems?, reread?_text, ih]; rfl
  rw [ofTexts, reread?, hitems]
  rfl

end Json

namespace Entity

variable {e : Entity} {key : String} {v : Json}

theorem contains_members : (Dict.ofList e.members).contains key = true ↔
    e.extra.contains key = true ∨ (e.own? key).isSome = true := by
  rw [Dict.contains, get?_members, Option.isSome_or, Bool.or_eq_true]
  rfl

theorem not_lt_of_own? (h : (e.own? key).isSome = true) :
    ¬ key < Json.embeddingKey ∧ key ≠ Json.embeddingKey := by
  have hknown : ∀ key ∈ known, ¬ key < Json.embeddingKey ∧ key ≠ Json.embeddingKey := by decide
  by_contra hnot
  have hmem : key ∉ known := fun hmem => hnot (hknown key hmem)
  rw [own?_of_not_mem hmem] at h
  cases h

/-- The members of the entity's own stand behind the embedding key. -/
theorem isEmbedding_members :
    Json.isEmbedding (Dict.ofList e.members).entries = Json.isEmbedding e.extra.entries := by
  rw [Bool.eq_iff_iff, Dict.isEmbedding_iff, Dict.isEmbedding_iff]
  simp only [contains_members]
  constructor
  · rintro ⟨hkey, hleast⟩
    refine ⟨hkey.resolve_right fun h => (not_lt_of_own? h).2 rfl, fun key h => ?_⟩
    exact hleast key (.inl h)
  · rintro ⟨hkey, hleast⟩
    refine ⟨.inl hkey, fun key h => ?_⟩
    exact h.elim (hleast key) fun h => (not_lt_of_own? h).1

theorem embedded?_members : Json.embedded? (Dict.ofList e.members).entries = none := by
  rw [Option.eq_none_iff_forall_ne_some]
  intro s hs
  obtain ⟨key, hentries⟩ := Json.embedded?_eq_some_iff.1 hs
  have honly : ∀ k, (e.own? k).isSome = true → k = key := by
    intro k hk
    have hmem := Dict.mem_keys_iff.2 (contains_members.2 (.inr hk))
    rw [Dict.keys, hentries] at hmem
    simpa using hmem
  exact absurd ((honly "id" rfl).trans (honly "schema" rfl).symm) (by decide)

theorem ofText?_document (h : ∀ v ∈ e.extra.values, v.IsValue) :
    Json.ofText? e.document.compact = if Json.isEmbedding e.extra.entries then none
      else (Entries.mapValues? (Json.reread? memberBound) (Dict.ofList e.members).entries).map
        Json.object := by
  rw [Json.ofText?_compact_eq_reread? (isValue_document h)]
  show Json.reread? (memberBound + 1) (.object (Dict.ofList e.members).entries) = _
  rw [Json.reread?, isEmbedding_members, embedded?_members, Json.rereadMembers?_eq]
  rfl

/-- No list of texts embeds one, but the properties embed one if the first is so named. -/
theorem reread?_propertiesJson : e.propertiesJson.reread? memberBound =
    if e.propertiesJson.embeds then none else some e.propertiesJson := by
  have hvalues : ∀ m ∈ e.properties.entries.map fun p => (p.1, Json.ofTexts p.2),
      ∃ texts, m.2 = .ofTexts texts := by
    intro m hm
    obtain ⟨p, -, rfl⟩ := List.mem_map.1 hm
    exact ⟨p.2, rfl⟩
  rw [propertiesJson]
  generalize (e.properties.entries.map fun p => (p.1, Json.ofTexts p.2)) = members at hvalues
  have hembedded : Json.embedded? members = none := by
    rw [Option.eq_none_iff_forall_ne_some]
    intro s hs
    obtain ⟨key, rfl⟩ := Json.embedded?_eq_some_iff.1 hs
    obtain ⟨texts, htexts⟩ := hvalues _ List.mem_cons_self
    cases htexts
  have hplain : Json.embedsMember members = false := by
    rw [Json.embedsMember_eq_false_iff]
    intro m hm
    obtain ⟨texts, htexts⟩ := hvalues m hm
    rw [htexts, Json.ofTexts, Json.embeds, Json.embedsItem_eq_false_iff]
    intro x hx
    obtain ⟨s, -, rfl⟩ := List.mem_map.1 hx
    rfl
  have hsame : Json.rereadMembers? 125 members = some members := by
    rw [Json.rereadMembers?_eq, Entries.mapValues?_eq_self_iff]
    intro m hm
    obtain ⟨texts, htexts⟩ := hvalues m hm
    rw [htexts]
    exact Json.reread?_ofTexts 124 texts
  show Json.reread? (125 + 1) (.object members) = _
  rw [Json.reread?, hembedded, hsame, Json.embeds, hplain, Bool.or_false]
  rfl

theorem reread?_own (h : e.own? key = some v) (hkey : key ≠ "properties") :
    v.reread? memberBound = some v := by
  unfold own? at h
  split_ifs at h <;> cases h
  · exact Json.reread?_text _ _
  · exact Json.reread?_text _ _
  · exact Json.reread?_ofTexts _ _

/-- What is read of the document finds what its members are read as. -/
theorem get?_of_ofText? {d : Dict Json} (h : ∀ v ∈ e.extra.values, v.IsValue)
    (hd : Json.ofText? e.document.compact = some (.ofDict d)) (key : String) :
    d.get? key = ((e.extra.get? key).or (e.own? key)).bind (Json.reread? memberBound) := by
  rw [ofText?_document h] at hd
  split_ifs at hd
  obtain ⟨ms, hms, heq⟩ := Option.map_eq_some_iff.1 hd
  have hentries : ms = d.entries := Json.object.inj heq
  rw [hentries] at hms
  rw [← get?_members]
  exact Entries.find?_mapValues? hms key

theorem exists_ofText?_document_iff (h : ∀ v ∈ e.extra.values, v.IsValue) :
    (∃ d, Json.ofText? e.document.compact = some (.ofDict d)) ↔
      Json.isEmbedding e.extra.entries = false ∧
        ∀ m ∈ (Dict.ofList e.members).entries, (m.2.reread? memberBound).isSome = true := by
  rw [ofText?_document h, ← Entries.isSome_mapValues?_iff, Option.isSome_iff_exists]
  split_ifs with hembeds
  · simp [hembeds]
  · constructor
    · rintro ⟨d, hd⟩
      obtain ⟨ms, hms, -⟩ := Option.map_eq_some_iff.1 hd
      exact ⟨by simpa using hembeds, ms, hms⟩
    · rintro ⟨-, ms, hms⟩
      have hkeys : Entries.Increasing ms := by
        rw [Entries.increasing_iff, Entries.map_fst_mapValues? hms, ← Entries.increasing_iff]
        exact Dict.increasing _
      exact ⟨⟨ms, hkeys⟩, by rw [hms]; rfl⟩

/-- The entity's own members can be read if no property embeds a text, and otherwise only where an
extra member hides the properties. -/
theorem forall_members_readable_iff :
    (∀ m ∈ (Dict.ofList e.members).entries, (m.2.reread? memberBound).isSome = true) ↔
      (e.extra.get? "properties" = none → e.propertiesJson.embeds = false) ∧
      ∀ v ∈ e.extra.values, v.Readable memberBound := by
  simp only [← Json.isSome_reread?_iff]
  have hmem : ∀ key v, (key, v) ∈ (Dict.ofList e.members).entries ↔
      (e.extra.get? key).or (e.own? key) = some v := fun key v => by
    rw [Dict.mem_entries_iff, get?_members]
  constructor
  · refine fun hall => ⟨fun hnone => ?_, fun v hv => ?_⟩
    · have hproperties := hall _ ((hmem "properties" e.propertiesJson).2 (by rw [hnone]; rfl))
      rw [reread?_propertiesJson] at hproperties
      by_contra hembeds
      simp [hembeds] at hproperties
    · obtain ⟨key, hkey⟩ := Dict.mem_values_iff.1 hv
      exact hall _ ((hmem key v).2 (by rw [hkey]; rfl))
  · rintro ⟨hproperties, hextra⟩ ⟨key, v⟩ hm
    rw [hmem] at hm
    cases hkey : e.extra.get? key with
    | some w =>
      rw [hkey, Option.some_or] at hm
      cases hm
      exact hextra v (Dict.mem_values_iff.2 ⟨key, hkey⟩)
    | none =>
      rw [hkey, Option.none_or] at hm
      by_cases hname : key = "properties"
      · subst hname
        cases hm
        rw [reread?_propertiesJson, hproperties hkey]
        rfl
      · rw [reread?_own hm hname]
        rfl

theorem agrees_iff_faithful (h : ∀ v ∈ e.extra.values, v.IsValue) :
    Store.Agrees (Store.rowValues e) ↔ Faithful e := by
  constructor
  · rintro ⟨id, schema, dataset, text, d, hvalues, hd, hid, hschema, hdataset⟩
    cases hvalues
    have hget := get?_of_ofText? h hd
    obtain ⟨hplain, hreadable⟩ := (exists_ofText?_document_iff h).1 ⟨d, hd⟩
    obtain ⟨hproperties, hextra⟩ := forall_members_readable_iff.1 hreadable
    have hextraGet : ∀ key v, e.extra.get? key = some v → d.get? key = v.reread? memberBound := by
      intro key v hv
      rw [hget key, hv]
      rfl
    refine ⟨hplain, hproperties, hextra, fun v hv => ?_, fun v hv => ?_, fun v hv => ?_⟩
    · rw [← hextraGet "id" v hv, hid]
    · rw [← hextraGet "schema" v hv, hschema]
    · have hlist := hextraGet "datasets" v hv
      have hsome := (hextra v (Dict.mem_values_iff.2 ⟨_, hv⟩)).isSome_reread?
      rcases Store.firstDataset_iff.1 hdataset with ⟨hnone, -⟩ | ⟨items, hitems, hhead⟩
      · rw [← hlist, hnone] at hsome
        cases hsome
      · exact ⟨items, hlist.symm.trans hitems, hhead⟩
  · intro hf
    obtain ⟨d, hd⟩ := (exists_ofText?_document_iff h).2
      ⟨hf.extra, forall_members_readable_iff.2 ⟨hf.properties, hf.readable⟩⟩
    have hget := get?_of_ofText? h hd
    refine ⟨_, _, _, _, d, rfl, hd, ?_, ?_, ?_⟩
    · rw [hget "id"]
      cases hv : e.extra.get? "id" with
      | some v => exact hf.id v hv
      | none => exact Json.reread?_text memberBound e.id
    · rw [hget "schema"]
      cases hv : e.extra.get? "schema" with
      | some v => exact hf.schema v hv
      | none => exact Json.reread?_text memberBound e.schema
    · have hlist := hget "datasets"
      refine Store.firstDataset_iff.2 ?_
      cases hv : e.extra.get? "datasets" with
      | some v =>
        obtain ⟨items, hitems, hhead⟩ := hf.datasets v hv
        rw [hv] at hlist
        exact .inr ⟨items, hlist.trans hitems, hhead⟩
      | none =>
        rw [hv, Option.none_or] at hlist
        cases hdatasets : e.datasets with
        | nil =>
          refine .inl ⟨?_, rfl⟩
          rw [hlist]
          simp [own?, hdatasets]
        | cons s texts =>
          refine .inr ⟨(s :: texts).map .text, ?_, rfl⟩
          have hown : e.own? "datasets" = some (.ofTexts (s :: texts)) := by
            simp [own?, hdatasets]
          rw [hlist, hown]
          exact Json.reread?_ofTexts _ _

end Entity

namespace Store

variable {e : Entity}

theorem indexDeleteSql_ne_insertSql (t : EntityTable) : t.indexDeleteSql ≠ t.insertSql := by
  have hdelete : t.indexDeleteSql = "DELETE FROM " ++ (t.indexTable ++ " WHERE id = ?") :=
    String.append_assoc
  have hinsert : t.insertSql = "INSERT OR REPLACE INTO " ++
      (t.name ++ " (id, schema, dataset, entity) VALUES (?, ?, ?, ?)") := String.append_assoc
  rw [hdelete, hinsert]
  exact append_ne_append 0 (by decide) (by decide) (by decide) _ _

/-- A row is put first, and once. -/
theorem putCalls_eq_cons (s : Store) (e : Entity) : ∃ rest,
    s.putCalls e = ⟨s.table.insertSql, rowValues e⟩ :: rest ∧
      ∀ call ∈ rest, call.sql ≠ s.table.insertSql := by
  refine ⟨_, rfl, fun call hcall => ?_⟩
  rcases List.mem_cons.1 hcall with rfl | hcall
  · exact indexDeleteSql_ne_insertSql s.table
  · split_ifs at hcall
    · cases hcall
    · rw [List.mem_singleton.1 hcall]
      exact (insertSql_ne s.table).symm

/-- An entity that is read from a row that agrees with its document has the id and the schema of the
row. -/
theorem ids_of_agrees (h : Agrees (rowValues e)) {row : Row} {e' : Entity}
    (hrow : row.value? "entity" = (rowValues e)[3]?) (he' : entityOf row = .ok e') :
    e'.id = e.id ∧ e'.schema = e.schema := by
  obtain ⟨id, schema, dataset, text, d, hvalues, hd, hid, hschema, -⟩ := h
  cases hvalues
  have hdocument : row.document? "entity" = some (.ofDict d) := by
    rw [Row.document?, hrow]
    exact hd
  rw [entityOf, hdocument] at he'
  cases hread : Entity.ofJson? (.ofDict d) with
  | none => simp [hread] at he'
  | some read =>
    have hsame : read = e' := by simpa [hread] using he'
    have hreads := Entity.ofJson?_eq_some_iff.1 (hread.trans (congrArg some hsame))
    have hidText := Option.some.inj (hreads.id.symm.trans hid)
    have hschemaText := Option.some.inj (hreads.schema.symm.trans hschema)
    exact ⟨Json.text.inj hidText, Json.text.inj hschemaText⟩

/-- **Rows agree with their documents exactly where nothing is hidden and all can be read.** An
entity is put by its calls, of which the first one binds its row. The row agrees with the document
in it exactly if the entity is faithful, and then an entity that is read from it has the id and the
schema of the row. -/
theorem rows_agree_iff_faithful (s : Store) (h : e.Built) :
    (∀ {σ : Type} (db : Database σ), s.put db e = Work.runCalls db (s.putCalls e)) ∧
    (∃ rest, s.putCalls e = ⟨s.table.insertSql, rowValues e⟩ :: rest ∧
      ∀ call ∈ rest, call.sql ≠ s.table.insertSql) ∧
    (Agrees (rowValues e) ↔ e.Faithful) ∧
    (e.Faithful → ∀ (row : Row) (e' : Entity), row.value? "entity" = (rowValues e)[3]? →
      entityOf row = .ok e' → e'.id = e.id ∧ e'.schema = e.schema) :=
  ⟨fun db => put_eq db s e, putCalls_eq_cons s e, Entity.agrees_iff_faithful h.isValue,
    fun hf _ _ => ids_of_agrees ((Entity.agrees_iff_faithful h.isValue).2 hf)⟩

/-- A person with a note, whose extra id is its own. -/
theorem annotated_row_agrees : ∃ s e, Store.new "ftm" Model.bundled.registry = .ok s ∧
    ((((Entity.new "p1" "Person").withProperty "name" "A").withDataset "d").withExtra "id"
      (.text "p1")).withExtra "note" (.object [("source", .array [.int 1])]) = e ∧
    e.Built ∧ e.Faithful ∧ Agrees (rowValues e) ∧
    ∃ rest, s.putCalls e = ⟨s.table.insertSql, rowValues e⟩ :: rest := by
  obtain ⟨t, ht⟩ : ∃ t, EntityTable.new "ftm" = .ok t := ⟨_, rfl⟩
  have hs : Store.new "ftm" Model.bundled.registry = .ok ⟨t, Model.bundled.registry⟩ := by
    rw [new, ht]
    rfl
  have hnote : (Json.object [("source", .array [.int 1])]).IsValue := by
    refine .object (List.pairwise_singleton _ _) ?_
    simp only [List.forall_mem_singleton]
    exact .array (by simpa using .int rfl)
  have hbuilt : Entity.Built (((((Entity.new "p1" "Person").withProperty "name" "A").withDataset
      "d").withExtra "id" (.text "p1")).withExtra "note" (.object [("source", .array [.int 1])])) :=
    .withExtra _ hnote (.withExtra _ (.text _) (.withDataset _ (.withProperty _ _ (.new _ _))))
  have hfaithful : Entity.Faithful (((((Entity.new "p1" "Person").withProperty "name"
      "A").withDataset "d").withExtra "id" (.text "p1")).withExtra "note"
      (.object [("source", .array [.int 1])])) := by
    refine ⟨rfl, fun _ => rfl, ?_, fun v hv => ?_, fun v hv => ?_, fun v hv => ?_⟩
    · rintro v (hv : v ∈ [_, _])
      simp only [List.mem_cons, List.not_mem_nil, or_false] at hv
      rcases hv with rfl | rfl
      · exact .text _
      · refine .object rfl (List.forall_mem_singleton.2 (.array ?_))
        exact List.forall_mem_singleton.2 (.int 1)
    · cases hv
      rfl
    · cases hv
    · cases hv
  obtain ⟨-, ⟨rest, hput, -⟩, hagrees, -⟩ :=
    rows_agree_iff_faithful ⟨t, Model.bundled.registry⟩ hbuilt
  exact ⟨_, _, hs, rfl, hbuilt, hfaithful, hagrees.2 hfaithful, rest, hput⟩

/-- An extra member under the key of the id hides the id. -/
theorem shadowed_row_differs : ∃ e, (Entity.new "p" "P").withExtra "id" (.text "shadow") = e ∧
    e.Built ∧ ¬ Agrees (rowValues e) := by
  have hbuilt : Entity.Built ((Entity.new "p" "P").withExtra "id" (.text "shadow")) :=
    .withExtra _ (.text _) (.new _ _)
  refine ⟨_, rfl, hbuilt, fun hagrees => ?_⟩
  have hid := ((Entity.agrees_iff_faithful hbuilt.isValue).1 hagrees).id (.text "shadow") rfl
  rw [Json.reread?_text] at hid
  have hsame : "shadow" = "p" := Json.text.inj (Option.some.inj hid)
  exact absurd hsame (by decide)

end Store

end EntityQuery
