import Mathlib.Tactic
import EntityQuery.Entity
import EntityQuery.Proofs.Embedding

/-!
# Entity documents

An entity is read back from its document, and a document is written back from its entity, but for
two members that are written in one way only: properties stand in every document, and an empty list
of datasets in none. The extra members are read as values of their own, so that one which embeds a
text does not come back.

* `Entity.get?_members`: the members of a document;
* `Entity.Reads`, `Entity.ofJson?_eq_some_iff`: the entity of a document;
* `Entity.Accepted`, `Entity.Readable`, `Entity.Plain`: documents that have the shape of an entity,
  whose embedded texts can be read, and that embed none;
* `Entity.completed`: a document in the one way in which it is written;
* **`Entity.documents_round_trip`**: both ways, exactly where no text is embedded.
-/

namespace EntityQuery

/-! ## Lists of texts -/

theorem mapM_eq_some_iff_eq_map {α β : Type} {f : α → Option β} {g : β → α}
    (h : ∀ a b, f a = some b ↔ a = g b) {as : List α} {bs : List β} :
    as.mapM f = some bs ↔ as = bs.map g := by
  induction as generalizing bs with
  | nil => cases bs <;> simp
  | cons a as ih =>
    rw [List.mapM_cons, Option.bind_eq_bind, Option.bind_eq_some_iff]
    constructor
    · rintro ⟨b, hb, hrest⟩
      obtain ⟨bs', hbs', heq⟩ := Option.bind_eq_some_iff.1 hrest
      cases heq
      rw [List.map_cons, (h a b).1 hb, ih.1 hbs']
    · intro heq
      cases bs with
      | nil => cases heq
      | cons b bs =>
        obtain ⟨hb, hbs⟩ := List.cons.inj heq
        exact ⟨b, (h a b).2 hb, Option.bind_eq_some_iff.2 ⟨bs, ih.2 hbs, rfl⟩⟩

namespace Json

variable {j : Json}

theorem texts?_eq_some_iff {texts : List String} : j.texts? = some texts ↔ j = .ofTexts texts := by
  cases j with
  | array items =>
    rw [texts?, mapM_eq_some_iff_eq_map fun _ _ => text?_eq_some_iff, ofTexts, Json.array.injEq]
  | _ => simp [texts?, ofTexts]

/-- The value is a list without items. -/
def isEmptyList : Json → Bool
  | .array [] => true
  | _ => false

theorem isEmptyList_ofTexts (texts : List String) :
    (ofTexts texts).isEmptyList = texts.isEmpty := by
  cases texts <;> rfl

end Json

namespace Entity

variable {e : Entity} {d : Dict Json} {key : String} {v : Json}

/-! ## Writing -/

/-- The member of a document under a key, where no extra member stands there. -/
def own? (e : Entity) (key : String) : Option Json :=
  if key = "id" then some (.text e.id)
  else if key = "schema" then some (.text e.schema)
  else if key = "properties" then some e.propertiesJson
  else if key = "datasets" ∧ e.datasets ≠ [] then some (.ofTexts e.datasets)
  else none

/-- An extra member hides the entity's own member of the same name. -/
theorem get?_members :
    (Dict.ofList e.members).get? key = (e.extra.get? key).or (e.own? key) := by
  rw [members, Dict.get?_ofList_append]
  refine congrArg _ ?_
  -- the keys of the own members are different, so that their order does not matter
  by_cases hdatasets : e.datasets = []
  · simp only [hdatasets, List.isEmpty_nil, if_true, List.append_nil, Dict.get?, Dict.ofList,
      Entries.ofList, List.foldl_cons, List.foldl_nil, Entries.find?_insert, own?]
    by_cases h₁ : key = "id"
    · simp [h₁]
    · by_cases h₂ : key = "schema" <;> simp [h₁, h₂, Entries.find?]
  · have hne : e.datasets.isEmpty = false := by simpa using hdatasets
    simp only [hne, Bool.false_eq_true, if_false, List.cons_append, List.nil_append, Dict.get?,
      Dict.ofList, Entries.ofList, List.foldl_cons, List.foldl_nil, Entries.find?_insert, own?]
    by_cases h₁ : key = "id"
    · simp [h₁]
    · by_cases h₂ : key = "schema"
      · simp [h₂]
      · by_cases h₃ : key = "properties" <;> simp [h₁, h₂, h₃, hdatasets, Entries.find?]

theorem own?_of_not_mem (h : key ∉ known) : e.own? key = none := by
  simp only [known, List.mem_cons, List.not_mem_nil, or_false, not_or] at h
  simp [own?, h]

/-! ## Reading -/

theorem valuesOf_eq {entries : List (String × Json)} (h : (entries.map (·.1)).Nodup) :
    valuesOf key entries = (Entries.find? key entries).toList := by
  induction entries with
  | nil => rfl
  | cons m entries ih =>
    rw [List.map_cons, List.nodup_cons] at h
    by_cases hkey : m.1 = key
    · have hnone : Entries.find? key entries = none :=
        Entries.find?_eq_none_of_not_mem (hkey ▸ h.1)
      have hrest := ih h.2
      rw [hnone, Option.toList_none, valuesOf, List.map_eq_nil_iff] at hrest
      simp [valuesOf, Entries.find?, hkey, hrest]
    · have hrest := ih h.2
      rw [valuesOf] at hrest
      simp [valuesOf, Entries.find?, hkey, Ne.symm hkey, hrest]

theorem valuesOf_entries : valuesOf key d.entries = (d.get? key).toList := valuesOf_eq d.nodup_keys

theorem only?_entries : only? key d.entries = d.get? key := by
  rw [only?, valuesOf_entries]
  cases d.get? key <;> rfl

theorem optional?_entries {α : Type} {read? : Json → Option α} {default : α} :
    optional? key read? default d.entries = (d.get? key).elim (some default) read? := by
  rw [optional?, valuesOf_entries]
  cases d.get? key <;> rfl

theorem properties?_eq_some_iff {j : Json} {p : Dict (List String)} : properties? j = some p ↔
    ∃ listed : List (String × List String),
      j = .object (listed.map fun q => (q.1, .ofTexts q.2)) ∧ p = .ofList listed := by
  have hmember : ∀ (m : String × Json) (q : String × List String),
      m.2.texts?.map (m.1, ·) = some q ↔ m = (q.1, .ofTexts q.2) := by
    rintro ⟨name, value⟩ ⟨name', texts⟩
    simp only [Option.map_eq_some_iff, Prod.mk.injEq, Json.texts?_eq_some_iff]
    constructor
    · rintro ⟨texts, hvalue, hname, rfl⟩
      exact ⟨hname, hvalue⟩
    · rintro ⟨hname, hvalue⟩
      exact ⟨texts, hvalue, hname, rfl⟩
  cases j with
  | object members =>
    simp only [properties?, Json.members?, Option.bind_eq_bind, Option.bind_some,
      Option.bind_eq_some_iff, mapM_eq_some_iff_eq_map hmember, Json.object.injEq]
    refine exists_congr fun listed => and_congr_right fun _ => ?_
    exact ⟨fun h => (Option.some.inj h).symm, fun h => congrArg some h.symm⟩
  | _ => simp [properties?, Json.members?]

/-- The texts that are embedded in the other members can be read. -/
def Readable (d : Dict Json) : Prop :=
  ∀ key ∉ known, ∀ v, d.get? key = some v → (Json.meaning? Json.ofText? v).isSome = true

/-- The members of a document that have no meaning of their own. -/
def others (d : Dict Json) : Dict Json := d.filter fun key _ => !known.contains key

theorem get?_others : (others d).get? key = if key ∈ known then none else d.get? key := by
  rw [others, Dict.get?_filter]
  by_cases h : key ∈ known
  · rw [if_pos h]
    cases d.get? key <;> simp [h]
  · rw [if_neg h]
    cases d.get? key <;> simp [h]

/-- What the other members mean is found under their keys. -/
theorem get?_memberMeanings {ms : List (String × Json)}
    (h : Json.memberMeanings? Json.ofText? (others d).entries = some ms) :
    (Dict.ofList ms).get? key =
      if key ∈ known then none else (d.get? key).bind (Json.meaning? Json.ofText?) := by
  have hsame : Entries.Increasing ms := by
    rw [Entries.increasing_iff, Json.map_fst_memberMeanings? h]
    exact (others d).pairwise_keys
  have hget : (Dict.ofList ms).get? key = Entries.find? key ms :=
    congrArg (Entries.find? key) (Entries.ofList_eq_self hsame)
  have hfind : Entries.find? key (others d).entries = (others d).get? key := rfl
  rw [Json.memberMeanings?_eq] at h
  rw [hget, Entries.find?_mapValues? h, hfind, get?_others]
  split_ifs <;> rfl

theorem isSome_memberMeanings :
    (Json.memberMeanings? Json.ofText? (others d).entries).isSome = true ↔ Readable d := by
  rw [Json.memberMeanings?_eq, Entries.isSome_mapValues?_iff]
  have hmem : ∀ key v, (key, v) ∈ (others d).entries ↔ key ∉ known ∧ d.get? key = some v := by
    intro key v
    rw [Dict.mem_entries_iff, get?_others]
    by_cases h : key ∈ known <;> simp [h]
  constructor
  · intro h key hkey v hv
    exact h (key, v) ((hmem key v).2 ⟨hkey, hv⟩)
  · rintro h ⟨key, v⟩ hm
    obtain ⟨hkey, hv⟩ := (hmem key v).1 hm
    exact h key hkey v hv

/-- The entity is what the members of a document say: the four that have a meaning of their own, and
all others as extra members. -/
structure Reads (d : Dict Json) (e : Entity) : Prop where
  id : d.get? "id" = some (.text e.id)
  schema : d.get? "schema" = some (.text e.schema)
  properties : (d.get? "properties").elim (some .empty) properties? = some e.properties
  datasets : (d.get? "datasets").elim (some []) Json.texts? = some e.datasets
  readable : Readable d
  extra : ∀ key, e.extra.get? key =
    if key ∈ known then none else (d.get? key).bind (Json.meaning? Json.ofText?)

theorem ofJson?_eq_some_iff : ofJson? (.ofDict d) = some e ↔ Reads d e := by
  have hothers : (d.entries.filter fun m => !known.contains m.1) = (others d).entries := rfl
  have hread : ofJson? (.ofDict d) = ofMembers? d.entries := rfl
  rw [hread, ofMembers?, hothers]
  simp only [only?_entries, optional?_entries, Option.bind_eq_bind, Option.bind_eq_some_iff,
    Json.text?_eq_some_iff]
  constructor
  · rintro ⟨_, hid, id, rfl, _, hschema, schema, rfl, p, hp, ds, hds, ms, hms, h⟩
    cases h
    refine ⟨hid, hschema, hp, hds, isSome_memberMeanings.1 ?_, fun key => get?_memberMeanings hms⟩
    rw [hms]
    rfl
  · intro h
    obtain ⟨ms, hms⟩ := Option.isSome_iff_exists.1 (isSome_memberMeanings.2 h.readable)
    have hextra : Dict.ofList ms = e.extra := by
      apply Dict.ext
      intro key
      rw [get?_memberMeanings hms, h.extra key]
    refine ⟨_, h.id, e.id, rfl, _, h.schema, e.schema, rfl, e.properties, h.properties,
      e.datasets, h.datasets, ms, hms, ?_⟩
    rw [hextra]
    rfl

/-! ## Documents of entities -/

/-- The document has the shape of an entity: texts for the id and the schema, lists of texts for the
properties, and texts for the datasets, where there are any of these. -/
structure Accepted (d : Dict Json) : Prop where
  id : ∃ s, d.get? "id" = some (.text s)
  schema : ∃ s, d.get? "schema" = some (.text s)
  properties : ∀ v, d.get? "properties" = some v → ∃ members, v = .object members ∧
    ∀ m ∈ members, ∃ texts, m.2 = .ofTexts texts
  datasets : ∀ v, d.get? "datasets" = some v → ∃ texts, v = .ofTexts texts

/-- No other member embeds a text. -/
def Plain (d : Dict Json) : Prop :=
  ∀ key ∉ known, ∀ v, d.get? key = some v → v.embeds = false

/-- The document with properties, without any if it had none, and without an empty list of
datasets. -/
def completed (d : Dict Json) : Dict Json :=
  let filled := if d.contains "properties" then d else d.insert "properties" (.object [])
  if (d.get? "datasets").any Json.isEmptyList then filled.erase "datasets" else filled

theorem get?_completed : (completed d).get? key =
    if key = "properties" then some ((d.get? key).getD (.object []))
    else if key = "datasets" then (d.get? key).filter (!·.isEmptyList) else d.get? key := by
  have hfilled : (if d.contains "properties" then d
      else d.insert "properties" (.object [])).get? key =
      if key = "properties" then some ((d.get? key).getD (.object [])) else d.get? key := by
    by_cases hkey : key = "properties"
    · subst hkey
      rw [Dict.contains]
      cases h : d.get? "properties" <;> simp [h]
    · rw [if_neg hkey]
      split_ifs
      · rfl
      · rw [Dict.get?_insert, if_neg hkey]
  rw [completed]
  by_cases hkey : key = "datasets"
  · subst hkey
    cases h : d.get? "datasets" with
    | none => simpa [h] using hfilled
    | some v => cases hv : v.isEmptyList <;> simp [h, hv, hfilled, Option.filter_some]
  · rw [if_neg hkey, ← hfilled]
    split_ifs <;> simp [Dict.get?_erase, hkey]

theorem isValue_of_get? (h : (Json.ofDict d).IsValue) {v : Json} (hv : d.get? key = some v) :
    v.IsValue := by
  cases h with
  | object _ hmembers => exact hmembers (key, v) (Dict.mem_entries_iff.2 hv)

theorem Reads.accepted (h : Reads d e) : Accepted d where
  id := ⟨_, h.id⟩
  schema := ⟨_, h.schema⟩
  properties v hv := by
    have hp := h.properties
    rw [hv] at hp
    obtain ⟨listed, rfl, -⟩ := properties?_eq_some_iff.1 hp
    refine ⟨_, rfl, fun m hm => ?_⟩
    obtain ⟨q, -, rfl⟩ := List.mem_map.1 hm
    exact ⟨_, rfl⟩
  datasets v hv := by
    have hds := h.datasets
    rw [hv] at hds
    exact ⟨_, Json.texts?_eq_some_iff.1 hds⟩

/-- A document of the shape of an entity is one of an entity if its other members can be read. -/
theorem Accepted.exists_reads (h : Accepted d) (hreadable : Readable d) : ∃ e, Reads d e := by
  obtain ⟨id, hid⟩ := h.id
  obtain ⟨schema, hschema⟩ := h.schema
  have hproperties : ∃ p, (d.get? "properties").elim (some .empty) properties? = some p := by
    cases hv : d.get? "properties" with
    | none => exact ⟨_, rfl⟩
    | some v =>
      obtain ⟨members, rfl, hmembers⟩ := h.properties v hv
      choose! texts htexts using hmembers
      refine ⟨_, properties?_eq_some_iff.2 ⟨members.map fun m => (m.1, texts m), ?_, rfl⟩⟩
      rw [List.map_map, Json.object.injEq]
      exact (List.map_id members).symm.trans
        (List.map_congr_left fun m hm => Prod.ext rfl (htexts m hm))
  have hdatasets : ∃ ds, (d.get? "datasets").elim (some []) Json.texts? = some ds := by
    cases hv : d.get? "datasets" with
    | none => exact ⟨_, rfl⟩
    | some v =>
      obtain ⟨texts, htexts⟩ := h.datasets v hv
      exact ⟨texts, Json.texts?_eq_some_iff.2 htexts⟩
  obtain ⟨p, hp⟩ := hproperties
  obtain ⟨ds, hds⟩ := hdatasets
  obtain ⟨ms, hms⟩ := Option.isSome_iff_exists.1 (isSome_memberMeanings.2 hreadable)
  exact ⟨⟨id, schema, p, ds, .ofList ms⟩, hid, hschema, hp, hds, hreadable,
    fun key => get?_memberMeanings hms⟩

/-- The entity holds all members of a document: the other ones unchanged as its extra members, and
the four in the document that it has in turn. -/
structure Keeps (d : Dict Json) (e : Entity) : Prop where
  extra : ∀ key ∉ known, e.extra.get? key = d.get? key
  document : e.document = .ofDict (completed d)

theorem own?_of_reads (h : Reads d e) (hd : (Json.ofDict d).IsValue) (hkey : key ∈ known) :
    e.own? key = (completed d).get? key := by
  rw [get?_completed]
  simp only [known, List.mem_cons, List.not_mem_nil, or_false] at hkey
  rcases hkey with rfl | rfl | rfl | rfl
  · exact h.id.symm
  · exact h.schema.symm
  · have hp := h.properties
    show some e.propertiesJson = some ((d.get? "properties").getD (.object []))
    cases hv : d.get? "properties" with
    | none =>
      rw [hv] at hp
      rw [propertiesJson, ← Option.some.inj hp]
      rfl
    | some v =>
      rw [hv] at hp
      obtain ⟨listed, rfl, hlisted⟩ := properties?_eq_some_iff.1 hp
      -- the members are in order already, so that nothing moves or goes
      have hkeys : Entries.Increasing listed := by
        cases isValue_of_get? hd hv with
        | object hkeys _ =>
          rw [Entries.increasing_iff] at hkeys ⊢
          simpa [List.map_map, Function.comp_def] using hkeys
      have hentries : (Dict.ofList listed).entries = listed := Entries.ofList_eq_self hkeys
      rw [propertiesJson, hlisted, hentries]
      rfl
  · have hds := h.datasets
    show (if "datasets" = "datasets" ∧ e.datasets ≠ [] then some (Json.ofTexts e.datasets)
      else none) = (d.get? "datasets").filter (!·.isEmptyList)
    cases hv : d.get? "datasets" with
    | none =>
      rw [hv] at hds
      rw [← Option.some.inj hds]
      rfl
    | some v =>
      rw [hv] at hds
      rw [Json.texts?_eq_some_iff.1 hds, Option.filter_some, Json.isEmptyList_ofTexts]
      cases e.datasets <;> simp

theorem Reads.get?_known (h : Reads d e) (hkey : key ∈ known) : e.extra.get? key = none := by
  rw [h.extra key, if_pos hkey]

/-- A document that embeds no text can be read. -/
theorem Plain.readable (h : Plain d) (hd : (Json.ofDict d).IsValue) : Readable d := by
  intro key hkey v hv
  rw [(Json.meaning?_eq_self_iff (isValue_of_get? hd hv)).2 (h key hkey v hv)]
  rfl

theorem Reads.keeps_iff (h : Reads d e) (hd : (Json.ofDict d).IsValue) : Keeps d e ↔ Plain d := by
  constructor
  · intro hkeeps key hkey v hv
    have hextra := h.extra key
    rw [hkeeps.extra key hkey, if_neg hkey, hv, Option.bind_some] at hextra
    exact (Json.meaning?_eq_self_iff (isValue_of_get? hd hv)).1 hextra.symm
  · intro hplain
    have hextra : ∀ key ∉ known, e.extra.get? key = d.get? key := by
      intro key hkey
      rw [h.extra key, if_neg hkey]
      cases hv : d.get? key with
      | none => rfl
      | some v => exact (Json.meaning?_eq_self_iff (isValue_of_get? hd hv)).2 (hplain key hkey v hv)
    refine ⟨hextra, congrArg Json.ofDict (Dict.ext fun key => ?_)⟩
    rw [get?_members]
    by_cases hkey : key ∈ known
    · rw [h.get?_known hkey, Option.none_or, own?_of_reads h hd hkey]
    · rw [hextra key hkey, own?_of_not_mem hkey, Option.or_none, get?_completed]
      simp only [known, List.mem_cons, List.not_mem_nil, or_false, not_or] at hkey
      rw [if_neg hkey.2.2.1, if_neg hkey.2.2.2]

theorem isValue_ofTexts (texts : List String) : (Json.ofTexts texts).IsValue := by
  refine .array fun x hx => ?_
  obtain ⟨s, -, rfl⟩ := List.mem_map.1 hx
  exact .text s

theorem isValue_own (h : e.own? key = some v) : v.IsValue := by
  unfold own? at h
  split_ifs at h <;> cases h
  · exact .text _
  · exact .text _
  · refine .object (List.pairwise_map.2 e.properties.increasing) fun m hm => ?_
    obtain ⟨p, -, rfl⟩ := List.mem_map.1 hm
    exact isValue_ofTexts p.2
  · exact isValue_ofTexts _

theorem isValue_document (h : ∀ v ∈ e.extra.values, v.IsValue) : e.document.IsValue := by
  refine .object (Dict.increasing _) fun m hm => ?_
  have hget := Dict.mem_entries_iff.1 hm
  rw [get?_members] at hget
  cases hextra : e.extra.get? m.1 with
  | some v =>
    rw [hextra, Option.some_or] at hget
    cases hget
    exact h _ (Dict.mem_values_iff.2 ⟨_, hextra⟩)
  | none =>
    rw [hextra, Option.none_or] at hget
    exact isValue_own hget

/-- The document of an entity without extra members of the four names has the shape of one. -/
theorem accepted_document (hknown : ∀ key ∈ known, e.extra.get? key = none) :
    Accepted (.ofList e.members) := by
  have hget : ∀ key ∈ known, (Dict.ofList e.members).get? key = e.own? key := by
    intro key hkey
    rw [get?_members, hknown key hkey, Option.none_or]
  refine ⟨⟨e.id, hget "id" (by decide)⟩, ⟨e.schema, hget "schema" (by decide)⟩, fun v hv => ?_,
    fun v hv => ?_⟩
  · rw [hget "properties" (by decide)] at hv
    cases hv
    refine ⟨_, rfl, fun m hm => ?_⟩
    obtain ⟨p, -, rfl⟩ := List.mem_map.1 hm
    exact ⟨p.2, rfl⟩
  · rw [hget "datasets" (by decide)] at hv
    simp only [own?, String.reduceEq, if_false, true_and, ite_not, Option.ite_none_left_eq_some,
      Option.some.injEq] at hv
    exact ⟨_, hv.2.symm⟩

/-- An entity without extra members of the four names is read back exactly where none of its extra
members embeds a text. -/
theorem ofJson?_document_iff (hvalues : ∀ v ∈ e.extra.values, v.IsValue)
    (hknown : ∀ key ∈ known, e.extra.get? key = none) :
    ofJson? e.document = some e ↔ ∀ v ∈ e.extra.values, v.embeds = false := by
  have hget : ∀ key ∈ known, (Dict.ofList e.members).get? key = e.own? key := by
    intro key hkey
    rw [get?_members, hknown key hkey, Option.none_or]
  have hother : ∀ key ∉ known, (Dict.ofList e.members).get? key = e.extra.get? key := by
    intro key hkey
    rw [get?_members, own?_of_not_mem hkey, Option.or_none]
  have hself : ∀ {key v}, e.extra.get? key = some v →
      (Json.meaning? Json.ofText? v = some v ↔ v.embeds = false) := fun h =>
    Json.meaning?_eq_self_iff (hvalues _ (Dict.mem_values_iff.2 ⟨_, h⟩))
  have hnot : ∀ {key v}, e.extra.get? key = some v → key ∉ known := by
    intro key v h hkey
    rw [hknown key hkey] at h
    cases h
  rw [document, ofJson?_eq_some_iff]
  constructor
  · intro h v hv
    obtain ⟨key, hkey⟩ := Dict.mem_values_iff.1 hv
    have hextra := h.extra key
    rw [if_neg (hnot hkey), hother key (hnot hkey), hkey, Option.bind_some] at hextra
    exact (hself hkey).1 hextra.symm
  · intro hplain
    have hmeaning : ∀ {key v}, e.extra.get? key = some v →
        Json.meaning? Json.ofText? v = some v := fun h =>
      (hself h).2 (hplain _ (Dict.mem_values_iff.2 ⟨_, h⟩))
    refine ⟨?_, ?_, ?_, ?_, ?_, ?_⟩
    · rw [hget "id" (by decide)]
      rfl
    · rw [hget "schema" (by decide)]
      rfl
    · rw [hget "properties" (by decide)]
      exact properties?_eq_some_iff.2 ⟨e.properties.entries, rfl, e.properties.ofList_entries.symm⟩
    · rw [hget "datasets" (by decide)]
      cases hds : e.datasets with
      | nil => simp [own?, hds]
      | cons dataset datasets =>
        simpa [own?, hds] using Json.texts?_eq_some_iff.2 rfl
    · intro key hkey v hv
      rw [hother key hkey] at hv
      rw [hmeaning hv]
      rfl
    · intro key
      split_ifs with hkey
      · exact hknown key hkey
      · rw [hother key hkey]
        cases hv : e.extra.get? key with
        | none => rfl
        | some v => exact (hmeaning hv).symm

theorem exists_dict_of_isValue {j : Json} (hj : j.IsValue) (h : ofJson? j = some e) :
    ∃ d, j = .ofDict d ∧ Reads d e := by
  cases hj with
  | @object members hkeys _ => exact ⟨⟨members, hkeys⟩, rfl, ofJson?_eq_some_iff.1 h⟩
  | _ => cases h

/-- **Entity documents round-trip exactly where they embed no text.** An entity without extra
members of the four names is read back from its document if no extra member embeds a text, and only
then. A value is read as an entity if it has the shape of one and the texts embedded in its other
members can be read, and only then. The entity has no extra members of the four names, and it keeps
all members of the document if none of the others embeds a text, and only then. -/
theorem documents_round_trip :
    (∀ e : Entity, (∀ v ∈ e.extra.values, v.IsValue) →
      (∀ key ∈ known, e.extra.get? key = none) →
        (ofJson? e.document = some e ↔ ∀ v ∈ e.extra.values, v.embeds = false)) ∧
    (∀ j : Json, j.IsValue →
      ((∃ e, ofJson? j = some e) ↔ ∃ d, j = .ofDict d ∧ Accepted d ∧ Readable d)) ∧
    (∀ (d : Dict Json) (e : Entity), (Json.ofDict d).IsValue → ofJson? (.ofDict d) = some e →
      (∀ key ∈ known, e.extra.get? key = none) ∧ (Keeps d e ↔ Plain d)) ∧
    ∀ d : Dict Json, (Json.ofDict d).IsValue → Plain d → Readable d := by
  refine ⟨fun e => ofJson?_document_iff, fun j hj => ⟨?_, ?_⟩, fun d e hd he => ?_,
    fun d hd hplain => hplain.readable hd⟩
  · rintro ⟨e, he⟩
    obtain ⟨d, rfl, hreads⟩ := exists_dict_of_isValue hj he
    exact ⟨d, rfl, hreads.accepted, hreads.readable⟩
  · rintro ⟨d, rfl, haccepted, hreadable⟩
    obtain ⟨e, he⟩ := haccepted.exists_reads hreadable
    exact ⟨e, ofJson?_eq_some_iff.2 he⟩
  · have hreads := ofJson?_eq_some_iff.1 he
    exact ⟨fun key => hreads.get?_known, hreads.keeps_iff hd⟩

/-- An entity with a nested extra member, and a document without properties and with an empty list
of datasets. -/
theorem nested_extra_read_back :
    (∃ e, (((new "a" "P").withProperty "name" "B").withDataset "d").withExtra "x"
        (.object [("k", .array [.int 1, .null])]) = e ∧ ofJson? e.document = some e) ∧
      ∃ d e, Dict.ofList [("id", .text "a"), ("schema", .text "P"), ("datasets", .array []),
          ("x", .array [.bool true])] = d ∧ ofJson? (.ofDict d) = some e ∧ Accepted d ∧
        Keeps d e := by
  obtain ⟨hback, haccept, hkeep, hreadable⟩ := documents_round_trip
  constructor
  · refine ⟨_, rfl, (hback _ ?_ ?_).2 ?_⟩
    · rintro v (hv : v ∈ [_])
      rw [List.mem_singleton] at hv
      subst hv
      refine .object (List.pairwise_singleton _ _) ?_
      simp only [List.forall_mem_singleton]
      refine .array ?_
      simp only [List.forall_mem_cons, List.not_mem_nil, false_implies, implies_true, and_true]
      exact ⟨.int rfl, .null⟩
    · simp only [known, List.forall_mem_cons, List.not_mem_nil, false_implies, implies_true,
        and_true]
      exact ⟨rfl, rfl, rfl, rfl⟩
    · rintro v (hv : v ∈ [_])
      rw [List.mem_singleton] at hv
      subst hv
      rfl
  · have hvalue : (Json.ofDict (Dict.ofList [("id", .text "a"), ("schema", .text "P"),
        ("datasets", .array []), ("x", .array [.bool true])])).IsValue := by
      refine .object (Dict.increasing _) fun m hm => ?_
      have hmem := Dict.mem_of_mem_entries_ofList hm
      simp only [List.mem_cons, List.not_mem_nil, or_false] at hmem
      rcases hmem with rfl | rfl | rfl | rfl
      · exact .text _
      · exact .text _
      · exact .array (by simp)
      · exact .array (by simpa using .bool true)
    have haccepted : Accepted (Dict.ofList [("id", .text "a"), ("schema", .text "P"),
        ("datasets", .array []), ("x", .array [.bool true])]) :=
      ⟨⟨_, rfl⟩, ⟨_, rfl⟩, (fun _ hv => nomatch hv),
        fun _ hv => ⟨[], (Option.some.inj hv).symm⟩⟩
    have hplain : Plain (Dict.ofList [("id", .text "a"), ("schema", .text "P"),
        ("datasets", .array []), ("x", .array [.bool true])]) := by
      intro key hkey v hv
      have hmem := Dict.mem_of_mem_entries_ofList (Dict.mem_entries_iff.2 hv)
      simp only [List.mem_cons, List.not_mem_nil, or_false, Prod.mk.injEq] at hmem
      rcases hmem with ⟨-, rfl⟩ | ⟨-, rfl⟩ | ⟨-, rfl⟩ | ⟨-, rfl⟩ <;> rfl
    obtain ⟨e, he⟩ := (haccept _ hvalue).2 ⟨_, rfl, haccepted, hreadable _ hvalue hplain⟩
    exact ⟨_, e, rfl, he, haccepted, (hkeep _ e hvalue he).2.2 hplain⟩

/-- An extra member whose value holds an object of two members, the first one under the embedding
key. -/
theorem embedded_text_refused :
    ∃ e, (new "a" "P").withExtra "x"
        (.object [(Json.embeddingKey, .text "2"), ("a", .int 1)]) = e ∧
      (∀ key ∈ known, e.extra.get? key = none) ∧
      (∃ d, e.document = .ofDict d ∧ (Json.ofDict d).IsValue ∧ Accepted d) ∧
      ofJson? e.document = none := by
  have hextra : ∀ key ∈ known, ((new "a" "P").withExtra "x"
      (.object [(Json.embeddingKey, .text "2"), ("a", .int 1)])).extra.get? key = none := by
    simp only [known, List.forall_mem_cons, List.not_mem_nil, false_implies, implies_true,
      and_true]
    exact ⟨rfl, rfl, rfl, rfl⟩
  refine ⟨_, rfl, hextra, ⟨_, rfl, isValue_document ?_, accepted_document hextra⟩, rfl⟩
  rintro v (hv : v ∈ [_])
  rw [List.mem_singleton] at hv
  subst hv
  refine .object (List.pairwise_pair.2 (by decide)) ?_
  simp only [List.forall_mem_cons, List.not_mem_nil, false_implies, implies_true, and_true]
  exact ⟨.text _, .int rfl⟩

end Entity

end EntityQuery
