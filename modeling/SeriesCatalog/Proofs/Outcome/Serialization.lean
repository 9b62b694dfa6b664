import SeriesCatalog.Outcome.Accumulator
import SeriesCatalog.Proofs.Json.Sameness
import SeriesCatalog.Proofs.Series.Canonical

/-! An outcome as a document loses nothing. The collections keep their order, one that is empty is left out, and values
that are not there are null, so that all of them can be told from the document. The tags of a series become an object,
which has no order, but those of an identity are sorted and have distinct keys. -/

namespace SeriesCatalog

open Identity (TextTag ofTexts AreSorted)
open Json (Tells record sameValue)

/-! ### Plain entries -/

/-- A name that is a text with a count that is an integer. -/
def NameCount.IsPlain (entry : NameCount) : Prop := ∃ name count, entry = (.str name, .int count)

def TagEntry.IsPlain (entry : TagEntry) : Prop :=
  NameCount.IsPlain entry.1 ∧ ∀ values, entry.2 = some values → ∀ value ∈ values, NameCount.IsPlain value

/-- The identity of a metric and tags that are texts. -/
def Series.IsPlain (s : Series) : Prop :=
  ∃ (metric : String) (tags : List TextTag) (i : Identity),
    Identity.build (.str metric) (ofTexts tags) = .ok i ∧ s = .identity i

/-- An outcome without an exception, of plain entries. -/
structure Outcome.IsPlain (o : Outcome) : Prop where
  exception : o.exception = none
  namespaces : ∀ name ∈ o.namespaces, ∃ text, name = .str text
  metrics : ∀ metric ∈ o.metrics, NameCount.IsPlain metric
  tagKeysOrValues : ∀ tag ∈ o.tagKeysOrValues, NameCount.IsPlain tag
  tags : ∀ tag ∈ o.tags, TagEntry.IsPlain tag
  series : ∀ s ∈ o.series, s.IsPlain

namespace Json

theorem same_str {s t : String} : (Json.str s).same (.str t) = true ↔ s = t := by rw [same, beq_iff_eq]

theorem same_int {m n : Int} : (Json.int m).same (.int n) = true ↔ m = n := by
  simp [same, sameNumber, place?, Double.Place.same]

theorem tells_str : Tells (fun v => ∃ text, v = .str text) id := by
  rintro _ _ ⟨s, rfl⟩ ⟨t, rfl⟩
  rw [id, id, same_str, str.injEq]

end Json

namespace Outcome

theorem nameCountJson_eq_record (entry : NameCount) :
    nameCountJson entry = record [("name", some entry.1), ("count", some entry.2)] := rfl

theorem tells_nameCountJson : Tells NameCount.IsPlain nameCountJson := by
  rintro _ _ ⟨name, count, rfl⟩ ⟨name', count', rfl⟩
  rw [nameCountJson_eq_record, nameCountJson_eq_record, Json.same_record_iff]
  · simp [sameValue, Json.same_str, Json.same_int]
  · rfl
  · simp

/-- Values as a document; null is no list. -/
def valuesJson (values : Option (List NameCount)) : Json :=
  match values with
  | some values => .arr (values.map nameCountJson)
  | none => .null

theorem tells_valuesJson :
    Tells (fun values => ∀ list, values = some list → ∀ value ∈ list, NameCount.IsPlain value) valuesJson := by
  intro values values' h h'
  cases values with
  | none => cases values' <;> simp [valuesJson, Json.same]
  | some list =>
      cases values' with
      | none => simp [valuesJson, Json.same]
      | some list' =>
          rw [valuesJson, valuesJson, tells_nameCountJson.arr (h list rfl) (h' list' rfl), Option.some.injEq]

theorem tagJson_eq_record (entry : TagEntry) : tagJson entry =
    record [("key", some entry.1.1), ("count", some entry.1.2), ("values", some (valuesJson entry.2))] := rfl

theorem tells_tagJson : Tells TagEntry.IsPlain tagJson := by
  rintro ⟨_, values⟩ ⟨_, values'⟩ ⟨⟨name, count, rfl⟩, h⟩ ⟨⟨name', count', rfl⟩, h'⟩
  rw [tagJson_eq_record, tagJson_eq_record, Json.same_record_iff]
  · simp [sameValue, Json.same_str, Json.same_int, tells_valuesJson h h', and_assoc]
  · rfl
  · simp

/-- The tags of an identity of texts are told by its object. -/
theorem same_tagMap_iff {metric metric' : Json} {sorted sorted' : List TextTag} (h : AreSorted sorted)
    (h' : AreSorted sorted') :
    (Json.obj (tagMap ⟨metric, ofTexts sorted⟩)).same (.obj (tagMap ⟨metric', ofTexts sorted'⟩)) = true ↔
      sorted = sorted' := by
  have hnames : ∀ {tags : List TextTag}, AreSorted tags → ((tags.map (Prod.map id Json.str)).map (·.1)).Nodup := by
    intro tags htags
    rw [List.map_map]
    exact htags.nodup
  rw [Identity.tagMap_ofTexts metric h, Identity.tagMap_ofTexts metric' h', Json.same_obj_iff (hnames h) (hnames h')]
  simp only [Assoc.lookup_map_snd]
  constructor
  · intro hsame
    refine h.eq_of_lookup h' fun key => ?_
    have hkey := hsame key
    cases hvalue : sorted.lookup key <;> cases hvalue' : sorted'.lookup key <;> simp_all [sameValue, Json.same_str]
  · rintro rfl name
    cases sorted.lookup name with
    | none => rfl
    | some value => exact Json.same_str.mpr rfl

theorem tells_seriesJson : Tells Series.IsPlain (seriesJson fun i => .obj (tagMap i)) := by
  rintro _ _ ⟨metric, tags, i, hi, rfl⟩ ⟨metric', tags', i', hi', rfl⟩
  obtain ⟨sorted, hbuild, hsorted, -⟩ := Identity.exists_build (.str metric) tags
  obtain ⟨sorted', hbuild', hsorted', -⟩ := Identity.exists_build (.str metric') tags'
  obtain rfl := Except.ok.inj (hi.symm.trans hbuild)
  obtain rfl := Except.ok.inj (hi'.symm.trans hbuild')
  have hrecord : ∀ (metric : String) (tags : List Pair),
      seriesJson (fun i => .obj (tagMap i)) (.identity ⟨.str metric, tags⟩) =
        record [("metric", some (.str metric)), ("tags", some (.obj (tagMap ⟨.str metric, tags⟩)))] := fun _ _ => rfl
  rw [hrecord, hrecord, Json.same_record_iff]
  · simp [sameValue, Json.same_str, same_tagMap_iff hsorted hsorted', Identity.ofTexts_inj]
  · rfl
  · simp

/-! ### The document -/

/-- A collection as a possible member. -/
def listed {α : Type} (toJson : α → Json) (entries : List α) : Option Json :=
  if entries.isEmpty then none else some (.arr (entries.map toJson))

theorem sameValue_listed {α : Type} {p : α → Prop} {f : α → Json} (h : Tells p f) {xs ys : List α}
    (hxs : ∀ x ∈ xs, p x) (hys : ∀ y ∈ ys, p y) : sameValue (listed f xs) (listed f ys) = true ↔ xs = ys := by
  cases xs with
  | nil => cases ys <;> simp [listed, sameValue]
  | cons x rest =>
      cases ys with
      | nil => simp [listed, sameValue]
      | cons y more => exact h.arr hxs hys

theorem collection_eq_present {α : Type} (name : String) (f : α → Json) (entries : List α) :
    collection name f entries = Json.present [(name, listed f entries)] := by
  cases entries <;> rfl

theorem toJson_eq_record {o : Outcome} (h : o.exception = none) :
    o.toJson = record [("result", some (.str o.kind.label)), ("total_hits", some (.int o.total)),
      ("namespaces", listed id o.namespaces), ("metrics", listed nameCountJson o.metrics),
      ("tag_keys_or_values", listed nameCountJson o.tagKeysOrValues), ("tags", listed tagJson o.tags),
      ("time_series", listed (seriesJson fun i => .obj (tagMap i)) o.series)] := by
  have hhead : [("result", .str o.kind.label), ("total_hits", .int o.total)] =
      Json.present [("result", some (.str o.kind.label)), ("total_hits", some (.int o.total))] := rfl
  simp only [toJson, toJsonWith, h, hhead, List.append_nil, collection_eq_present, ← Json.present_append]
  rfl

/-- Two outcomes of plain entries are written as the same document exactly if they agree in everything they show. -/
theorem toJson_same_iff {o other : Outcome} (ho : o.IsPlain) (hother : other.IsPlain) :
    o.toJson.same other.toJson = true ↔
      o.kind = other.kind ∧ o.total = other.total ∧ o.namespaces = other.namespaces ∧ o.metrics = other.metrics ∧
        o.tagKeysOrValues = other.tagKeysOrValues ∧ o.tags = other.tags ∧ o.series = other.series := by
  rw [toJson_eq_record ho.exception, toJson_eq_record hother.exception, Json.same_record_iff]
  · simp only [List.forall₂_cons, List.Forall₂.nil, and_true, Json.sameValue_some, Json.same_str, Json.same_int,
      OutcomeKind.label_inj, sameValue_listed Json.tells_str ho.namespaces hother.namespaces,
      sameValue_listed tells_nameCountJson ho.metrics hother.metrics,
      sameValue_listed tells_nameCountJson ho.tagKeysOrValues hother.tagKeysOrValues,
      sameValue_listed tells_tagJson ho.tags hother.tags, sameValue_listed tells_seriesJson ho.series hother.series]
  · rfl
  · simp

/-- Two histories that differ in the values of a tag, which are not there in one and empty in the other. -/
theorem toJson_same_iff_of_histories :
    let reached (values : Option (List NameCount)) : Outcome :=
      (Accumulator.run { kind := .data, query := none, exception := none }
        [.add (.namespaceName (.str "prod")), .add (.tag ((.str "host", .int 2), values)), .assignTotal (.str " 7 "),
          .add (.series (.identity ⟨.str "cpu", ofTexts [("host", "web01")]⟩))]).2.view
    (reached none).IsPlain ∧ (reached (some [])).IsPlain ∧
      (reached none).toJson.same (reached (some [])).toJson = false := by
  intro reached
  have hbuild : Identity.build (.str "cpu") (ofTexts [("host", "web01")]) =
      .ok ⟨.str "cpu", ofTexts [("host", "web01")]⟩ := by rfl
  have hplain : ∀ values, (∀ list, values = some list → list = []) → (reached values).IsPlain := by
    intro values hvalues
    have hview : reached values = { Outcome.start .data none none with
        total := 7, namespaces := [.str "prod"], tags := [((.str "host", .int 2), values)],
        series := [.identity ⟨.str "cpu", ofTexts [("host", "web01")]⟩] } := by
      cases values <;> rfl
    rw [hview]
    refine ⟨rfl, ?_, List.forall_mem_nil _, List.forall_mem_nil _, ?_, ?_⟩
    · exact List.forall_mem_singleton.mpr ⟨_, rfl⟩
    · refine List.forall_mem_singleton.mpr ⟨⟨_, _, rfl⟩, fun list hlist value hvalue => ?_⟩
      rw [hvalues list hlist] at hvalue
      cases hvalue
    · exact List.forall_mem_singleton.mpr ⟨_, _, _, hbuild, rfl⟩
  have hnone := hplain none (fun _ h => nomatch h)
  have hempty := hplain (some []) (fun _ h => (Option.some.inj h).symm)
  refine ⟨hnone, hempty, Bool.eq_false_iff.mpr fun hsame => ?_⟩
  obtain ⟨-, -, -, -, -, htags, -⟩ := (toJson_same_iff hnone hempty).mp hsame
  cases htags

end Outcome

end SeriesCatalog
