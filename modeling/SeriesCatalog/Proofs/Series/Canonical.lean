import Mathlib.Data.List.Nodup
import SeriesCatalog.Proofs.Interpreter.Legible
import SeriesCatalog.Proofs.Series.Sorting

/-! The identity of a metric and tags of texts is canonical. It says the metric and, for each key, the last value that
the tags give it, and nothing else: two identities are the same exactly if they agree in these. So it does not matter
in which order a document lists its tags. -/

namespace SeriesCatalog

open Assoc (last?)

namespace Identity

/-! ### Sorted tags -/

theorem AreSorted.nodup {sorted : List TextTag} (h : AreSorted sorted) : (sorted.map (·.1)).Nodup :=
  List.pairwise_map.mpr (h.imp ne_of_lt)

/-- Sorted tags are told by the values of their keys. -/
theorem AreSorted.eq_of_lookup {sorted other : List TextTag} (h : AreSorted sorted) (hother : AreSorted other)
    (hvalues : ∀ key, sorted.lookup key = other.lookup key) : sorted = other := by
  have hmem : ∀ tag : TextTag, tag ∈ sorted ↔ tag ∈ other := by
    rintro ⟨key, value⟩
    rw [Assoc.mem_iff_lookup h.nodup, Assoc.mem_iff_lookup hother.nodup, hvalues]
  have hperm := (List.perm_ext_iff_of_nodup h.nodup.of_map hother.nodup.of_map).mpr hmem
  exact hperm.eq_of_pairwise (fun _ _ _ _ hab hba => absurd hba (lt_asymm hab)) h hother

/-- Tags of distinct keys in another order have the same value for each key. -/
theorem last?_perm {tags other : List TextTag} (h : tags.Perm other) (hkeys : (tags.map (·.1)).Nodup) (key : String) :
    last? key tags = last? key other := by
  have hreversed : (tags.reverse.map (·.1)).Nodup := by
    rwa [List.map_reverse, List.nodup_reverse]
  exact Assoc.lookup_perm (tags.reverse_perm.trans (h.trans other.reverse_perm.symm)) hreversed key

/-! ### Building -/

theorem lastWins_ofTexts (tags : List TextTag) :
    Assoc.lastWins Json.same (ofTexts tags) = ofTexts (Assoc.byName tags) :=
  Assoc.lastWins_map (fun a b => by rw [Json.same]) Json.str tags

theorem comparable_ofTexts (tags : List TextTag) : Json.comparable ((ofTexts tags).map (·.1)) = true := by
  have htexts : ((ofTexts tags).map (·.1)).all Json.isText = true := by
    simp [ofTexts, ofText, Json.isText]
  simp [Json.comparable, htexts]

/-- The tags of an identity are sorted, and each of its keys has its last value. -/
theorem exists_build (metric : Json) (tags : List TextTag) :
    ∃ sorted, build metric (ofTexts tags) = .ok ⟨metric, ofTexts sorted⟩ ∧ AreSorted sorted ∧
      ∀ key, sorted.lookup key = last? key tags := by
  have hkeys : (ofTexts tags).all (·.1.isKey) = true := by
    simp [ofTexts, ofText, Json.isKey]
  obtain ⟨sorted, hsort, hperm, hsorted⟩ := exists_sortByKey (Assoc.nodup_byName tags)
  refine ⟨sorted, ?_, hsorted, fun key => ?_⟩
  · rw [build, if_pos hkeys]
    simp only [lastWins_ofTexts, comparable_ofTexts, if_true, hsort]
  · rw [← Assoc.lookup_byName]
    apply Option.ext
    intro value
    rw [← Assoc.mem_iff_lookup hsorted.nodup, ← Assoc.mem_iff_lookup (Assoc.nodup_byName tags), hperm.mem_iff]

/-- Tags that agree in the last value of each key make the same identity. -/
theorem build_congr (metric : Json) {tags other : List TextTag} (h : ∀ key, last? key tags = last? key other) :
    build metric (ofTexts tags) = build metric (ofTexts other) := by
  obtain ⟨sorted, hbuild, hsorted, hvalues⟩ := exists_build metric tags
  obtain ⟨sorted', hbuild', hsorted', hvalues'⟩ := exists_build metric other
  have hsame : sorted = sorted' := by
    apply hsorted.eq_of_lookup hsorted'
    intro key
    rw [hvalues, hvalues', h]
  rw [hbuild, hbuild', hsame]

theorem last?_of_areSorted {sorted : List TextTag} (h : AreSorted sorted) (key : String) :
    last? key sorted = sorted.lookup key := by
  rw [← Assoc.lookup_byName, Assoc.byName_eq_self h.nodup]

theorem tagMap_ofTexts (metric : Json) {sorted : List TextTag} (h : AreSorted sorted) :
    Outcome.tagMap ⟨metric, ofTexts sorted⟩ = sorted.map (Prod.map id .str) := by
  have hnames : (ofTexts sorted).map (fun tag => (tag.1.memberName, tag.2)) = sorted.map (Prod.map id .str) := by
    simp [ofTexts, ofText, Json.memberName, Function.comp_def, Prod.map]
  show Assoc.byName ((ofTexts sorted).map fun tag => (tag.1.memberName, tag.2)) = _
  rw [hnames]
  apply Assoc.byName_eq_self
  rw [List.map_map]
  exact h.nodup

theorem sameTags_ofTexts {tags other : List TextTag} :
    sameTags (ofTexts tags) (ofTexts other) = true ↔ tags = other := by
  induction tags generalizing other with
  | nil => cases other <;> simp [sameTags]
  | cons tag rest ih =>
      cases other with
      | nil => simp [sameTags]
      | cons tag' rest' =>
          simp [sameTags, ofText, Json.same, ih, Prod.ext_iff]

theorem ofTexts_inj {tags other : List TextTag} : ofTexts tags = ofTexts other ↔ tags = other := by
  have hinjective : Function.Injective ofText := by
    rintro ⟨key, value⟩ ⟨key', value'⟩ h
    simpa [ofText] using h
  exact (List.map_injective_iff.mpr hinjective).eq_iff

/-! ### Canonical identities -/

/-- An identity says its metric and the last value of each key, with its keys in order, and is built again from what
it says. -/
structure IsCanonical (metric : Json) (tags : List TextTag) (i : Identity) : Prop where
  named : i.metric = metric
  sorted : ∃ sorted, i.tags = ofTexts sorted ∧ AreSorted sorted
  lookup_tagMap : ∀ key, (Outcome.tagMap i).lookup key = (last? key tags).map .str
  nodup_tagMap : ((Outcome.tagMap i).map (·.1)).Nodup
  rebuilt : build i.metric i.tags = .ok i

theorem isCanonical_of_lookup {metric : Json} {tags sorted : List TextTag}
    (hbuild : build metric (ofTexts tags) = .ok ⟨metric, ofTexts sorted⟩) (hsorted : AreSorted sorted)
    (hvalues : ∀ key, sorted.lookup key = last? key tags) : IsCanonical metric tags ⟨metric, ofTexts sorted⟩ where
  named := rfl
  sorted := ⟨sorted, rfl, hsorted⟩
  lookup_tagMap key := by
    rw [tagMap_ofTexts metric hsorted, Assoc.lookup_map_snd, hvalues]
  nodup_tagMap := by
    rw [tagMap_ofTexts metric hsorted, List.map_map]
    exact hsorted.nodup
  rebuilt := by
    rw [← hbuild]
    apply build_congr
    intro key
    rw [last?_of_areSorted hsorted, hvalues]

end Identity

/-! ### Documents -/

open Identity (TextTag ofTexts)

/-- A document that lists tags of texts. -/
structure Hit.ListsTags (hit : Hit) (tags : List TextTag) : Prop where
  source : hit.source.isBlank = true ∨ hit.source.isObject = true
  listed : (hit.source.fieldOf Interpreter.tagsField).ListsObjects
  tags_eq : hit.tags = ofTexts tags

/-- A document of tags and metrics. -/
def Hit.ofTexts (tags : List TextTag) (metrics : List String) : Hit where
  source := .obj [
    (Interpreter.tagsField, .arr (tags.map fun (key, value) =>
      .obj [(Interpreter.tagKeyField, .str key), (Interpreter.tagValueField, .str value)])),
    (Interpreter.metricsField, .arr (metrics.map fun name => .obj [(Interpreter.metricNameField, .str name)]))]
  id := .null

theorem Hit.listsTags_ofTexts (tags : List TextTag) (metrics : List String) :
    (Hit.ofTexts tags metrics).ListsTags tags where
  source := .inr rfl
  listed := by
    refine .inr ⟨_, rfl, fun item hitem => ?_⟩
    obtain ⟨tag, -, rfl⟩ := List.mem_map.mp hitem
    rfl
  tags_eq := List.map_map.trans (List.map_congr_left fun _ _ => rfl)

namespace Interpreter

theorem listField_orElse (name : String) {source : Json} (h : source.isBlank = true ∨ source.isObject = true) :
    listField name (source.orElse (.obj [])) = ((source.fieldOf name).orElse (.arr [])).items := by
  obtain ⟨value, hvalue⟩ := Json.exists_member_iff.mpr ((Json.isObject_orElse source).mpr h)
  rw [listField, hvalue, (member_eq_ok hvalue).2, fieldOf_orElse]
  rfl

/-- Documents with the same metrics, whose tags agree in the last value of each key, have the same series. -/
theorem seriesOf_congr (metric : Option Json) {hit other : Hit} {tags more : List TextTag} (h : hit.ListsTags tags)
    (hother : other.ListsTags more) (htags : ∀ key, last? key tags = last? key more)
    (hmetrics : hit.source.fieldOf metricsField = other.source.fieldOf metricsField) :
    seriesOf Series.canonical metric hit = seriesOf Series.canonical metric other := by
  have hbuild : ∀ name, Series.canonical name (ofTexts tags) = Series.canonical name (ofTexts more) := by
    intro name
    simp only [Series.canonical, Identity.build_congr name htags]
  obtain ⟨listed, hlisted, hread⟩ := exists_tags_iff.mpr ⟨h.source, h.listed⟩
  obtain ⟨listed', hlisted', hread'⟩ := exists_tags_iff.mpr ⟨hother.source, hother.listed⟩
  rw [h.tags_eq] at hread
  rw [hother.tags_eq] at hread'
  cases metric with
  | some name => simp only [seriesOf, hlisted, hread, hlisted', hread', bind, Except.bind, hbuild]
  | none =>
      simp only [seriesOf, hlisted, hread, hlisted', hread', bind, Except.bind, hbuild,
        listField_orElse _ h.source, listField_orElse _ hother.source, hmetrics]

theorem exists_seriesOf_of_listsTags {metric : Option Json} {hit : Hit} {tags : List TextTag} (h : hit.ListsTags tags)
    (hmetrics : metric = none → (hit.source.fieldOf metricsField).ListsObjects) :
    ∃ series, seriesOf Series.canonical metric hit = .ok series ∧
      AreBuilt Series.canonical (hit.identitiesFor metric) series := by
  have hkeys : Identity.AreKeys hit.tags := by
    obtain ⟨sorted, hbuild, -⟩ := Identity.exists_build .null tags
    rw [h.tags_eq]
    exact (Identity.exists_build_iff .null).mp ⟨_, hbuild⟩
  obtain ⟨series, hseries⟩ := exists_seriesOf_iff.mpr ⟨h.source, h.listed, hmetrics, fun _ => hkeys⟩
  exact ⟨series, hseries, seriesOf_eq_ok hseries⟩

end Interpreter

namespace Identity

open Interpreter (seriesOf metricsField)

/-- Identities of texts are canonical: two are the same exactly if their metrics are and each key has the same last
value in both, and documents that list the same tags under distinct keys, in whatever order, have equal series. -/
theorem build_isCanonical (m n : Json) (s t : List TextTag) :
    ∃ i j, build m (ofTexts s) = .ok i ∧ build n (ofTexts t) = .ok j ∧ IsCanonical m s i ∧ IsCanonical n t j ∧
      (i = j ↔ m = n ∧ ∀ key, last? key s = last? key t) ∧
      (i.same j = true ↔ m.same n = true ∧ ∀ key, last? key s = last? key t) ∧
      ∀ hit other : Hit, hit.ListsTags s → other.ListsTags t → s.Perm t → (s.map (·.1)).Nodup →
        hit.source.fieldOf metricsField = other.source.fieldOf metricsField → ∀ metric : Option Json,
          seriesOf Series.canonical metric hit = seriesOf Series.canonical metric other ∧
          ((metric = none → (hit.source.fieldOf metricsField).ListsObjects) →
            ∃ series, seriesOf Series.canonical metric hit = .ok series ∧
              AreBuilt Series.canonical (hit.identitiesFor metric) series) := by
  obtain ⟨sorted, hbuild, hsorted, hvalues⟩ := exists_build m s
  obtain ⟨sorted', hbuild', hsorted', hvalues'⟩ := exists_build n t
  have htags : sorted = sorted' ↔ ∀ key, last? key s = last? key t := by
    simp only [← hvalues, ← hvalues']
    exact ⟨fun h key => by rw [h], hsorted.eq_of_lookup hsorted'⟩
  refine ⟨_, _, hbuild, hbuild', isCanonical_of_lookup hbuild hsorted hvalues,
    isCanonical_of_lookup hbuild' hsorted' hvalues', ?_, ?_, ?_⟩
  · rw [mk.injEq, ofTexts_inj, htags]
  · rw [same, Bool.and_eq_true, sameTags_ofTexts, htags]
  · intro hit other hhit hother hperm hkeys hmetrics metric
    exact ⟨Interpreter.seriesOf_congr metric hhit hother (last?_perm hperm hkeys) hmetrics,
      Interpreter.exists_seriesOf_of_listsTags hhit⟩

/-- Three tags in two orders, in documents of two metrics. -/
theorem build_isCanonical_of_turned :
    let s := [("host", "a"), ("rack", "7"), ("dc", "x")]
    let t := [("dc", "x"), ("host", "a"), ("rack", "7")]
    let hit := Hit.ofTexts s ["cpu", "mem"]
    let other := Hit.ofTexts t ["cpu", "mem"]
    hit.ListsTags s ∧ other.ListsTags t ∧ s.Perm t ∧ (s.map (·.1)).Nodup ∧
      hit.source.fieldOf metricsField = other.source.fieldOf metricsField ∧
      seriesOf Series.canonical none hit = seriesOf Series.canonical none other ∧
      seriesOf Series.canonical (some (.str "cpu")) hit = seriesOf Series.canonical (some (.str "cpu")) other := by
  intro s t hit other
  have hperm : s.Perm t := by decide
  have hkeys : (s.map (·.1)).Nodup := by decide
  obtain ⟨-, -, -, -, -, -, -, -, hdocuments⟩ := build_isCanonical (.str "cpu") (.str "cpu") s t
  have h := hdocuments hit other (Hit.listsTags_ofTexts s _) (Hit.listsTags_ofTexts t _) hperm hkeys rfl
  exact ⟨Hit.listsTags_ofTexts s _, Hit.listsTags_ofTexts t _, hperm, hkeys, rfl, (h none).1, (h _).1⟩

end Identity

end SeriesCatalog
