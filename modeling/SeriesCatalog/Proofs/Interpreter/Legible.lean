import SeriesCatalog.Proofs.Interpreter.Holdings

/-! What can go wrong in reading a response. A tree fails at a node of another shape than the one expected, and in no
other way. Documents are taken as they come: one that lists something else than objects, or tags without keys that
compare, fails with the fault of whatever operation meets it first. -/

namespace SeriesCatalog

open Fallible

namespace Fault

/-- A node of a tree has not the expected shape. -/
def isMismatch : Fault → Bool
  | .shapeMismatch .. => true
  | _ => false

/-- A document is not of the kind that an operation needs. -/
def isOfKind : Fault → Bool
  | .noMember | .wrongKind => true
  | _ => false

end Fault

/-! ### Legible documents -/

/-- A document that lists objects, or nothing. -/
def Json.ListsObjects (v : Json) : Prop :=
  v.isBlank = true ∨ ∃ items, v = .arr items ∧ ∀ item ∈ items, item.isObject = true

/-- The keys of tags make an identity: each can serve as a key, and those that remain where later tags win
compare. -/
def Identity.AreKeys (tags : List Pair) : Prop :=
  (∀ tag ∈ tags, tag.1.isKey = true) ∧ Json.comparable ((Assoc.lastWins Json.same tags).map (·.1)) = true

/-- Series can be built from a document, for a given metric or for the metrics that it lists. The keys of its tags do
not matter if it has no metric. -/
structure Hit.IsLegible (metric : Option Json) (hit : Hit) : Prop where
  source : hit.source.isBlank = true ∨ hit.source.isObject = true
  tags : (hit.source.fieldOf Interpreter.tagsField).ListsObjects
  metrics : metric = none → (hit.source.fieldOf Interpreter.metricsField).ListsObjects
  keys : hit.identitiesFor metric ≠ [] → Identity.AreKeys hit.tags

namespace Json

theorem isObject_orElse (v : Json) :
    (v.orElse (.obj [])).isObject = true ↔ v.isBlank = true ∨ v.isObject = true := by
  rw [orElse]
  cases hblank : v.isBlank with
  | true => simp [isObject]
  | false => simp

/-- Walking over a document, or over nothing in place of a blank one, meets objects only. -/
theorem exists_items_iff {v : Json} :
    (∃ items, (v.orElse (.arr [])).items = .ok items ∧ ∀ item ∈ items, item.isObject = true) ↔ v.ListsObjects := by
  rw [orElse, ListsObjects]
  cases hblank : v.isBlank with
  | true => simp [items]
  | false =>
      cases v with
      | arr listed => simp [items]
      | obj members =>
          cases members with
          | nil => cases hblank
          | cons member rest => simp [items, isObject]
      | str s =>
          have hsome : s.toList ≠ [] := fun hnil => of_decide_eq_false hblank (String.toList_eq_nil_iff.mp hnil)
          cases hchars : s.toList with
          | nil => exact absurd hchars hsome
          | cons c rest => simp [items, hchars, isObject]
      | _ => simp [items]

theorem exists_member_iff {name : String} {v : Json} : (∃ value, v.member name = .ok value) ↔ v.isObject = true := by
  cases v <;> simp [member, member?, isObject, Except.map]

theorem member_ofKind (name : String) (v : Json) : FailsWith (fun fault => fault.isOfKind = true) (v.member name) := by
  cases v with
  | obj members => exact .ok _
  | _ => exact .error rfl

theorem items_ofKind (v : Json) : FailsWith (fun fault => fault.isOfKind = true) v.items := by
  cases v with
  | arr | obj | str => exact .ok _
  | _ => exact .error rfl

end Json

namespace Identity

theorem exists_build_iff (metric : Json) {tags : List Pair} : (∃ i, build metric tags = .ok i) ↔ AreKeys tags := by
  rw [build, AreKeys, ← List.all_eq_true]
  by_cases hkeys : tags.all (·.1.isKey) = true
  · by_cases hcompare : Json.comparable ((Assoc.lastWins Json.same tags).map (·.1)) = true
    · simp [hkeys, hcompare]
    · simp [hkeys, hcompare]
  · simp [hkeys]

theorem build_ofKind (metric : Json) (tags : List Pair) :
    FailsWith (fun fault => fault.isOfKind = true) (build metric tags) := by
  rw [build]
  split
  · simp only
    split
    · exact .ok _
    · exact .error rfl
  · exact .error rfl

end Identity

namespace Series

theorem exists_canonical_iff (metric : Json) {tags : List Pair} :
    (∃ s, canonical metric tags = .ok s) ↔ Identity.AreKeys tags := by
  rw [← Identity.exists_build_iff metric]
  simp only [canonical, map_eq_ok]
  constructor
  · rintro ⟨-, i, hi, -⟩
    exact ⟨i, hi⟩
  · rintro ⟨i, hi⟩
    exact ⟨_, i, hi, rfl⟩

theorem canonical_ofKind (metric : Json) (tags : List Pair) :
    FailsWith (fun fault => fault.isOfKind = true) (canonical metric tags) :=
  (Identity.build_ofKind metric tags).map _

end Series

namespace Interpreter

/-! ### One document -/

theorem exists_listField_iff {name : String} {source : Json} :
    (∃ items, listField name source = .ok items ∧ ∀ item ∈ items, item.isObject = true) ↔
      source.isObject = true ∧ (source.fieldOf name).ListsObjects := by
  rw [← Json.exists_items_iff]
  constructor
  · rintro ⟨items, hlisted, hobjects⟩
    obtain ⟨value, hvalue, hitems⟩ := bind_eq_ok.mp hlisted
    obtain ⟨hobject, rfl⟩ := member_eq_ok hvalue
    exact ⟨hobject, items, hitems, hobjects⟩
  · rintro ⟨hobject, items, hitems, hobjects⟩
    obtain ⟨value, hvalue⟩ := Json.exists_member_iff.mpr hobject
    rw [← (member_eq_ok hvalue).2] at hitems
    exact ⟨items, bind_eq_ok.mpr ⟨value, hvalue, hitems⟩, hobjects⟩

theorem exists_readTag_iff {tag : Json} : (∃ pair, readTag tag = .ok pair) ↔ tag.isObject = true := by
  cases tag <;> simp [readTag, Json.member, Json.member?, Json.isObject, Except.map, bind, Except.bind]

/-- The tags of a document are read if its source and what this lists are objects. -/
theorem exists_tags_iff {hit : Hit} :
    (∃ listed, listField tagsField (hit.source.orElse (.obj [])) = .ok listed ∧
      listed.mapM readTag = .ok hit.tags) ↔
      (hit.source.isBlank = true ∨ hit.source.isObject = true) ∧ (hit.source.fieldOf tagsField).ListsObjects := by
  rw [← Json.isObject_orElse, ← fieldOf_orElse, ← exists_listField_iff]
  constructor
  · rintro ⟨listed, hlisted, htags⟩
    exact ⟨listed, hlisted, forall_of_mapM_eq_ok (fun _ _ h => (readTag_eq_ok h).1) htags⟩
  · rintro ⟨listed, hlisted, hobjects⟩
    obtain ⟨tags, htags⟩ := exists_mapM_eq_ok_iff.mpr fun tag htag => exists_readTag_iff.mpr (hobjects tag htag)
    obtain rfl := tags_of_listed hlisted htags
    exact ⟨listed, hlisted, htags⟩

/-- The metrics that a document lists give series if they are objects and the tags make an identity. -/
theorem exists_metrics_iff {source : Json} {tags : List Pair} :
    (∃ listed series, listField metricsField source = .ok listed ∧
      (listed.mapM fun entry => do Series.canonical (← entry.member metricNameField) tags) = .ok series) ↔
      source.isObject = true ∧ (source.fieldOf metricsField).ListsObjects ∧
        ((source.fieldOf metricsField).listOf ≠ [] → Identity.AreKeys tags) := by
  have hentry : ∀ entry : Json,
      (∃ s, (do Series.canonical (← entry.member metricNameField) tags) = .ok s) ↔
        entry.isObject = true ∧ Identity.AreKeys tags := by
    intro entry
    simp only [bind_eq_ok]
    constructor
    · rintro ⟨s, name, hname, hs⟩
      exact ⟨(member_eq_ok hname).1, (Series.exists_canonical_iff name).mp ⟨s, hs⟩⟩
    · rintro ⟨hobject, hkeys⟩
      obtain ⟨name, hname⟩ := Json.exists_member_iff.mpr hobject
      obtain ⟨s, hs⟩ := (Series.exists_canonical_iff name).mpr hkeys
      exact ⟨s, name, hname, hs⟩
  constructor
  · rintro ⟨listed, series, hlisted, hseries⟩
    have hentries := exists_mapM_eq_ok_iff.mp ⟨series, hseries⟩
    simp only [hentry] at hentries
    have hobjects : ∀ entry ∈ listed, entry.isObject = true := fun entry he => (hentries entry he).1
    obtain ⟨hobject, hlists⟩ := exists_listField_iff.mp ⟨listed, hlisted, hobjects⟩
    refine ⟨hobject, hlists, fun hsome => ?_⟩
    rw [← listField_eq_ok hlisted hobjects] at hsome
    obtain ⟨entry, he⟩ := List.exists_mem_of_ne_nil listed hsome
    exact (hentries entry he).2
  · rintro ⟨hobject, hlists, hkeys⟩
    obtain ⟨listed, hlisted, hobjects⟩ := exists_listField_iff.mpr ⟨hobject, hlists⟩
    rw [← listField_eq_ok hlisted hobjects] at hkeys
    obtain ⟨series, hseries⟩ := exists_mapM_eq_ok_iff.mpr fun entry he =>
      (hentry entry).mpr ⟨hobjects entry he, hkeys (List.ne_nil_of_mem he)⟩
    exact ⟨listed, series, hlisted, hseries⟩

/-- Series are built from the documents that are legible, and from no others. -/
theorem exists_seriesOf_iff {metric : Option Json} {hit : Hit} :
    (∃ series, seriesOf Series.canonical metric hit = .ok series) ↔ hit.IsLegible metric := by
  constructor
  · rintro ⟨series, h⟩
    obtain ⟨listed, hlisted, h⟩ := bind_eq_ok.mp h
    obtain ⟨tags, htags, h⟩ := bind_eq_ok.mp h
    obtain rfl := tags_of_listed hlisted htags
    obtain ⟨hsource, hlists⟩ := exists_tags_iff.mp ⟨listed, hlisted, htags⟩
    cases metric with
    | some name =>
        obtain ⟨s, hs, -⟩ := bind_eq_ok.mp h
        exact ⟨hsource, hlists, nofun, fun _ => (Series.exists_canonical_iff name).mp ⟨s, hs⟩⟩
    | none =>
        obtain ⟨entries, hentries, hseries⟩ := bind_eq_ok.mp h
        obtain ⟨-, hmetrics, hkeys⟩ := exists_metrics_iff.mp ⟨entries, series, hentries, hseries⟩
        rw [fieldOf_orElse] at hmetrics hkeys
        exact ⟨hsource, hlists, fun _ => hmetrics,
          fun hsome => hkeys fun hnil => hsome (List.map_eq_nil_iff.mpr hnil)⟩
  · rintro ⟨hsource, hlists, hmetrics, hkeys⟩
    obtain ⟨listed, hlisted, htags⟩ := exists_tags_iff.mpr ⟨hsource, hlists⟩
    cases metric with
    | some name =>
        obtain ⟨s, hs⟩ := (Series.exists_canonical_iff name).mpr (hkeys (List.cons_ne_nil _ _))
        exact ⟨[s], bind_eq_ok.mpr ⟨listed, hlisted, bind_eq_ok.mpr ⟨hit.tags, htags, bind_eq_ok.mpr ⟨s, hs, rfl⟩⟩⟩⟩
    | none =>
        have hkeys' : ((hit.source.orElse (.obj [])).fieldOf metricsField).listOf ≠ [] → Identity.AreKeys hit.tags := by
          rw [fieldOf_orElse]
          exact fun hsome => hkeys fun hnil => hsome (List.map_eq_nil_iff.mp hnil)
        rw [← fieldOf_orElse] at hmetrics
        obtain ⟨entries, series, hentries, hseries⟩ :=
          exists_metrics_iff.mpr ⟨(Json.isObject_orElse _).mpr hsource, hmetrics rfl, hkeys'⟩
        exact ⟨series, bind_eq_ok.mpr ⟨listed, hlisted, bind_eq_ok.mpr ⟨hit.tags, htags, bind_eq_ok.mpr
          ⟨entries, hentries, hseries⟩⟩⟩⟩

theorem listField_ofKind (name : String) (source : Json) :
    FailsWith (fun fault => fault.isOfKind = true) (listField name source) :=
  .bind (Json.member_ofKind _ _) fun _ _ => Json.items_ofKind _

theorem readTag_ofKind (tag : Json) : FailsWith (fun fault => fault.isOfKind = true) (readTag tag) :=
  .bind (Json.member_ofKind _ _) fun _ _ => .bind (Json.member_ofKind _ _) fun _ _ => .ok _

/-- Whatever a document contains, it fails with a fault of kind or with one of the building. -/
theorem seriesOf_failsWith {p : Fault → Prop} {builder : SeriesBuilder}
    (hkind : ∀ fault, fault.isOfKind = true → p fault) (hbuilder : ∀ metric tags, FailsWith p (builder metric tags))
    (metric : Option Json) (hit : Hit) : FailsWith p (seriesOf builder metric hit) := by
  refine .bind ((listField_ofKind _ _).mono hkind) fun listed _ => ?_
  refine .bind (.mapM fun tag _ => (readTag_ofKind tag).mono hkind) fun tags _ => ?_
  cases metric with
  | some name => exact .bind (hbuilder _ _) fun _ _ => .ok _
  | none =>
      refine .bind ((listField_ofKind _ _).mono hkind) fun entries _ => .mapM fun entry _ => ?_
      exact .bind ((Json.member_ofKind _ _).mono hkind) fun _ _ => hbuilder _ _

/-! ### Documents -/

/-- The fault of a reading item by item is that of an item. -/
theorem exists_of_collect_fault {α β : Type} {read : β → Except Fault (List α)} {xs : List β} {fault : Fault}
    (h : (Reading.collect read xs).fault = some fault) : ∃ x ∈ xs, read x = .error fault := by
  induction xs with
  | nil => cases h
  | cons x rest ih =>
      rw [Reading.collect] at h
      cases hx : read x with
      | error other =>
          rw [hx] at h
          exact ⟨x, List.mem_cons_self, hx.trans (congrArg Except.error (Option.some.inj h))⟩
      | ok entries =>
          rw [hx] at h
          obtain ⟨y, hy, hread⟩ := ih h
          exact ⟨y, List.mem_cons_of_mem x hy, hread⟩

theorem readSeries_failsWith {p : Fault → Prop} {builder : SeriesBuilder} {metric : Option Json} {hits : List Hit}
    {fault : Fault} (hkind : ∀ fault, fault.isOfKind = true → p fault)
    (hbuilder : ∀ metric tags, FailsWith p (builder metric tags))
    (h : (readSeries builder metric hits).fault = some fault) : p fault := by
  obtain ⟨hit, -, hread⟩ := exists_of_collect_fault h
  exact ((seriesOf_failsWith hkind hbuilder metric hit).map _) fault hread

theorem readSeries_ofKind {metric : Option Json} {hits : List Hit} {fault : Fault}
    (h : (readSeries Series.canonical metric hits).fault = some fault) : fault.isOfKind = true :=
  readSeries_failsWith (p := fun fault => fault.isOfKind = true) (fun _ hkind => hkind) Series.canonical_ofKind h

theorem exists_readSeries_fault_iff {metric : Option Json} {hits : List Hit} :
    (∃ fault, (readSeries Series.canonical metric hits).fault = some fault) ↔ ∃ hit ∈ hits, ¬hit.IsLegible metric := by
  have hcomplete : (readSeries Series.canonical metric hits).fault = none ↔ ∀ hit ∈ hits, hit.IsLegible metric := by
    simp only [readSeries, Reading.collect_fault_eq_none_iff, map_eq_ok, ← exists_seriesOf_iff]
    constructor
    · intro h hit hhit
      obtain ⟨-, series, hseries, -⟩ := h hit hhit
      exact ⟨series, hseries⟩
    · intro h hit hhit
      obtain ⟨series, hseries⟩ := h hit hhit
      exact ⟨_, series, hseries, rfl⟩
  rw [← Option.ne_none_iff_exists', ne_eq, hcomplete]
  push Not
  rfl

/-! ### Trees -/

theorem termsOf_mismatch (name : String) (node : Aggregation) :
    FailsWith (fun fault => fault.isMismatch = true) (termsOf name node) := by
  cases node with
  | terms buckets => exact .ok _
  | _ => exact .error rfl

theorem uniqueTerms_mismatch (name unique : String) (node : Aggregation) :
    FailsWith (fun fault => fault.isMismatch = true) (uniqueTerms name unique node) := by
  fun_cases uniqueTerms name unique node with
  | case1 => exact .ok _
  | case2 => exact termsOf_mismatch _ _
  | case3 => exact .ok _
  | case4 => exact .error rfl

theorem tagValuesOf_mismatch (subs : Aggregations) :
    FailsWith (fun fault => fault.isMismatch = true) (tagValuesOf subs) := by
  fun_cases tagValuesOf subs with
  | case1 => exact .ok _
  | case2 => exact .ok _
  | case3 => exact .ok _
  | case4 => exact (termsOf_mismatch _ _).map _
  | case5 => exact .error rfl

theorem ofBuckets_mismatch {entry : Bucket → Entry} {read : Except Fault (List Bucket)} {fault : Fault}
    (hread : FailsWith (fun fault => fault.isMismatch = true) read) (h : (ofBuckets entry read).fault = some fault) :
    fault.isMismatch = true := by
  cases read with
  | ok buckets => cases h
  | error other =>
      obtain rfl := Option.some.inj h
      exact hread other rfl

theorem readTags_mismatch {node : Aggregation} {fault : Fault} (h : (readTags node).fault = some fault) :
    fault.isMismatch = true := by
  rw [readTags] at h
  cases hbuckets : uniqueTerms AggregationName.tags AggregationName.uniqueTags node with
  | error other =>
      rw [hbuckets] at h
      obtain rfl := Option.some.inj h
      exact uniqueTerms_mismatch _ _ node other hbuckets
  | ok buckets =>
      rw [hbuckets] at h
      obtain ⟨b, -, hread⟩ := exists_of_collect_fault h
      exact (tagValuesOf_mismatch b.subs).map _ fault hread

/-- A tree that is not read has a node of another shape than the one expected. -/
theorem readResponse_mismatch {builder : SeriesBuilder} {kind : QueryKind} {r : Response} {fault : Fault}
    (hkind : kind ≠ .timeSeries) (h : (readResponse builder kind r).fault = some fault) : fault.isMismatch = true := by
  have hnode : ∀ name (read : Aggregation → Reading Entry), ofKind kind = some (name, read) →
      ∃ node, (read node).fault = some fault := by
    intro name read hof
    rw [readResponse, hof] at h
    simp only at h
    cases hlookup : r.aggregations.bind (·.lookup name) with
    | none =>
        rw [hlookup] at h
        cases h
    | some node =>
        rw [hlookup] at h
        exact ⟨node, h⟩
  cases kind with
  | timeSeries => exact absurd rfl hkind
  | namespaces =>
      obtain ⟨node, hfault⟩ := hnode _ _ rfl
      exact ofBuckets_mismatch (termsOf_mismatch _ node) hfault
  | tagKeysAndValues =>
      obtain ⟨node, hfault⟩ := hnode _ _ rfl
      exact readTags_mismatch hfault
  | metrics | tagKeys | tagValues =>
      obtain ⟨node, hfault⟩ := hnode _ _ rfl
      exact ofBuckets_mismatch (uniqueTerms_mismatch _ _ node) hfault

end Interpreter

end SeriesCatalog
