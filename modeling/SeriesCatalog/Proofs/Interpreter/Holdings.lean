import SeriesCatalog.Interpreter.Basic
import SeriesCatalog.Proofs.Fallible
import SeriesCatalog.Proofs.Outcome.Payload

/-! What a response holds for a kind of query, told from the response alone: the buckets under the names that
the kind asks for, or the metrics and the tags that the documents list. A reading that meets no fault gives
exactly that, in the order of the response. -/

namespace SeriesCatalog

/-- The member of a name; where there is none, null. -/
def Json.fieldOf (name : String) : Json → Json
  | .obj members => (members.lookup name).getD .null
  | _ => .null

/-- The items of an array; anything else lists nothing. -/
def Json.listOf : Json → List Json
  | .arr items => items
  | _ => []

namespace Hit

open Interpreter

/-- The tags that a document lists. -/
def tags (hit : Hit) : List Pair :=
  (hit.source.fieldOf tagsField).listOf.map fun tag => (tag.fieldOf tagKeyField, tag.fieldOf tagValueField)

/-- Each metric that a document lists, with all tags of the document. -/
def identities (hit : Hit) : List (Json × List Pair) :=
  (hit.source.fieldOf metricsField).listOf.map fun entry => (entry.fieldOf metricNameField, hit.tags)

/-- A given metric with all tags of the document, or each metric that it lists. -/
def identitiesFor (metric : Option Json) (hit : Hit) : List (Json × List Pair) :=
  match metric with
  | some name => [(name, hit.tags)]
  | none => hit.identities

end Hit

/-- The series are those built from metrics and tags, one after the other. -/
def AreBuilt (builder : SeriesBuilder) (identities : List (Json × List Pair)) (series : List Series) : Prop :=
  List.Forall₂ (fun i s => builder i.1 i.2 = .ok s) identities series

/-- Metrics and tags have the same series whenever they are built. -/
theorem AreBuilt.unique {builder : SeriesBuilder} {identities : List (Json × List Pair)} {series other : List Series}
    (h : AreBuilt builder identities series) (hother : AreBuilt builder identities other) : series = other := by
  have hright : Relator.RightUnique fun (i : Json × List Pair) (s : Series) => builder i.1 i.2 = .ok s :=
    fun i s t hs ht => Except.ok.inj (hs.symm.trans ht)
  exact hright.forall₂ h hother

namespace Interpreter

open AggregationName

/-- The buckets of the terms of a name. -/
def bucketsAt (name : String) (subs : Aggregations) : List Bucket :=
  match subs.lookup name with
  | some (.terms buckets) => buckets
  | _ => []

/-- The buckets of a node that wraps terms, if it has documents. -/
def bucketsIn (unique : String) : Aggregation → List Bucket
  | .nested count subs => if 0 < count then bucketsAt unique subs else []
  | _ => []

/-- The buckets of the wrapped terms of a name. -/
def wrappedBuckets (name unique : String) (tree : Aggregations) : List Bucket :=
  match tree.lookup name with
  | some node => bucketsIn unique node
  | none => []

/-- The values below a tag key, if its filter is there, matches a document and has the terms. -/
def valuesBelow (subs : Aggregations) : Option (List NameCount) :=
  match subs.lookup tagsSub with
  | some (.filter count inner) =>
    match inner.lookup uniqueTagsSub with
    | some (.terms buckets) => if 1 ≤ count then some (buckets.map fun b => (.str b.key, .int b.count)) else none
    | _ => none
  | _ => none

/-- The entries that a tree holds for a kind of query. -/
def treeEntries : QueryKind → Aggregations → List Entry
  | .namespaces, tree => (bucketsAt namespaces tree).map fun b => .namespaceName (.str b.key)
  | .metrics, tree => (wrappedBuckets metrics uniqueMetrics tree).map fun b => .metric (.str b.key, .int b.count)
  | .tagKeys, tree =>
    (wrappedBuckets tagKeys uniqueTagKeys tree).map fun b => .tagKeyOrValue (.str b.key, .int b.count)
  | .tagValues, tree =>
    (wrappedBuckets tagValues uniqueTagValues tree).map fun b => .tagKeyOrValue (.str b.key, .int b.count)
  | .tagKeysAndValues, tree =>
    (wrappedBuckets tags uniqueTags tree).map fun b => .tag ((.str b.key, .int b.count), valuesBelow b.subs)
  | .timeSeries, _ => []

/-- The entries are those that a response holds for a kind of query: the series of every metric of every
document, or what the tree holds. -/
def Holds (builder : SeriesBuilder) (r : Response) : QueryKind → List Entry → Prop
  | .timeSeries, entries =>
    ∃ series, AreBuilt builder (r.hits.flatMap Hit.identities) series ∧ entries = series.map .series
  | kind, entries => entries = treeEntries kind (r.aggregations.getD [])

/-! ### Aggregations -/

theorem termsOf_eq_ok {name : String} {node : Aggregation} {buckets : List Bucket}
    (h : termsOf name node = .ok buckets) : node = .terms buckets := by
  cases node with
  | terms held => exact congrArg Aggregation.terms (Except.ok.inj h)
  | _ => cases h

/-- The buckets of a name whose node, if there is one, was read as terms. -/
theorem bucketsAt_of_termsOf {name : String} {subs : Aggregations} {node : Aggregation} {buckets : List Bucket}
    (hlookup : subs.lookup name = some node) (h : termsOf name node = .ok buckets) :
    bucketsAt name subs = buckets := by
  rw [termsOf_eq_ok h] at hlookup
  simp only [bucketsAt, hlookup]

theorem uniqueTerms_eq_ok {name unique : String} {node : Aggregation} {buckets : List Bucket}
    (h : uniqueTerms name unique node = .ok buckets) : bucketsIn unique node = buckets := by
  cases node with
  | nested count subs =>
      rw [uniqueTerms] at h
      rw [bucketsIn]
      by_cases hcount : count ≤ 0
      · rw [if_pos hcount] at h
        rw [if_neg (by omega)]
        exact Except.ok.inj h
      · rw [if_neg hcount] at h
        rw [if_pos (by omega)]
        cases hlookup : subs.lookup unique with
        | none =>
            rw [hlookup] at h
            simp only [bucketsAt, hlookup]
            exact Except.ok.inj h
        | some inner =>
            rw [hlookup] at h
            exact bucketsAt_of_termsOf hlookup h
  | _ => cases h

theorem tagValuesOf_eq_ok {subs : Aggregations} {values : Option (List NameCount)}
    (h : tagValuesOf subs = .ok values) : valuesBelow subs = values := by
  rw [tagValuesOf] at h
  cases hsub : subs.lookup tagsSub with
  | none =>
      rw [hsub] at h
      simp only [valuesBelow, hsub]
      exact Except.ok.inj h
  | some node =>
      rw [hsub] at h
      cases node with
      | filter count inner =>
          simp only at h
          cases hinner : inner.lookup uniqueTagsSub with
          | none =>
              rw [hinner] at h
              simp only [valuesBelow, hsub, hinner]
              exact Except.ok.inj h
          | some terms =>
              rw [hinner] at h
              simp only at h
              -- the count is looked at before the terms are, so that their type may be wrong here
              by_cases hcount : count < 1
              · rw [if_pos hcount] at h
                rw [← Except.ok.inj h, valuesBelow, hsub]
                cases terms <;> simp only [hinner, if_neg (by omega : ¬1 ≤ count)]
              · rw [if_neg hcount, Fallible.map_eq_ok] at h
                obtain ⟨buckets, hterms, hvalues⟩ := h
                rw [termsOf_eq_ok hterms] at hinner
                simp only [valuesBelow, hsub, hinner, if_pos (by omega : 1 ≤ count)]
                exact hvalues
      | _ => cases h

/-- Buckets that were read without a fault, as entries. -/
theorem ofBuckets_complete {entry : Bucket → Entry} {read : Except Fault (List Bucket)}
    (h : (ofBuckets entry read).fault = none) :
    ∃ buckets, read = .ok buckets ∧ (ofBuckets entry read).entries = buckets.map entry := by
  cases read with
  | ok buckets => exact ⟨buckets, rfl, rfl⟩
  | error fault => cases h

/-- The entries of wrapped terms, read without a fault. -/
theorem wrapped_entries {name unique : String} {entry : Bucket → Entry} {tree : Aggregations} {node : Aggregation}
    (hlookup : tree.lookup name = some node) (h : (ofBuckets entry (uniqueTerms name unique node)).fault = none) :
    (ofBuckets entry (uniqueTerms name unique node)).entries = (wrappedBuckets name unique tree).map entry := by
  obtain ⟨buckets, hbuckets, hentries⟩ := ofBuckets_complete h
  rw [hentries, wrappedBuckets, hlookup]
  exact congrArg (List.map entry) (uniqueTerms_eq_ok hbuckets).symm

theorem readTags_entries {tree : Aggregations} {node : Aggregation} (hlookup : tree.lookup tags = some node)
    (h : (readTags node).fault = none) : (readTags node).entries = treeEntries .tagKeysAndValues tree := by
  rw [readTags] at h ⊢
  cases hbuckets : uniqueTerms tags uniqueTags node with
  | error fault =>
      rw [hbuckets] at h
      cases h
  | ok buckets =>
      rw [hbuckets] at h
      have hvalues : ∀ b ∈ buckets, ((tagValuesOf b.subs).map fun values => [Entry.tag (nameCountOf b, values)]) =
          .ok [.tag ((.str b.key, .int b.count), valuesBelow b.subs)] := by
        intro b hb
        obtain ⟨entries, hread⟩ := Reading.collect_fault_eq_none_iff.mp h b hb
        obtain ⟨values, hok, -⟩ := Fallible.map_eq_ok.mp hread
        rw [hok, tagValuesOf_eq_ok hok]
        rfl
      simp only [Reading.collect_of_ok hvalues, treeEntries, wrappedBuckets, hlookup,
        uniqueTerms_eq_ok hbuckets, Reading.ofList, List.map_eq_flatMap]

/-! ### Documents -/

theorem member_eq_ok {name : String} {v value : Json} (h : v.member name = .ok value) :
    v.isObject = true ∧ value = v.fieldOf name := by
  cases v with
  | obj members => exact ⟨rfl, (Except.ok.inj h).symm⟩
  | _ => cases h

/-- An empty object in place of a blank source has no more fields than the source. -/
theorem fieldOf_orElse (name : String) (v : Json) : (v.orElse (.obj [])).fieldOf name = v.fieldOf name := by
  rw [Json.orElse]
  by_cases h : v.isBlank = true
  · rw [if_pos h]
    cases v with
    | obj members => rw [List.isEmpty_iff.mp h]
    | _ => rfl
  · rw [if_neg h]

/-- A list whose items are all objects was an array, or blank. -/
theorem listField_eq_ok {name : String} {source : Json} {items : List Json}
    (h : listField name source = .ok items) (hobjects : ∀ item ∈ items, item.isObject = true) :
    items = (source.fieldOf name).listOf := by
  obtain ⟨value, hvalue, hitems⟩ := Fallible.bind_eq_ok.mp h
  rw [← (member_eq_ok hvalue).2]
  rw [Json.orElse] at hitems
  by_cases hblank : value.isBlank = true
  · rw [if_pos hblank] at hitems
    rw [← Except.ok.inj hitems]
    cases value with
    | arr listed => exact (List.isEmpty_iff.mp hblank).symm
    | _ => rfl
  · rw [if_neg hblank] at hitems
    cases value with
    | arr listed => exact (Except.ok.inj hitems).symm
    | obj members =>
        cases members with
        | nil => exact absurd rfl hblank
        | cons member rest =>
            -- what is walked here are names of members, and these are texts
            rw [← Except.ok.inj hitems] at hobjects
            exact absurd (hobjects _ List.mem_cons_self) Bool.false_ne_true
    | str s =>
        rw [← Except.ok.inj hitems] at hobjects ⊢
        cases hchars : s.toList with
        | nil => rfl
        | cons c rest =>
            rw [hchars] at hobjects
            exact absurd (hobjects _ List.mem_cons_self) Bool.false_ne_true
    | _ => cases hitems

theorem readTag_eq_ok {tag : Json} {pair : Pair} (h : readTag tag = .ok pair) :
    tag.isObject = true ∧ pair = (tag.fieldOf tagKeyField, tag.fieldOf tagValueField) := by
  obtain ⟨key, hkey, h⟩ := Fallible.bind_eq_ok.mp h
  obtain ⟨value, hvalue, h⟩ := Fallible.bind_eq_ok.mp h
  rw [← (member_eq_ok hkey).2, ← (member_eq_ok hvalue).2]
  exact ⟨(member_eq_ok hkey).1, (Except.ok.inj h).symm⟩

theorem tags_of_listed {hit : Hit} {listed : List Json} {tags : List Pair}
    (hlisted : listField tagsField (hit.source.orElse (.obj [])) = .ok listed)
    (htags : listed.mapM readTag = .ok tags) : tags = hit.tags := by
  have hobjects := Fallible.forall_of_mapM_eq_ok (fun _ _ h => (readTag_eq_ok h).1) htags
  rw [Fallible.eq_map_of_mapM_eq_ok (fun _ _ h => (readTag_eq_ok h).2) htags,
    listField_eq_ok hlisted hobjects, fieldOf_orElse]
  rfl

/-- A document that is read without a fault gives the series of what it lists. -/
theorem seriesOf_eq_ok {builder : SeriesBuilder} {metric : Option Json} {hit : Hit} {series : List Series}
    (h : seriesOf builder metric hit = .ok series) : AreBuilt builder (hit.identitiesFor metric) series := by
  obtain ⟨listed, hlisted, h⟩ := Fallible.bind_eq_ok.mp h
  obtain ⟨tags, htags, h⟩ := Fallible.bind_eq_ok.mp h
  rw [tags_of_listed hlisted htags] at h
  cases metric with
  | some name =>
      obtain ⟨s, hs, h⟩ := Fallible.bind_eq_ok.mp h
      rw [← Except.ok.inj h]
      exact .cons hs .nil
  | none =>
      obtain ⟨entries, hentries, h⟩ := Fallible.bind_eq_ok.mp h
      have hobjects := Fallible.forall_of_mapM_eq_ok (p := fun entry => entry.isObject = true)
        (fun _ _ h => (member_eq_ok (Fallible.bind_eq_ok.mp h).choose_spec.1).1) h
      rw [AreBuilt, Hit.identitiesFor, Hit.identities, List.forall₂_map_left_iff, ← fieldOf_orElse metricsField,
        ← listField_eq_ok hentries hobjects]
      refine (Fallible.mapM_eq_ok.mp h).imp fun entry s hs => ?_
      obtain ⟨name, hname, hs⟩ := Fallible.bind_eq_ok.mp hs
      rwa [← (member_eq_ok hname).2]

/-- Documents that are read without a fault give the series of what they list, one document after the
other. -/
theorem readSeries_entries {builder : SeriesBuilder} {metric : Option Json} {hits : List Hit}
    (h : (readSeries builder metric hits).fault = none) :
    ∃ series, AreBuilt builder (hits.flatMap (·.identitiesFor metric)) series ∧
      readSeries builder metric hits = .ofList (series.map .series) := by
  induction hits with
  | nil => exact ⟨[], .nil, rfl⟩
  | cons hit rest ih =>
      obtain ⟨entries, hentries⟩ := Reading.collect_fault_eq_none_iff.mp h hit List.mem_cons_self
      obtain ⟨first, hfirst, hentries'⟩ := Fallible.map_eq_ok.mp hentries
      rw [readSeries, Reading.collect, hentries] at h ⊢
      obtain ⟨more, hmore, hrest⟩ := ih h
      refine ⟨first ++ more, List.rel_append (seriesOf_eq_ok hfirst) hmore, ?_⟩
      rw [readSeries] at hrest
      rw [hrest, ← hentries', List.map_append]
      rfl

/-! ### Responses -/

/-- Without a node there is nothing to read; with one, its reading decides. -/
theorem readNode_holds {builder : SeriesBuilder} {kind : QueryKind} {r : Response} {name : String}
    {read : Aggregation → Reading Entry} (hkind : ofKind kind = some (name, read))
    (hnone : ∀ tree : Aggregations, tree.lookup name = none → treeEntries kind tree = [])
    (hsome : ∀ (tree : Aggregations) (node : Aggregation), tree.lookup name = some node → (read node).fault = none →
      (read node).entries = treeEntries kind tree)
    (h : (readResponse builder kind r).fault = none) :
    (readResponse builder kind r).entries = treeEntries kind (r.aggregations.getD []) := by
  have hlookup : r.aggregations.bind (·.lookup name) = (r.aggregations.getD []).lookup name := by
    cases r.aggregations <;> rfl
  rw [readResponse, hkind] at h ⊢
  simp only [hlookup] at h ⊢
  cases hnode : (r.aggregations.getD []).lookup name with
  | none => exact (hnone _ hnode).symm
  | some node =>
      rw [hnode] at h
      exact hsome _ node hnode h

/-- A response that is read without a fault gives the entries it holds. -/
theorem readResponse_holds {builder : SeriesBuilder} {kind : QueryKind} {r : Response}
    (h : (readResponse builder kind r).fault = none) :
    Holds builder r kind (readResponse builder kind r).entries := by
  cases kind with
  | namespaces =>
      refine readNode_holds rfl (fun tree hnone => by simp [treeEntries, bucketsAt, hnone]) ?_ h
      intro tree node hlookup hcomplete
      obtain ⟨buckets, hbuckets, hentries⟩ := ofBuckets_complete hcomplete
      rw [treeEntries, bucketsAt_of_termsOf hlookup hbuckets]
      exact hentries
  | metrics =>
      refine readNode_holds rfl (fun tree hnone => by simp [treeEntries, wrappedBuckets, hnone]) ?_ h
      exact fun tree node hlookup hcomplete => wrapped_entries hlookup hcomplete
  | tagKeys =>
      refine readNode_holds rfl (fun tree hnone => by simp [treeEntries, wrappedBuckets, hnone]) ?_ h
      exact fun tree node hlookup hcomplete => wrapped_entries hlookup hcomplete
  | tagValues =>
      refine readNode_holds rfl (fun tree hnone => by simp [treeEntries, wrappedBuckets, hnone]) ?_ h
      exact fun tree node hlookup hcomplete => wrapped_entries hlookup hcomplete
  | tagKeysAndValues =>
      refine readNode_holds rfl (fun tree hnone => by simp [treeEntries, wrappedBuckets, hnone]) ?_ h
      exact fun tree node hlookup hcomplete => readTags_entries hlookup hcomplete
  | timeSeries =>
      obtain ⟨series, hbuilt, hread⟩ := readSeries_entries h
      exact ⟨series, hbuilt, congrArg Reading.entries hread⟩

/-- What a response holds is of the sort that the kind asks for. -/
theorem belongsTo_of_holds {builder : SeriesBuilder} {kind : QueryKind} {r : Response} {entries : List Entry}
    (h : Holds builder r kind entries) : ∀ e ∈ entries, e.belongsTo kind = true := by
  intro e he
  cases kind with
  | timeSeries =>
      obtain ⟨series, -, rfl⟩ := h
      obtain ⟨s, -, rfl⟩ := List.mem_map.mp he
      rfl
  | _ =>
      obtain rfl : entries = treeEntries _ _ := h
      obtain ⟨b, -, rfl⟩ := List.mem_map.mp he
      rfl

end Interpreter

end SeriesCatalog
