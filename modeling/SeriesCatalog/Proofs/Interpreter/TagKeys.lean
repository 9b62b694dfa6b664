import SeriesCatalog.Proofs.Interpreter.Effects

/-! Tag keys, alone and with their values. Both readers walk the same buckets of a wrapper, one straight through and
one with a look below each bucket. Whatever stands below them, the two record the same keys with the same counts, and
the values that go with a key are those of its own bucket. -/

namespace SeriesCatalog

namespace Outcome

/-- What a running outcome holds in the collection of a kind; before it begins there is nothing. -/
def heldIn (kind : QueryKind) (running : Option Outcome) : List Entry := (running.map (held kind)).getD []

variable {q : Query} {running : Option Outcome} {reading : Reading Entry}

/-- A reading without a fault is taken over if entries can be taken or there are none. -/
theorem absorb_of_complete (hfault : reading.fault = none) (h : IsOpen running ∨ reading.entries = []) :
    absorb q reading running = (grown q running reading.entries, none) := by
  rcases h with hopen | hempty
  · exact absorb_eq_grown hopen hfault
  · rw [Reading.eq_ofList hfault, hempty]
    cases running <;> rfl

/-- What is taken over without a fault has none itself. An outcome that takes no entries was given none. -/
theorem complete_of_absorb (h : (absorb q reading running).2 = none) :
    reading.fault = none ∧ (IsOpen running ∨ reading.entries = []) := by
  by_cases hopen : IsOpen running
  · exact ⟨(absorb_fault hopen reading).symm.trans h, .inl hopen⟩
  · cases running with
    | none => exact absurd isOpen_none hopen
    | some o =>
        have hkind : o.kind ≠ .data := by
          intro hkind
          apply hopen
          rintro _ ⟨⟩
          exact hkind
        rw [absorb_some_of_ne_data q reading hkind] at h
        by_cases hempty : reading.entries = []
        · rw [if_pos hempty] at h
          exact ⟨h, .inr hempty⟩
        · rw [if_neg hempty] at h
          cases h

/-- Entries go to the end of their collection. -/
theorem heldIn_grown {kind : QueryKind} {entries : List Entry} (q : Query) (running : Option Outcome)
    (h : ∀ e ∈ entries, e.belongsTo kind = true) :
    heldIn kind (grown q running entries) = heldIn kind running ++ entries := by
  by_cases hempty : entries = []
  · rw [grown, if_pos hempty, hempty, List.append_nil]
  · have hheld := held_foldl_push (o := running.getD (.start .data (some q) none)) h
    rw [grown, if_neg hempty]
    cases running with
    | some o => exact hheld
    | none =>
        refine hheld.trans ?_
        cases kind <;> rfl

end Outcome

namespace Interpreter

open AggregationName

/-- The values below a tag key are there when its filter is, matches a document and has the terms of them. -/
def HasValues (b : Bucket) (values : List NameCount) : Prop :=
  ∃ matched inner terms, b.subs.lookup tagsSub = some (.filter matched inner) ∧ 1 ≤ matched ∧
    inner.lookup uniqueTagsSub = some (.terms terms) ∧ values = terms.map fun t => (.str t.key, .int t.count)

theorem valuesBelow_eq_some_iff {b : Bucket} {values : List NameCount} :
    valuesBelow b.subs = some values ↔ HasValues b values := by
  constructor
  · intro h
    rw [valuesBelow] at h
    cases hsub : b.subs.lookup tagsSub with
    | none => simp [hsub] at h
    | some sub =>
        rw [hsub] at h
        cases sub with
        | filter matched inner =>
            cases hinner : inner.lookup uniqueTagsSub with
            | none => simp [hinner] at h
            | some node =>
                cases node with
                | terms terms =>
                    simp only [hinner] at h
                    by_cases hmatched : 1 ≤ matched
                    · rw [if_pos hmatched] at h
                      exact ⟨matched, inner, terms, hsub, hmatched, hinner, (Option.some.inj h).symm⟩
                    · simp [hmatched] at h
                | _ => simp [hinner] at h
        | _ => simp at h
  · rintro ⟨matched, inner, terms, hsub, hmatched, hinner, rfl⟩
    simp only [valuesBelow, hsub, hinner, if_pos hmatched]

variable {unique : String} {subs : Aggregations} {buckets : List Bucket}

/-- The buckets that a reader walks through. -/
theorem bucketsIn_of_lookup (count : Int) (h : subs.lookup unique = some (.terms buckets)) :
    bucketsIn unique (.nested count subs) = if 0 < count then buckets else [] := by
  rw [bucketsIn, bucketsAt, h]

theorem uniqueTerms_of_lookup (name : String) (count : Int) (h : subs.lookup unique = some (.terms buckets)) :
    uniqueTerms name unique (.nested count subs) = .ok (if 0 < count then buckets else []) := by
  rw [uniqueTerms, h]
  by_cases hcount : 0 < count
  · rw [if_neg (by omega), if_pos hcount]
    rfl
  · rw [if_pos (by omega), if_neg hcount]

/-- The tags of a wrapper and its tag keys. One entry is recorded for each bucket, in their order; as a tag it has the
values below its bucket, or none, and as a tag key it is the same without them. -/
theorem absorb_tagKeys_agree (q q' : Query) {running : Option Outcome} {count : Int} {subs subs' : Aggregations}
    {buckets : List Bucket} (htags : subs.lookup uniqueTags = some (.terms buckets))
    (hkeys : subs'.lookup uniqueTagKeys = some (.terms buckets))
    (h : (Outcome.absorb q (readTags (.nested count subs)) running).2 = none) :
    let tags := Outcome.absorb q (readTags (.nested count subs)) running
    let keys := Outcome.absorb q' (readTagKeys (.nested count subs')) running
    keys.2 = none ∧ ∃ recorded : List TagEntry,
      Outcome.heldIn .tagKeysAndValues tags.1 = Outcome.heldIn .tagKeysAndValues running ++ recorded.map .tag ∧
      Outcome.heldIn .tagKeys keys.1 =
        Outcome.heldIn .tagKeys running ++ recorded.map (fun entry => .tagKeyOrValue entry.1) ∧
      List.Forall₂ (fun b entry =>
          entry.1 = (.str b.key, .int b.count) ∧ ∀ values, entry.2 = some values ↔ HasValues b values)
        (if 0 < count then buckets else []) recorded := by
  intro tags keys
  obtain ⟨hfault, hopen⟩ := Outcome.complete_of_absorb h
  have hbuckets := bucketsIn_of_lookup count htags
  have hterms := uniqueTerms_of_lookup AggregationName.tagKeys count hkeys
  generalize (if 0 < count then buckets else []) = walked at hbuckets hterms ⊢
  have htagged : (readTags (.nested count subs)).entries =
      walked.map fun b => .tag ((.str b.key, .int b.count), valuesBelow b.subs) := by
    have hlookup : [(AggregationName.tags, Aggregation.nested count subs)].lookup AggregationName.tags =
        some (.nested count subs) := rfl
    rw [readTags_entries hlookup hfault, ← hbuckets]
    rfl
  have hlisted : readTagKeys (.nested count subs') =
      .ofList (walked.map fun b => .tagKeyOrValue (.str b.key, .int b.count)) := by
    rw [readTagKeys, hterms]
    rfl
  have hopen' : Outcome.IsOpen running ∨ (readTagKeys (.nested count subs')).entries = [] := by
    refine hopen.imp_right fun hempty => ?_
    rw [htagged, List.map_eq_nil_iff] at hempty
    rw [hlisted, hempty]
    rfl
  have hkeys : keys =
      (Outcome.grown q' running (walked.map fun b => .tagKeyOrValue (.str b.key, .int b.count)), none) := by
    refine (Outcome.absorb_of_complete (congrArg Reading.fault hlisted) hopen').trans ?_
    rw [hlisted, Reading.ofList]
  have htags : tags.1 =
      Outcome.grown q running (walked.map fun b => .tag ((.str b.key, .int b.count), valuesBelow b.subs)) := by
    rw [← htagged]
    exact congrArg Prod.fst (Outcome.absorb_of_complete hfault hopen)
  refine ⟨congrArg Prod.snd hkeys, walked.map fun b => ((.str b.key, .int b.count), valuesBelow b.subs), ?_, ?_, ?_⟩
  · rw [htags, List.map_map]
    refine Outcome.heldIn_grown q running ?_
    rintro e he
    obtain ⟨b, -, rfl⟩ := List.mem_map.mp he
    rfl
  · rw [hkeys, List.map_map]
    refine Outcome.heldIn_grown q' running ?_
    rintro e he
    obtain ⟨b, -, rfl⟩ := List.mem_map.mp he
    rfl
  · rw [List.forall₂_map_right_iff, List.forall₂_same]
    exact fun b _ => ⟨rfl, fun values => valuesBelow_eq_some_iff⟩

/-- Four tag keys in a wrapper: one without a filter, one whose filter has terms without buckets, one whose filter
matches nothing, and one with a value. The second has an empty list of values, the first and the third have none. -/
theorem absorb_tagKeys_agree_of_four :
    let q : Query := ⟨.tagKeysAndValues, "sys", .absent, .int 0, .int 10⟩
    let q' : Query := ⟨.tagKeys, "sys", .absent, .int 0, .int 10⟩
    let filtered (matched : Int) (values : List Bucket) : Aggregations :=
      [("tags_sub_agg", .filter matched [("tags_sub_unique", .terms values)])]
    let buckets : List Bucket := [.mk "dc" 5 [], .mk "host" 4 (filtered 4 []),
      .mk "rack" 3 (filtered 0 [.mk "r1" 3 []]), .mk "dc" 2 (filtered 2 [.mk "ams" 2 []])]
    let tags := Outcome.absorb q (readTags (.nested 9 [("unique_tags", .terms buckets)])) none
    let keys := Outcome.absorb q' (readTagKeys (.nested 9 [("unique_tagks", .terms buckets)])) none
    tags.2 = none ∧ keys.2 = none ∧ ∃ recorded : List TagEntry,
      Outcome.heldIn .tagKeysAndValues tags.1 = recorded.map .tag ∧
      Outcome.heldIn .tagKeys keys.1 = recorded.map (fun entry => .tagKeyOrValue entry.1) ∧
      recorded = [((.str "dc", .int 5), none), ((.str "host", .int 4), some []), ((.str "rack", .int 3), none),
        ((.str "dc", .int 2), some [(.str "ams", .int 2)])] := by
  intro q q' filtered buckets tags keys
  have hsound : tags.2 = none := rfl
  have hlookup : [("unique_tagks", Aggregation.terms buckets)].lookup "unique_tagks" = some (.terms buckets) := rfl
  obtain ⟨hkeys, recorded, htags, hlisted, hbuckets⟩ := absorb_tagKeys_agree q q' rfl hlookup hsound
  have hentries : List.Forall₂ (fun b entry => ((.str b.key, .int b.count), valuesBelow b.subs) = entry) buckets
      recorded :=
    hbuckets.imp fun b entry ⟨hkey, hvalues⟩ =>
      Prod.ext hkey.symm (Option.ext fun values => valuesBelow_eq_some_iff.trans (hvalues values).symm)
  rw [← List.forall₂_map_left_iff, List.forall₂_eq_eq_eq] at hentries
  exact ⟨hsound, hkeys, recorded, htags, hlisted, hentries.symm⟩

end Interpreter

end SeriesCatalog
