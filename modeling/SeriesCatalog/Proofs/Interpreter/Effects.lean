import SeriesCatalog.Proofs.Interpreter.Mismatches

/-! What an interpreter does to an outcome that is there. It appends to one collection and touches nothing else. What it
has appended when it faults depends on how much it reads at once: the terms of a tree as a whole, tags key by key,
documents one by one. An outcome that takes no entries is left as it is. -/

namespace SeriesCatalog

open Fallible

/-! ### Readings that end early -/

namespace Reading

variable {α β : Type}

/-- What is read before a fault is what stands before the item that has it. -/
theorem collect_eq_fault_iff {read : β → Except Fault (List α)} {xs : List β} {entries : List α} {fault : Fault} :
    collect read xs = ⟨entries, some fault⟩ ↔
      ∃ before x after, xs = before ++ x :: after ∧ collect read before = ofList entries ∧ read x = .error fault := by
  constructor
  · induction xs generalizing entries with
    | nil => intro h; cases h
    | cons x rest ih =>
        intro h
        rw [collect] at h
        cases hx : read x with
        | error other =>
            rw [hx] at h
            cases h
            exact ⟨[], x, rest, rfl, rfl, hx⟩
        | ok first =>
            rw [hx] at h
            obtain ⟨more, hmore, rfl⟩ : ∃ more, collect read rest = ⟨more, some fault⟩ ∧ entries = first ++ more := by
              cases hrest : collect read rest with
              | mk more other =>
                  rw [hrest] at h
                  cases h
                  exact ⟨more, rfl, rfl⟩
            obtain ⟨before, y, after, rfl, hbefore, hy⟩ := ih hmore
            refine ⟨x :: before, y, after, rfl, ?_, hy⟩
            rw [collect, hx, hbefore]
            rfl
  · rintro ⟨before, x, after, rfl, hbefore, hx⟩
    rw [collect_append, hbefore, collect, hx]
    show Reading.mk (entries ++ []) (some fault) = _
    rw [List.append_nil]

end Reading

/-! ### The collections of an outcome -/

namespace Outcome

/-- The entries of the collection that a kind of query fills. -/
def held : QueryKind → Outcome → List Entry
  | .namespaces, o => o.namespaces.map .namespaceName
  | .metrics, o => o.metrics.map .metric
  | .tagKeys, o => o.tagKeysOrValues.map .tagKeyOrValue
  | .tagValues, o => o.tagKeysOrValues.map .tagKeyOrValue
  | .tagKeysAndValues, o => o.tags.map .tag
  | .timeSeries, o => o.series.map .series

/-- The outcome without that collection. -/
def cleared : QueryKind → Outcome → Outcome
  | .namespaces, o => { o with namespaces := [] }
  | .metrics, o => { o with metrics := [] }
  | .tagKeys, o => { o with tagKeysOrValues := [] }
  | .tagValues, o => { o with tagKeysOrValues := [] }
  | .tagKeysAndValues, o => { o with tags := [] }
  | .timeSeries, o => { o with series := [] }

variable {kind : QueryKind} {o : Outcome} {entries : List Entry}

theorem held_push {entry : Entry} (h : entry.belongsTo kind = true) :
    held kind (o.push entry) = held kind o ++ [entry] := by
  revert h
  cases kind <;> cases entry <;> simp [Entry.belongsTo, held, push]

theorem cleared_push {entry : Entry} (h : entry.belongsTo kind = true) :
    cleared kind (o.push entry) = cleared kind o := by
  revert h
  cases kind <;> cases entry <;> simp [Entry.belongsTo, cleared, push]

theorem held_foldl_push (h : ∀ e ∈ entries, e.belongsTo kind = true) :
    held kind (entries.foldl push o) = held kind o ++ entries := by
  induction entries generalizing o with
  | nil => simp
  | cons entry rest ih =>
      obtain ⟨hentry, hrest⟩ := List.forall_mem_cons.mp h
      calc held kind (rest.foldl push (o.push entry)) = held kind (o.push entry) ++ rest := ih hrest
        _ = held kind o ++ entry :: rest := by rw [held_push hentry, List.append_assoc, List.singleton_append]

theorem cleared_foldl_push (h : ∀ e ∈ entries, e.belongsTo kind = true) :
    cleared kind (entries.foldl push o) = cleared kind o := by
  induction entries generalizing o with
  | nil => rfl
  | cons entry rest ih =>
      obtain ⟨hentry, hrest⟩ := List.forall_mem_cons.mp h
      calc cleared kind (rest.foldl push (o.push entry)) = cleared kind (o.push entry) := ih hrest
        _ = cleared kind o := cleared_push hentry

/-- An outcome that takes no entries refuses the first one. -/
theorem absorb_some_of_ne_data (q : Query) (reading : Reading Entry) (h : o.kind ≠ .data) :
    absorb q reading (some o) =
      (some o, if reading.entries = [] then reading.fault else some (.payloadRefused o.kind)) := by
  obtain ⟨_ | ⟨entry, rest⟩, fault⟩ := reading
  · rfl
  · simp [absorb, addAll, add, h]

end Outcome

namespace Interpreter

open AggregationName Visit

/-! ### What an interpreter is given -/

/-- The input of an interpreter: the node of a tree, or documents with the metric of their series if it is known. -/
inductive Piece where
  | tree (kind : QueryKind) (node : Aggregation)
  | documents (builder : SeriesBuilder) (metric : Option Json) (hits : List Hit)

namespace Piece

/-- The kind of query whose collection an interpreter fills. -/
def kind : Piece → QueryKind
  | .tree kind _ => kind
  | .documents .. => .timeSeries

/-- What the interpreter reads. No interpreter reads time series from a tree. -/
def read : Piece → Reading Entry
  | .tree kind node =>
    match ofKind kind with
    | some (_, read) => read node
    | none => .empty
  | .documents builder metric hits => readSeries builder metric hits

/-- The entry of a tag key with the values below it. -/
def keyEntry (b : Bucket) : Entry := .tag ((.str b.key, .int b.count), valuesBelow b.subs)

/-- The tree in which an interpreter finds its node. -/
def treeOf (kind : QueryKind) (node : Aggregation) : Aggregations :=
  match ofKind kind with
  | some (name, _) => [(name, node)]
  | none => []

/-- These are the entries of a sound input: those of its tree, or the series of what its documents list. -/
def IsWhole : Piece → List Entry → Prop
  | .tree kind node, entries => ¬Offends kind node ∧ entries = treeEntries kind (treeOf kind node)
  | .documents builder metric hits, entries =>
    (∀ hit ∈ hits, ∃ block, seriesOf builder metric hit = .ok block) ∧
      ∃ series, AreBuilt builder (hits.flatMap (·.identitiesFor metric)) series ∧ entries = series.map .series

/-- These are the entries of a node that come before its fault: none, but for tags those of the keys before the faulty
one. -/
def StandBefore : QueryKind → Aggregation → List Entry → Prop
  | .tagKeysAndValues, node, entries =>
    WrapperOffends uniqueTags node ∧ entries = [] ∨
      ∃ before b after, bucketsIn uniqueTags node = before ++ b :: after ∧ (∀ u ∈ before, ¬KeyOffends u) ∧
        KeyOffends b ∧ entries = before.map keyEntry
  | _, _, entries => entries = []

/-- An input has these entries before its fault. Of documents they are those of the documents before the faulty one. -/
def BreaksOff : Piece → List Entry → Fault → Prop
  | .tree kind node, entries, fault => firstFault (visits kind node) = some fault ∧ StandBefore kind node entries
  | .documents builder metric hits, entries, fault =>
    ∃ before hit after, hits = before ++ hit :: after ∧ (documents builder metric before).IsWhole entries ∧
      seriesOf builder metric hit = .error fault

variable {piece : Piece} {entries : List Entry} {fault : Fault}

/-! ### What it reads -/

theorem read_tree_fault (kind : QueryKind) (node : Aggregation) :
    (tree kind node).read.fault = firstFault (visits kind node) := by
  cases kind with
  | timeSeries => rfl
  | _ => exact read_fault rfl node

theorem read_tree_fault_eq_none_iff {kind : QueryKind} {node : Aggregation} :
    (tree kind node).read.fault = none ↔ ¬Offends kind node := by
  rw [read_tree_fault, ← exists_visits_iff, ← isSome_firstFault_iff, Option.not_isSome_iff_eq_none]

/-- A node is read as it is in a response that has nothing else. -/
theorem read_tree (kind : QueryKind) (node : Aggregation) :
    (tree kind node).read = readResponse Series.canonical kind ⟨0, some (treeOf kind node), [], .null⟩ := by
  cases kind <;> simp [read, readResponse, ofKind, treeOf, readSeries, Reading.collect]

theorem read_tree_entries {kind : QueryKind} {node : Aggregation} (h : (tree kind node).read.fault = none) :
    (tree kind node).read.entries = treeEntries kind (treeOf kind node) := by
  cases kind with
  | timeSeries => rfl
  | _ =>
      rw [read_tree] at h ⊢
      exact readResponse_holds h

theorem readSeries_fault_eq_none_iff {builder : SeriesBuilder} {metric : Option Json} {hits : List Hit} :
    (readSeries builder metric hits).fault = none ↔ ∀ hit ∈ hits, ∃ block, seriesOf builder metric hit = .ok block := by
  simp only [readSeries, Reading.collect_fault_eq_none_iff, map_eq_ok]
  refine forall₂_congr fun hit _ => ⟨?_, ?_⟩
  · rintro ⟨-, block, hblock, -⟩
    exact ⟨block, hblock⟩
  · rintro ⟨block, hblock⟩
    exact ⟨_, block, hblock, rfl⟩

/-- An interpreter that meets no fault reads the entries of its input. -/
theorem read_eq_ofList_iff : piece.read = .ofList entries ↔ piece.IsWhole entries := by
  cases piece with
  | tree kind node =>
      rw [IsWhole, ← read_tree_fault_eq_none_iff]
      constructor
      · intro h
        have hfault : (tree kind node).read.fault = none := congrArg Reading.fault h
        exact ⟨hfault, (congrArg Reading.entries h).symm.trans (read_tree_entries hfault)⟩
      · rintro ⟨hfault, rfl⟩
        rw [← read_tree_entries hfault]
        exact Reading.eq_ofList hfault
  | documents builder metric hits =>
      show readSeries builder metric hits = _ ↔ _
      rw [IsWhole, ← readSeries_fault_eq_none_iff]
      constructor
      · intro h
        have hfault : (readSeries builder metric hits).fault = none := congrArg Reading.fault h
        obtain ⟨series, hbuilt, hread⟩ := readSeries_entries hfault
        exact ⟨hfault, series, hbuilt, congrArg Reading.entries (h.symm.trans hread)⟩
      · rintro ⟨hfault, series, hbuilt, rfl⟩
        obtain ⟨other, hother, hread⟩ := readSeries_entries hfault
        rw [hread, hbuilt.unique hother]

theorem tagValuesOf_eq_error_iff {b : Bucket} : (∃ fault, tagValuesOf b.subs = .error fault) ↔ KeyOffends b := by
  simp only [← fault?_eq_some, ← Option.isSome_iff_exists, tagValuesOf_fault, isSome_firstFault_iff,
    exists_visitsOfKey_iff]

theorem bucketsIn_of_offends {unique : String} {node : Aggregation} (h : WrapperOffends unique node) :
    bucketsIn unique node = [] := by
  rw [List.eq_nil_iff_forall_not_mem]
  intro b hb
  obtain ⟨count, subs, buckets, rfl, -, hlookup, -⟩ := mem_bucketsIn.mp hb
  obtain hshape | ⟨other, subs', child, hnode, -, hchild, hshape⟩ := h
  · exact hshape rfl
  · cases hnode
    rw [hlookup] at hchild
    cases hchild
    exact hshape rfl

/-- The tags of keys that are all well. -/
theorem collect_keys_eq_ofList_iff {buckets : List Bucket} :
    Reading.collect (fun b => (tagValuesOf b.subs).map fun values => [Entry.tag (nameCountOf b, values)]) buckets =
        .ofList entries ↔
      (∀ b ∈ buckets, ¬KeyOffends b) ∧ entries = buckets.map keyEntry := by
  have hwell : ∀ b, ¬KeyOffends b →
      ((tagValuesOf b.subs).map fun values => [Entry.tag (nameCountOf b, values)]) = .ok [keyEntry b] := by
    intro b hb
    cases hread : tagValuesOf b.subs with
    | error fault => exact absurd (tagValuesOf_eq_error_iff.mp ⟨fault, hread⟩) hb
    | ok values =>
        rw [keyEntry, tagValuesOf_eq_ok hread]
        rfl
  have hcollect : (∀ b ∈ buckets, ¬KeyOffends b) →
      Reading.collect (fun b => (tagValuesOf b.subs).map fun values => [Entry.tag (nameCountOf b, values)]) buckets =
        .ofList (buckets.map keyEntry) := by
    intro h
    rw [Reading.collect_of_ok fun b hb => hwell b (h b hb), List.map_eq_flatMap]
  constructor
  · intro h
    have hkeys : ∀ b ∈ buckets, ¬KeyOffends b := by
      intro b hb hoffends
      obtain ⟨fault, hfault⟩ := tagValuesOf_eq_error_iff.mpr hoffends
      obtain ⟨block, hblock⟩ := Reading.collect_fault_eq_none_iff.mp (congrArg Reading.fault h) b hb
      rw [hfault] at hblock
      cases hblock
    exact ⟨hkeys, (congrArg Reading.entries (h.symm.trans (hcollect hkeys)))⟩
  · rintro ⟨hkeys, rfl⟩
    exact hcollect hkeys

theorem readTags_eq_fault_iff {node : Aggregation} :
    readTags node = ⟨entries, some fault⟩ ↔ (tree .tagKeysAndValues node).BreaksOff entries fault := by
  rw [BreaksOff, StandBefore, ← readTags_fault, readTags]
  cases hbuckets : uniqueTerms tags uniqueTags node with
  | error other =>
      have hoffends : WrapperOffends uniqueTags node := by
        rw [← @exists_visitsOfWrapper_iff tags, ← isSome_firstFault_iff, ← uniqueTerms_fault, hbuckets]
        rfl
      simp [Reading.failed, hoffends, bucketsIn_of_offends hoffends, and_comm, eq_comm]
  | ok buckets =>
      have hsound : ¬WrapperOffends uniqueTags node := by
        rw [← @exists_visitsOfWrapper_iff tags, ← isSome_firstFault_iff, ← uniqueTerms_fault, hbuckets]
        exact Bool.false_ne_true
      simp only [hsound, false_and, false_or, uniqueTerms_eq_ok hbuckets]
      constructor
      · intro h
        obtain ⟨before, b, after, rfl, hbefore, hb⟩ := Reading.collect_eq_fault_iff.mp h
        obtain ⟨hkeys, hentries⟩ := collect_keys_eq_ofList_iff.mp hbefore
        have hoffends : KeyOffends b := tagValuesOf_eq_error_iff.mp ⟨fault, map_eq_error.mp hb⟩
        exact ⟨congrArg Reading.fault h, before, b, after, rfl, hkeys, hoffends, hentries⟩
      · rintro ⟨hfault, before, b, after, rfl, hkeys, hoffends, hentries⟩
        obtain ⟨other, hother⟩ := tagValuesOf_eq_error_iff.mpr hoffends
        have hread := Reading.collect_eq_fault_iff.mpr
          ⟨before, b, after, rfl, collect_keys_eq_ofList_iff.mpr ⟨hkeys, hentries⟩, map_eq_error.mpr hother⟩
        rw [hread] at hfault ⊢
        cases hfault
        rfl

theorem ofBuckets_eq_fault_iff {entry : Bucket → Entry} {read : Except Fault (List Bucket)} :
    ofBuckets entry read = ⟨entries, some fault⟩ ↔ (ofBuckets entry read).fault = some fault ∧ entries = [] := by
  cases read with
  | ok buckets => simp [ofBuckets, Reading.ofList]
  | error other => simp [ofBuckets, Reading.failed, and_comm, eq_comm]

/-- An interpreter that meets a fault has read the entries of its input before it. -/
theorem read_eq_fault_iff : piece.read = ⟨entries, some fault⟩ ↔ piece.BreaksOff entries fault := by
  cases piece with
  | tree kind node =>
      cases kind with
      | tagKeysAndValues => exact readTags_eq_fault_iff
      | timeSeries =>
          constructor
          · intro h
            cases h
          · rintro ⟨h, -⟩
            cases h
      | namespaces | metrics | tagKeys | tagValues =>
          rw [BreaksOff, ← read_tree_fault]
          exact ofBuckets_eq_fault_iff
  | documents builder metric hits =>
      show Reading.collect _ _ = _ ↔ _
      rw [Reading.collect_eq_fault_iff, BreaksOff]
      simp only [map_eq_error, ← read_eq_ofList_iff]
      exact Iff.rfl

/-- What is read is whole, or it breaks off at a fault. -/
theorem read_cases (piece : Piece) :
    (∃ entries, piece.read = .ofList entries ∧ piece.IsWhole entries) ∨
      ∃ entries fault, piece.read = ⟨entries, some fault⟩ ∧ piece.BreaksOff entries fault := by
  rcases hread : piece.read with ⟨entries, _ | fault⟩
  · exact .inl ⟨entries, rfl, read_eq_ofList_iff.mp hread⟩
  · exact .inr ⟨entries, fault, rfl, read_eq_fault_iff.mp hread⟩

theorem belongsTo_of_isWhole (h : piece.IsWhole entries) : ∀ e ∈ entries, e.belongsTo piece.kind = true := by
  intro e he
  cases piece with
  | documents builder metric hits =>
      obtain ⟨-, series, -, rfl⟩ := h
      obtain ⟨s, -, rfl⟩ := List.mem_map.mp he
      rfl
  | tree kind node =>
      obtain ⟨-, rfl⟩ := h
      cases kind with
      | timeSeries => cases he
      | _ =>
          obtain ⟨b, -, rfl⟩ := List.mem_map.mp he
          rfl

theorem belongsTo_of_breaksOff (h : piece.BreaksOff entries fault) : ∀ e ∈ entries, e.belongsTo piece.kind = true := by
  intro e he
  cases piece with
  | documents builder metric hits =>
      obtain ⟨before, hit, after, -, hwhole, -⟩ := h
      exact belongsTo_of_isWhole hwhole e he
  | tree kind node =>
      cases kind with
      | tagKeysAndValues =>
          obtain ⟨-, ⟨-, rfl⟩ | ⟨before, b, after, -, -, -, rfl⟩⟩ := h
          · cases he
          · obtain ⟨b, -, rfl⟩ := List.mem_map.mp he
            rfl
      | _ =>
          obtain ⟨-, rfl⟩ := h
          cases he

end Piece

/-! ### What it does to an outcome -/

/-- What an interpreter does to an outcome. Beside its own collection the outcome stays the same, and that keeps what
it had. All entries of the input are there when the interpreter returns, those before the fault when it does not; an
outcome that takes no entries refuses the first one and stays the same. -/
structure Effect (piece : Piece) (o grown : Outcome) (fault : Option Fault) : Prop where
  frame : grown.cleared piece.kind = o.cleared piece.kind
  kept : o.held piece.kind <+: grown.held piece.kind
  returned : fault = none → ∃ entries, piece.IsWhole entries ∧
    grown.held piece.kind = o.held piece.kind ++ entries ∧ (entries = [] → grown = o)
  raised : ∀ raised, fault = some raised → o.kind = .data → ∃ entries, piece.BreaksOff entries raised ∧
    grown.held piece.kind = o.held piece.kind ++ entries
  refused : o.kind ≠ .data → grown = o ∧
    ∀ entries, (piece.IsWhole entries ∨ ∃ raised, piece.BreaksOff entries raised) → entries ≠ [] →
      fault = some (.payloadRefused o.kind)

variable {piece : Piece} {o grown : Outcome} {entries : List Entry} {raised : Fault}

/-- What is appended on return is the entries of the input. -/
theorem Effect.isWhole (h : Effect piece o grown none) (hheld : grown.held piece.kind = o.held piece.kind ++ entries) :
    piece.IsWhole entries := by
  obtain ⟨others, hwhole, hothers, -⟩ := h.returned rfl
  rwa [List.append_cancel_left (hheld.symm.trans hothers)]

/-- What is appended before a fault is the entries of the input before it. -/
theorem Effect.breaksOff (h : Effect piece o grown (some raised)) (hdata : o.kind = .data)
    (hheld : grown.held piece.kind = o.held piece.kind ++ entries) : piece.BreaksOff entries raised := by
  obtain ⟨others, hbreaks, hothers⟩ := h.raised raised rfl hdata
  rwa [List.append_cancel_left (hheld.symm.trans hothers)]

/-- An outcome that takes entries takes all that is read. -/
theorem effect_of_data (h : o.kind = .data) :
    Effect piece o (piece.read.entries.foldl Outcome.push o) piece.read.fault := by
  have hbelongs : ∀ e ∈ piece.read.entries, e.belongsTo piece.kind = true := by
    rcases piece.read_cases with ⟨entries, hread, hwhole⟩ | ⟨entries, fault, hread, hbreaks⟩
    · rw [hread]
      exact Piece.belongsTo_of_isWhole hwhole
    · rw [hread]
      exact Piece.belongsTo_of_breaksOff hbreaks
  have hheld := Outcome.held_foldl_push (o := o) hbelongs
  exact {
    frame := Outcome.cleared_foldl_push hbelongs
    kept := by
      rw [hheld]
      exact List.prefix_append _ _
    returned := by
      intro hfault
      refine ⟨piece.read.entries, Piece.read_eq_ofList_iff.mp (Reading.eq_ofList hfault), hheld, fun hempty => ?_⟩
      rw [hempty]
      rfl
    raised := by
      intro raised hfault _
      refine ⟨piece.read.entries, Piece.read_eq_fault_iff.mp ?_, hheld⟩
      rw [← hfault]
    refused := fun hdata => absurd h hdata }

theorem effect_of_ne_data (h : o.kind ≠ .data) :
    Effect piece o o (if piece.read.entries = [] then piece.read.fault else some (.payloadRefused o.kind)) where
  frame := rfl
  kept := List.prefix_refl _
  returned := by
    intro hfault
    by_cases hempty : piece.read.entries = []
    · rw [if_pos hempty] at hfault
      have hwhole : piece.IsWhole [] := by
        rw [← Piece.read_eq_ofList_iff, ← hempty]
        exact Reading.eq_ofList hfault
      exact ⟨[], hwhole, (List.append_nil _).symm, fun _ => rfl⟩
    · rw [if_neg hempty] at hfault
      cases hfault
  raised := fun _ _ hdata => absurd hdata h
  refused := by
    refine fun _ => ⟨rfl, fun entries hentries hsome => ?_⟩
    have hread : piece.read.entries = entries := by
      rcases hentries with hwhole | ⟨raised, hbreaks⟩
      · rw [Piece.read_eq_ofList_iff.mpr hwhole]
        rfl
      · rw [Piece.read_eq_fault_iff.mpr hbreaks]
    rw [if_neg (hread ▸ hsome)]

/-- Every interpreter leaves every outcome behind as `Effect` says. -/
theorem absorb_effect (q : Query) (piece : Piece) (o : Outcome) :
    ∃ grown fault, Outcome.absorb q piece.read (some o) = (some grown, fault) ∧ Effect piece o grown fault := by
  by_cases h : o.kind = .data
  · exact ⟨_, _, Outcome.absorb_some q _ h, effect_of_data h⟩
  · exact ⟨_, _, Outcome.absorb_some_of_ne_data q _ h, effect_of_ne_data h⟩

/-- Three inputs and an outcome that has a tag. The metrics are sound. Of the tag keys the second has terms of a wrong
shape, of the documents the second has no list of tags, and what comes before these is there. -/
theorem absorb_effect_of_three :
    let q : Query := ⟨.timeSeries, "sys", .absent, .int 0, .int 10⟩
    let held : Outcome := { Outcome.start .data (some q) none with tags := [((.str "dc", .int 7), none)] }
    let metrics := Piece.tree .metrics
      (.nested 3 [("unique_metrics", .terms [.mk "cpu" 2 [], .mk "mem" 1 []])])
    let valued (terms : Aggregation) : Aggregations := [("tags_sub_agg", .filter 2 [("tags_sub_unique", terms)])]
    let tags := Piece.tree .tagKeysAndValues (.nested 9 [("unique_tags", .terms
      [.mk "host" 4 (valued (.terms [.mk "web01" 3 []])), .mk "rack" 3 (valued (.nested 1 [])), .mk "row" 2 []])])
    let cpu : Hit := ⟨.obj [("tags", .arr [.obj [("key.raw", .str "host"), ("value.raw", .str "web01")]]),
      ("AM_nested", .arr [.obj [("name.raw", .str "cpu")]])], .null⟩
    let documents := Piece.documents Series.canonical none [cpu, ⟨.obj [("tags", .int 1)], .null⟩, cpu]
    (Outcome.absorb q metrics.read (some held) =
        (some { held with metrics := [(.str "cpu", .int 2), (.str "mem", .int 1)] }, none) ∧
      metrics.IsWhole [.metric (.str "cpu", .int 2), .metric (.str "mem", .int 1)]) ∧
    (Outcome.absorb q tags.read (some held) =
        (some { held with
            tags := [((.str "dc", .int 7), none), ((.str "host", .int 4), some [(.str "web01", .int 3)])] },
          some (.shapeMismatch "tags_sub_unique" .terms "NestedAggregation")) ∧
      tags.BreaksOff [.tag ((.str "host", .int 4), some [(.str "web01", .int 3)])]
        (.shapeMismatch "tags_sub_unique" .terms "NestedAggregation")) ∧
    Outcome.absorb q documents.read (some held) =
        (some { held with series := [.identity ⟨.str "cpu", [(.str "host", .str "web01")]⟩] }, some .wrongKind) ∧
      documents.BreaksOff [.series (.identity ⟨.str "cpu", [(.str "host", .str "web01")]⟩)] .wrongKind := by
  intro q held metrics valued tags cpu documents
  have heffect : ∀ {piece : Piece} {grown : Outcome} {fault : Option Fault},
      Outcome.absorb q piece.read (some held) = (some grown, fault) → Effect piece held grown fault := by
    intro piece grown fault h
    obtain ⟨other, raised, hother, heffect⟩ := absorb_effect q piece held
    rw [h] at hother
    cases hother
    exact heffect
  have hmetrics : Outcome.absorb q metrics.read (some held) =
      (some { held with metrics := [(.str "cpu", .int 2), (.str "mem", .int 1)] }, none) := rfl
  have htags : Outcome.absorb q tags.read (some held) =
      (some { held with
          tags := [((.str "dc", .int 7), none), ((.str "host", .int 4), some [(.str "web01", .int 3)])] },
        some (.shapeMismatch "tags_sub_unique" .terms "NestedAggregation")) := rfl
  have hdocuments : Outcome.absorb q documents.read (some held) =
      (some { held with series := [.identity ⟨.str "cpu", [(.str "host", .str "web01")]⟩] }, some .wrongKind) := rfl
  exact ⟨⟨hmetrics, (heffect hmetrics).isWhole rfl⟩, ⟨htags, (heffect htags).breaksOff rfl rfl⟩, hdocuments,
    (heffect hdocuments).breaksOff rfl rfl⟩

end Interpreter

end SeriesCatalog
