import SeriesCatalog.Proofs.Interpreter.Holdings
import SeriesCatalog.Proofs.Outcome.Running

/-! Which trees are refused, and for which node. A reader looks at few places of a tree, one after the other, and
expects one shape at each. It stops at the first place where another one is; a place that it does not come to may hold
anything, as everything below a wrapper without documents. -/

namespace SeriesCatalog

/-- A place of a tree that is looked at: its name, the shape expected there and the node that is there. -/
structure Visit where
  name : String
  expected : Shape
  node : Aggregation

namespace Visit

/-- The node has another shape than the one expected. -/
def IsOffence (v : Visit) : Prop := v.node.shape ≠ v.expected

instance (v : Visit) : Decidable v.IsOffence := inferInstanceAs (Decidable (_ ≠ _))

def fault (v : Visit) : Fault := .shapeMismatch v.name v.expected v.node.shape.label

/-- The fault of the first place that offends. -/
def firstFault (visits : List Visit) : Option Fault := (visits.find? fun v => decide v.IsOffence).map fault

theorem firstFault_cons (v : Visit) (visits : List Visit) :
    firstFault (v :: visits) = if v.IsOffence then some v.fault else firstFault visits := by
  unfold firstFault
  by_cases h : v.IsOffence
  · rw [List.find?_cons_of_pos (by simpa using h), if_pos h]
    rfl
  · rw [List.find?_cons_of_neg (by simpa using h), if_neg h]

theorem firstFault_append (visits more : List Visit) :
    firstFault (visits ++ more) = (firstFault visits).or (firstFault more) := by
  unfold firstFault
  rw [List.find?_append]
  cases visits.find? fun v => decide v.IsOffence <;> rfl

/-- Places that belong to the items of a list, item after item. -/
theorem firstFault_flatMap {α : Type} (visitsOf : α → List Visit) (xs : List α) :
    firstFault (xs.flatMap visitsOf) = xs.findSome? fun x => firstFault (visitsOf x) := by
  induction xs with
  | nil => rfl
  | cons x rest ih =>
      rw [List.flatMap_cons, firstFault_append, List.findSome?_cons, ih]
      cases firstFault (visitsOf x) <;> rfl

theorem isSome_firstFault_iff {visits : List Visit} :
    (firstFault visits).isSome = true ↔ ∃ v ∈ visits, v.IsOffence := by
  simp [firstFault]

theorem firstFault_eq_some_iff {visits : List Visit} {fault : Fault} :
    firstFault visits = some fault ↔
      ∃ before v after, visits = before ++ v :: after ∧ (∀ u ∈ before, ¬u.IsOffence) ∧ v.IsOffence ∧
        fault = v.fault := by
  simp only [firstFault, Option.map_eq_some_iff, List.find?_eq_some_iff_append, decide_eq_true_eq,
    Bool.not_eq_true', decide_eq_false_iff_not]
  constructor
  · rintro ⟨v, ⟨hv, before, after, hvisits, hbefore⟩, hfault⟩
    exact ⟨before, v, after, hvisits, hbefore, hv, hfault.symm⟩
  · rintro ⟨before, v, after, hvisits, hbefore, hv, hfault⟩
    exact ⟨v, ⟨hv, before, after, hvisits, hbefore⟩, hfault.symm⟩

end Visit

namespace Interpreter

open AggregationName Fallible Visit

/-! ### The places a reader looks at -/

/-- The terms of a name inside a wrapper that has documents. -/
def wrapped? (unique : String) : Aggregation → Option Aggregation
  | .nested count subs => if 0 < count then subs.lookup unique else none
  | _ => none

/-- The terms of the values inside a filter that matches a document. -/
def filtered? : Aggregation → Option Aggregation
  | .filter count inner => if 1 ≤ count then inner.lookup uniqueTagsSub else none
  | _ => none

/-- A node, and the terms inside it if there are any. -/
def visitsOfLayer (outer : Visit) (inner : String) (child : Option Aggregation) : List Visit :=
  outer :: child.toList.map (⟨inner, .terms, ·⟩)

/-- A wrapper, and the terms inside it. -/
def visitsOfWrapper (name unique : String) (node : Aggregation) : List Visit :=
  visitsOfLayer ⟨name, .nested, node⟩ unique (wrapped? unique node)

/-- The filter below a tag key, and the terms of its values. -/
def visitsOfKey (b : Bucket) : List Visit :=
  (b.subs.lookup tagsSub).toList.flatMap fun sub =>
    visitsOfLayer ⟨tagsSub, .filter, sub⟩ uniqueTagsSub (filtered? sub)

/-- The places that are looked at for a kind of query, in the order of the reading. -/
def visits : QueryKind → Aggregation → List Visit
  | .namespaces, node => [⟨namespaces, .terms, node⟩]
  | .metrics, node => visitsOfWrapper metrics uniqueMetrics node
  | .tagKeys, node => visitsOfWrapper tagKeys uniqueTagKeys node
  | .tagValues, node => visitsOfWrapper tagValues uniqueTagValues node
  | .tagKeysAndValues, node => visitsOfWrapper tags uniqueTags node ++ (bucketsIn uniqueTags node).flatMap visitsOfKey
  | .timeSeries, _ => []

/-! ### The fault of a reading -/

theorem ofBuckets_fault (entry : Bucket → Entry) (read : Except Fault (List Bucket)) :
    (ofBuckets entry read).fault = fault? read := by
  cases read <;> rfl

theorem collect_fault {α β : Type} (read : β → Except Fault (List α)) (xs : List β) :
    (Reading.collect read xs).fault = xs.findSome? fun x => fault? (read x) := by
  induction xs with
  | nil => rfl
  | cons x rest ih =>
      rw [Reading.collect, List.findSome?_cons]
      cases read x with
      | ok entries => exact ih
      | error fault => rfl

theorem termsOf_fault (name : String) (node : Aggregation) :
    fault? (termsOf name node) = firstFault [⟨name, .terms, node⟩] := by
  cases node <;> rfl

theorem uniqueTerms_fault (name unique : String) (node : Aggregation) :
    fault? (uniqueTerms name unique node) = firstFault (visitsOfWrapper name unique node) := by
  cases node with
  | nested count subs =>
      rw [visitsOfWrapper, visitsOfLayer, firstFault_cons, if_neg (by simp [IsOffence, Aggregation.shape]), uniqueTerms,
        wrapped?]
      by_cases hcount : count ≤ 0
      · rw [if_pos hcount, if_neg (by omega)]
        rfl
      · rw [if_neg hcount, if_pos (by omega)]
        cases subs.lookup unique with
        | none => rfl
        | some node => exact termsOf_fault unique node
  | _ => rfl

theorem tagValuesOf_fault (b : Bucket) : fault? (tagValuesOf b.subs) = firstFault (visitsOfKey b) := by
  unfold tagValuesOf visitsOfKey
  cases b.subs.lookup tagsSub with
  | none => rfl
  | some sub =>
      cases sub with
      | filter count inner =>
          simp only [Option.toList_some, List.flatMap_singleton, visitsOfLayer, firstFault_cons, filtered?]
          rw [if_neg (by simp [IsOffence, Aggregation.shape])]
          cases inner.lookup uniqueTagsSub with
          | none =>
              rw [ite_self]
              rfl
          | some node =>
              by_cases hcount : count < 1
              · simp only [if_pos hcount, if_neg (by omega : ¬1 ≤ count)]
                rfl
              · simp only [if_neg hcount, if_pos (by omega : 1 ≤ count), fault?_map, termsOf_fault]
                rfl
      | _ => rfl

theorem readTags_fault (node : Aggregation) : (readTags node).fault = firstFault (visits .tagKeysAndValues node) := by
  rw [visits, firstFault_append, ← uniqueTerms_fault, firstFault_flatMap, readTags]
  cases hbuckets : uniqueTerms tags uniqueTags node with
  | error fault => rfl
  | ok buckets =>
      rw [uniqueTerms_eq_ok hbuckets]
      simp only [collect_fault, fault?_map, tagValuesOf_fault]
      rfl

/-- The fault of a reading is that of the first place that offends. -/
theorem read_fault {kind : QueryKind} {name : String} {read : Aggregation → Reading Entry}
    (h : ofKind kind = some (name, read)) (node : Aggregation) : (read node).fault = firstFault (visits kind node) := by
  cases kind with
  | namespaces =>
      cases h
      exact (ofBuckets_fault _ _).trans (termsOf_fault _ _)
  | metrics | tagKeys | tagValues =>
      cases h
      exact (ofBuckets_fault _ _).trans (uniqueTerms_fault _ _ _)
  | tagKeysAndValues =>
      cases h
      exact readTags_fault node
  | timeSeries => cases h

/-! ### The trees that are refused -/

/-- There is no wrapper, or a wrapper with documents where other things than terms have the name of its terms. -/
def WrapperOffends (unique : String) (node : Aggregation) : Prop :=
  node.shape ≠ .nested ∨
    ∃ count subs child, node = .nested count subs ∧ 0 < count ∧ subs.lookup unique = some child ∧ child.shape ≠ .terms

/-- Below a tag key stands something else than a filter, or a filter that matches a document and has other things
than terms under the name of the values. -/
def KeyOffends (b : Bucket) : Prop :=
  ∃ sub, b.subs.lookup tagsSub = some sub ∧
    (sub.shape ≠ .filter ∨
      ∃ count inner child, sub = .filter count inner ∧ 1 ≤ count ∧ inner.lookup uniqueTagsSub = some child ∧
        child.shape ≠ .terms)

/-- A tree that is refused for a kind of query. -/
def Offends : QueryKind → Aggregation → Prop
  | .namespaces, node => node.shape ≠ .terms
  | .metrics, node => WrapperOffends uniqueMetrics node
  | .tagKeys, node => WrapperOffends uniqueTagKeys node
  | .tagValues, node => WrapperOffends uniqueTagValues node
  | .tagKeysAndValues, node =>
    WrapperOffends uniqueTags node ∨
      ∃ count subs buckets, node = .nested count subs ∧ 0 < count ∧ subs.lookup uniqueTags = some (.terms buckets) ∧
        ∃ b ∈ buckets, KeyOffends b
  | .timeSeries, _ => False

theorem wrapped?_eq_some {unique : String} {node child : Aggregation} :
    wrapped? unique node = some child ↔
      ∃ count subs, node = .nested count subs ∧ 0 < count ∧ subs.lookup unique = some child := by
  cases node <;> simp [wrapped?]

theorem filtered?_eq_some {node child : Aggregation} :
    filtered? node = some child ↔
      ∃ count inner, node = .filter count inner ∧ 1 ≤ count ∧ inner.lookup uniqueTagsSub = some child := by
  cases node <;> simp [filtered?]

theorem mem_bucketsIn {unique : String} {node : Aggregation} {b : Bucket} :
    b ∈ bucketsIn unique node ↔
      ∃ count subs buckets, node = .nested count subs ∧ 0 < count ∧ subs.lookup unique = some (.terms buckets) ∧
        b ∈ buckets := by
  constructor
  · intro h
    cases node with
    | nested count subs =>
        rw [bucketsIn] at h
        by_cases hcount : 0 < count
        · rw [if_pos hcount, bucketsAt] at h
          cases hlookup : subs.lookup unique with
          | none => simp [hlookup] at h
          | some child =>
              cases child with
              | terms buckets =>
                  rw [hlookup] at h
                  exact ⟨count, subs, buckets, rfl, hcount, hlookup, h⟩
              | _ => simp [hlookup] at h
        · simp [hcount] at h
    | _ => simp [bucketsIn] at h
  · rintro ⟨count, subs, buckets, rfl, hcount, hlookup, hb⟩
    simpa only [bucketsIn, if_pos hcount, bucketsAt, hlookup] using hb

theorem exists_visitsOfLayer_iff {outer : Visit} {inner : String} {child : Option Aggregation} :
    (∃ v ∈ visitsOfLayer outer inner child, v.IsOffence) ↔
      outer.IsOffence ∨ ∃ node, child = some node ∧ node.shape ≠ .terms := by
  cases child <;> simp [visitsOfLayer, IsOffence]

theorem exists_visitsOfWrapper_iff {name unique : String} {node : Aggregation} :
    (∃ v ∈ visitsOfWrapper name unique node, v.IsOffence) ↔ WrapperOffends unique node := by
  rw [visitsOfWrapper, exists_visitsOfLayer_iff, WrapperOffends]
  simp only [wrapped?_eq_some]
  refine or_congr_right ⟨?_, ?_⟩
  · rintro ⟨child, ⟨count, subs, hnode, hcount, hlookup⟩, hchild⟩
    exact ⟨count, subs, child, hnode, hcount, hlookup, hchild⟩
  · rintro ⟨count, subs, child, hnode, hcount, hlookup, hchild⟩
    exact ⟨child, ⟨count, subs, hnode, hcount, hlookup⟩, hchild⟩

theorem exists_visitsOfKey_iff {b : Bucket} : (∃ v ∈ visitsOfKey b, v.IsOffence) ↔ KeyOffends b := by
  have hlayer : ∀ sub, (∃ v ∈ visitsOfLayer ⟨tagsSub, .filter, sub⟩ uniqueTagsSub (filtered? sub), v.IsOffence) ↔
      sub.shape ≠ .filter ∨ ∃ count inner child, sub = .filter count inner ∧ 1 ≤ count ∧
        inner.lookup uniqueTagsSub = some child ∧ child.shape ≠ .terms := by
    intro sub
    rw [exists_visitsOfLayer_iff]
    simp only [filtered?_eq_some]
    refine or_congr_right ⟨?_, ?_⟩
    · rintro ⟨child, ⟨count, inner, hsub, hcount, hlookup⟩, hchild⟩
      exact ⟨count, inner, child, hsub, hcount, hlookup, hchild⟩
    · rintro ⟨count, inner, child, hsub, hcount, hlookup, hchild⟩
      exact ⟨child, ⟨count, inner, hsub, hcount, hlookup⟩, hchild⟩
  simp only [KeyOffends, ← hlayer]
  cases hsub : b.subs.lookup tagsSub with
  | none => simp [visitsOfKey, hsub]
  | some sub => simp [visitsOfKey, hsub]

/-- A tree is refused if one of the places that are looked at offends. -/
theorem exists_visits_iff {kind : QueryKind} {node : Aggregation} :
    (∃ v ∈ visits kind node, v.IsOffence) ↔ Offends kind node := by
  cases kind with
  | namespaces => simp [visits, Offends, IsOffence]
  | metrics | tagKeys | tagValues => exact exists_visitsOfWrapper_iff
  | timeSeries => simp [visits, Offends]
  | tagKeysAndValues =>
      rw [Offends, ← @exists_visitsOfWrapper_iff tags uniqueTags node]
      simp only [visits, List.mem_append, or_and_right, exists_or, List.mem_flatMap, mem_bucketsIn,
        ← exists_visitsOfKey_iff]
      refine or_congr_right ⟨?_, ?_⟩
      · rintro ⟨v, ⟨b, ⟨count, subs, buckets, hnode, hcount, hlookup, hb⟩, hv⟩, hoffence⟩
        exact ⟨count, subs, buckets, hnode, hcount, hlookup, b, hb, v, hv, hoffence⟩
      · rintro ⟨count, subs, buckets, hnode, hcount, hlookup, b, hb, v, hv, hoffence⟩
        exact ⟨v, ⟨b, ⟨count, subs, buckets, hnode, hcount, hlookup, hb⟩, hv⟩, hoffence⟩

theorem not_offends_of_idle {kind : QueryKind} {count : Int} {subs : Aggregations} (hkind : kind ≠ .namespaces)
    (hcount : count ≤ 0) : ¬Offends kind (.nested count subs) := by
  have hwrapper : ∀ unique, ¬WrapperOffends unique (.nested count subs) := by
    rintro unique (hshape | ⟨other, subs', child, hnode, hpos, -⟩)
    · exact hshape rfl
    · cases hnode
      omega
  cases kind with
  | namespaces => exact absurd rfl hkind
  | metrics | tagKeys | tagValues => exact hwrapper _
  | timeSeries => exact id
  | tagKeysAndValues =>
      rintro (hnode | ⟨other, subs', buckets, hnode, hpos, -⟩)
      · exact hwrapper _ hnode
      · cases hnode
        omega

/-- The fault of taking over a tree: there is one exactly for a tree that is refused, and it names the first place that
offends. A place that is come to has to be of a known type; a wrapper without documents may hold anything. -/
structure IsFaultOf (kind : QueryKind) (node : Aggregation) (fault : Option Fault) : Prop where
  raises : fault.isSome = true ↔ Offends kind node
  first : ∀ raised, fault = some raised ↔
    ∃ before v after, visits kind node = before ++ v :: after ∧ (∀ u ∈ before, ¬u.IsOffence) ∧ v.IsOffence ∧
      raised = .shapeMismatch v.name v.expected v.node.shape.label
  unknown : ∀ v ∈ visits kind node, v.node.shape = .unknown → fault.isSome = true
  idle : ∀ count subs, node = .nested count subs → count ≤ 0 → kind ≠ .namespaces → fault = none

/-- No reader expects an aggregation of an unknown type. -/
theorem expected_ne_unknown {kind : QueryKind} {node : Aggregation} {v : Visit} (h : v ∈ visits kind node) :
    v.expected ≠ .unknown := by
  have hlayer : ∀ {outer : Visit} {inner : String} {child : Option Aggregation},
      v ∈ visitsOfLayer outer inner child → outer.expected ≠ .unknown → v.expected ≠ .unknown := by
    intro outer inner child hv houter
    rcases List.mem_cons.mp hv with rfl | hv
    · exact houter
    · obtain ⟨node, -, rfl⟩ := List.mem_map.mp hv
      exact nofun
  cases kind with
  | namespaces =>
      obtain rfl := List.mem_singleton.mp h
      exact nofun
  | metrics | tagKeys | tagValues => exact hlayer h nofun
  | timeSeries => cases h
  | tagKeysAndValues =>
      rcases List.mem_append.mp h with hv | hv
      · exact hlayer hv nofun
      · obtain ⟨b, -, hv⟩ := List.mem_flatMap.mp hv
        obtain ⟨sub, -, hv⟩ := List.mem_flatMap.mp hv
        exact hlayer hv nofun

/-- A tree that is taken over faults as its places say, whatever is there already, as long as that takes entries. -/
theorem absorb_isFaultOf {kind : QueryKind} {name : String} {read : Aggregation → Reading Entry}
    {running : Option Outcome} (q : Query) (hkind : ofKind kind = some (name, read))
    (hopen : Outcome.IsOpen running) (node : Aggregation) :
    IsFaultOf kind node (Outcome.absorb q (read node) running).2 := by
  have hfault : (Outcome.absorb q (read node) running).2 = firstFault (visits kind node) :=
    (Outcome.absorb_fault hopen _).trans (read_fault hkind node)
  have hraises : (firstFault (visits kind node)).isSome = true ↔ Offends kind node :=
    isSome_firstFault_iff.trans exists_visits_iff
  rw [hfault]
  exact {
    raises := hraises
    first := fun raised => firstFault_eq_some_iff
    unknown := by
      intro v hv hunknown
      refine isSome_firstFault_iff.mpr ⟨v, hv, fun hshape => ?_⟩
      exact expected_ne_unknown hv (hshape.symm.trans hunknown)
    idle := by
      rintro count subs rfl hcount hne
      rw [← Option.not_isSome_iff_eq_none, hraises]
      exact not_offends_of_idle hne hcount }

/-- Tags whose first key is well, with a filter that matches nothing and anything in it, and whose second key has an
aggregation of an unknown type in place of a filter; an outcome with a tag of before; and a wrapper without documents,
before there is any outcome. -/
theorem absorb_isFaultOf_of_tags :
    let q : Query := ⟨.tagKeysAndValues, "sys", .absent, .int 0, .int 10⟩
    let o : Outcome := { Outcome.start .data (some q) none with tags := [((.str "dc", .int 1), none)] }
    let host : Bucket := .mk "host" 2 [("tags_sub_agg", .filter 0 [("tags_sub_unique", .nested 1 [])])]
    let rack : Bucket := .mk "rack" 1 [("tags_sub_agg", .unknown "avg" [])]
    let node : Aggregation := .nested 3 [("unique_tags", .terms [host, rack])]
    let idle : Aggregation := .nested 0 [("unique_tags", .unknown "avg" [])]
    (Outcome.absorb q (readTags node) (some o)).2 =
        some (.shapeMismatch "tags_sub_agg" .filter "UnknownAggregation") ∧
      Offends .tagKeysAndValues node ∧ (Outcome.absorb q (readTags idle) none).2 = none := by
  intro q o host rack node idle
  have hopen : Outcome.IsOpen (some o) := by
    intro o' ho'
    obtain rfl := Option.some.inj ho'
    rfl
  have hnode := absorb_isFaultOf q (rfl : ofKind .tagKeysAndValues = some (_, readTags)) hopen node
  have hidle := absorb_isFaultOf q (rfl : ofKind .tagKeysAndValues = some (_, readTags)) Outcome.isOpen_none idle
  have hfirst : (Outcome.absorb q (readTags node) (some o)).2 =
      some (.shapeMismatch "tags_sub_agg" .filter "UnknownAggregation") := by
    refine (hnode.first _).mpr ⟨[⟨_, .nested, node⟩, ⟨_, .terms, .terms [host, rack]⟩, ⟨_, .filter, .filter 0 _⟩],
      ⟨_, .filter, .unknown "avg" []⟩, [], rfl, by decide, by decide, rfl⟩
  refine ⟨hfirst, hnode.raises.mp ?_, hidle.idle 0 _ rfl Int.le_rfl nofun⟩
  rw [hfirst]
  rfl

end Interpreter

end SeriesCatalog
