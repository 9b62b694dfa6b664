import SeriesCatalog.Telemetry.Event
import SeriesCatalog.Telemetry.Metrics

/-! What ticks add to the counters. Each sample grows by the number of the ticks that are its own: an outcome counts
under its two labels only, and an observation counts once in its histogram as long as it is a number. -/

namespace SeriesCatalog

namespace Tick

/-- The tick of an outcome with the labels of the two kinds. -/
def isOutcome (kind : QueryKind) (result : OutcomeKind) : Tick → Bool
  | .finished k r => k == kind.label && r == result.label
  | _ => false

def isBreach : Tick → Bool
  | .breached => true
  | _ => false

def isSearch : Tick → Bool
  | .searched _ => true
  | _ => false

def isParse : Tick → Bool
  | .parsed _ => true
  | _ => false

/-- What the tick measures is a number, if it measures anything. -/
def IsMeasured : Tick → Prop
  | .searched seconds => seconds.le seconds = true
  | .parsed seconds => seconds.le seconds = true
  | _ => True

/-- Different kinds have different labels. -/
theorem isOutcome_ofOutcome (kind k : QueryKind) (result r : OutcomeKind) :
    (ofOutcome k r).isOutcome kind result = (k == kind && r == result) := by
  have hkind : (k.label == kind.label) = (k == kind) := by
    rw [Bool.eq_iff_iff, beq_iff_eq, beq_iff_eq, QueryKind.label_inj]
  have hresult : (r.label == result.label) = (r == result) := by
    rw [Bool.eq_iff_iff, beq_iff_eq, beq_iff_eq, OutcomeKind.label_inj]
  rw [ofOutcome, isOutcome, hkind, hresult]

end Tick

/-- The completion of a query of the two kinds. -/
def Event.isCompletion (kind : QueryKind) (result : OutcomeKind) : Event → Bool
  | .completed k r _ => k == kind && r == result
  | _ => false

namespace Histogram

/-- The observations of buckets and those beyond them. -/
theorem foldr_succ (buckets : List (Double × Nat)) (beyond : Nat) :
    buckets.foldr (fun (_, n) total => n + total) (beyond + 1) =
      buckets.foldr (fun (_, n) total => n + total) beyond + 1 := by
  induction buckets with
  | nil => rfl
  | cons bucket rest ih =>
      simp only [List.foldr_cons, ih]
      omega

theorem foldr_of_countAt {x : Number} {buckets counted : List (Double × Nat)} (h : countAt x buckets = some counted)
    (beyond : Nat) :
    counted.foldr (fun (_, n) total => n + total) beyond =
      buckets.foldr (fun (_, n) total => n + total) beyond + 1 := by
  induction buckets generalizing counted with
  | nil => cases h
  | cons bucket rest ih =>
      obtain ⟨bound, n⟩ := bucket
      rw [countAt] at h
      split at h
      · obtain rfl := Option.some.inj h
        simp only [List.foldr_cons]
        omega
      · obtain ⟨more, hmore, rfl⟩ := Option.map_eq_some_iff.mp h
        simp only [List.foldr_cons, ih hmore]
        omega

/-- An observation counts once, in a bucket or beyond them all. -/
theorem count_observe (h : Histogram) {x : Number} (hx : x.le x = true) : (h.observe x).count = h.count + 1 := by
  rw [observe]
  cases hcounted : countAt x h.buckets with
  | some counted => exact foldr_of_countAt hcounted h.beyond
  | none =>
      simp only [hx, if_true]
      exact foldr_succ h.buckets h.beyond

end Histogram

namespace Metrics

/-- The number of outcomes that are counted under the labels of the two kinds. -/
def outcomeCount (m : Metrics) (kind : QueryKind) (result : OutcomeKind) : Nat :=
  (m.outcomes.lookup (kind.label, result.label)).getD 0

theorem lookup_countLabels (labels key : String × String) (held : List ((String × String) × Nat)) :
    ((countLabels labels held).lookup key).getD 0 =
      (held.lookup key).getD 0 + if labels = key then 1 else 0 := by
  induction held with
  | nil =>
      by_cases h : labels = key
      · simp [countLabels, h]
      · simp [countLabels, h, List.lookup_cons, beq_eq_false_iff_ne.mpr (Ne.symm h)]
  | cons entry rest ih =>
      obtain ⟨held, n⟩ := entry
      rw [countLabels]
      by_cases hheld : held = labels
      · subst hheld
        by_cases h : held = key
        · simp [h]
        · simp [h, List.lookup_cons, beq_eq_false_iff_ne.mpr (Ne.symm h)]
      · rw [if_neg hheld, List.lookup_cons, List.lookup_cons]
        by_cases h : held = key
        · subst h
          simp [Ne.symm hheld]
        · simp only [beq_eq_false_iff_ne.mpr (Ne.symm h), ih]

/-! ### One tick -/

theorem outcomeCount_count (m : Metrics) (kind : QueryKind) (result : OutcomeKind) (t : Tick) :
    (m.count t).outcomeCount kind result =
      m.outcomeCount kind result + if t.isOutcome kind result then 1 else 0 := by
  cases t with
  | finished k r =>
      rw [count, outcomeCount, lookup_countLabels, Tick.isOutcome, outcomeCount]
      simp [Prod.ext_iff]
  | _ => rfl

theorem breaches_count (m : Metrics) (t : Tick) :
    (m.count t).breaches = m.breaches + if t.isBreach then 1 else 0 := by
  cases t <;> rfl

theorem search_count (m : Metrics) {t : Tick} (h : t.IsMeasured) :
    (m.count t).search.count = m.search.count + if t.isSearch then 1 else 0 := by
  cases t with
  | searched seconds => exact m.search.count_observe h
  | _ => rfl

theorem parse_count (m : Metrics) {t : Tick} (h : t.IsMeasured) :
    (m.count t).parse.count = m.parse.count + if t.isParse then 1 else 0 := by
  cases t with
  | parsed seconds => exact m.parse.count_observe h
  | _ => rfl

/-! ### Many ticks -/

/-- A sample to which each tick of its own adds one grows by the number of these ticks. -/
theorem sample_countAll {sample : Metrics → Nat} {isOwn : Tick → Bool} {ticks : List Tick}
    (hstep : ∀ m, ∀ t ∈ ticks, sample (m.count t) = sample m + if isOwn t then 1 else 0) (m : Metrics) :
    sample (m.countAll ticks) = sample m + ticks.countP isOwn := by
  induction ticks generalizing m with
  | nil => rfl
  | cons t rest ih =>
      have hrest := ih (fun m t ht => hstep m t (List.mem_cons_of_mem _ ht)) (m.count t)
      rw [countAll, List.foldl_cons, ← countAll, hrest, hstep m t List.mem_cons_self, List.countP_cons]
      omega

end Metrics

end SeriesCatalog
