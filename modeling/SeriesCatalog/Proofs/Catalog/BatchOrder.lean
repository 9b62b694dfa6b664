import SeriesCatalog.Proofs.Catalog.Ceiling
import SeriesCatalog.Proofs.Catalog.Routing
import SeriesCatalog.Proofs.Outcome.Running

/-! One batch in two orders. What a response gives, entries or a fault, does not depend on what was read before it.
So the order of a batch decides no more than which of several faults is met first, where the entries of each response
stand, and which of several breaches of the ceiling is reported. -/

namespace SeriesCatalog

/-- A batch is read response after response, each into what the responses before it have left. -/
theorem Interpreter.readBatch_eq_absorbEach (builder : SeriesBuilder) (q : Query) (batch : List Response) :
    readBatch builder q batch = Outcome.absorbEach q none (batch.map (readResponse builder q.kind)) :=
  (Outcome.absorbEach_eq Outcome.isOpen_none _).symm

namespace Catalog

/-- The outcome of a source takes its batch in the same way, and is there from the start. -/
theorem absorbed_readSource (c : Catalog) (q : Query) (metric : Json) (batch : List Response) :
    Outcome.absorbed q (some (.start .data (some q) none)) (c.readSource metric batch) =
      Outcome.absorbEach q (some (.start .data (some q) none))
        (batch.map fun r => Interpreter.readSeries c.builder (some metric) r.hits) := by
  have hopen : Outcome.IsOpen (some (.start .data (some q) none)) := by
    intro o ho
    obtain rfl := Option.some.inj ho
    rfl
  rw [readSource, Outcome.absorbEach_eq hopen]

/-! ### One response -/

/-- The reading of a response for what the catalog is asked. -/
def readingOf (c : Catalog) (q : Query) : Ask → Response → Reading Entry
  | .query _, r => Interpreter.readResponse c.builder q.kind r
  | .source _ s, r => Interpreter.readSeries c.builder (some s.metric) r.hits

/-- What a response gives when nothing is read before it. -/
def readAlone (c : Catalog) (q : Query) (ask : Ask) (r : Response) : Except Fault (Option Outcome) :=
  Outcome.absorbed q none (c.readingOf q ask r)

/-- The entries of a response that is read alone. -/
def blockAlone (c : Catalog) (q : Query) (ask : Ask) (r : Response) : List Entry :=
  match c.readAlone q ask r with
  | .ok (some o) => o.payload
  | _ => []

variable {c : Catalog} {q : Query} {ask : Ask} {batch batch' : List Response}

theorem readAlone_eq (c : Catalog) (q : Query) (ask : Ask) (r : Response) :
    c.readAlone q ask r =
      match (c.readingOf q ask r).fault with
      | some fault => .error fault
      | none => .ok (Outcome.grown q none (c.readingOf q ask r).entries) :=
  Outcome.absorbed_eq Outcome.isOpen_none _

theorem readAlone_eq_error_iff {r : Response} {fault : Fault} :
    c.readAlone q ask r = .error fault ↔ (c.readingOf q ask r).fault = some fault := by
  rw [readAlone_eq]
  cases (c.readingOf q ask r).fault <;> simp

/-- A response without a fault gives all entries of its reading. -/
theorem blockAlone_eq {asked : Query} {r : Response} (h : (c.readingOf q (.query asked) r).fault = none) :
    c.blockAlone q (.query asked) r = (c.readingOf q (.query asked) r).entries := by
  have hbelongs : ∀ e ∈ (c.readingOf q (.query asked) r).entries, e.belongsTo q.kind = true :=
    Interpreter.belongsTo_of_holds (Interpreter.readResponse_holds h)
  rw [blockAlone, readAlone_eq, h]
  by_cases hempty : (c.readingOf q (.query asked) r).entries = []
  · simp [Outcome.grown, hempty]
  · have hpayload := Outcome.payload_ofEntries q hbelongs
    rw [Outcome.ofEntries] at hpayload
    simp [Outcome.grown, hempty, hpayload]

/-- The first fault of a batch is that of the first response that has one when it is read alone. -/
theorem findSome?_fault_eq_some_iff {fault : Fault} :
    batch.findSome? (fun r => (c.readingOf q ask r).fault) = some fault ↔
      ∃ before r after, batch = before ++ r :: after ∧ (∀ b ∈ before, ∃ alone, c.readAlone q ask b = .ok alone) ∧
        c.readAlone q ask r = .error fault := by
  have hcomplete : ∀ b, (c.readingOf q ask b).fault = none ↔ ∃ alone, c.readAlone q ask b = .ok alone := by
    intro b
    rw [readAlone_eq]
    cases (c.readingOf q ask b).fault <;> simp
  simp only [readAlone_eq_error_iff, ← hcomplete]
  rw [List.findSome?_eq_some_iff]
  constructor
  · rintro ⟨before, r, after, hbatch, hr, hbefore⟩
    exact ⟨before, r, after, hbatch, hbefore, hr⟩
  · rintro ⟨before, r, after, hbatch, hbefore, hr⟩
    exact ⟨before, r, after, hbatch, hr, hbefore⟩

theorem exists_findSome?_fault_iff :
    (∃ fault, batch.findSome? (fun r => (c.readingOf q ask r).fault) = some fault) ↔
      ∃ r ∈ batch, ∃ fault, c.readAlone q ask r = .error fault := by
  simp only [readAlone_eq_error_iff, Fallible.exists_findSome?_iff]

end Catalog

/-! ### Order laws -/

/-- How a query ends whose search has a batch. The fault is that of the first response that has one when it is read
alone; without such a response there is an outcome, in which the entries of each response stand together. -/
structure IsReadInOrder (c : Catalog) (q : Query) (ask : Ask) (batch : List Response)
    (result : Option (Except Fault Outcome)) : Prop where
  raised : ∀ fault, result = some (.error fault) ↔
    ∃ before r after, batch = before ++ r :: after ∧ (∀ b ∈ before, ∃ alone, c.readAlone q ask b = .ok alone) ∧
      c.readAlone q ask r = .error fault
  raises : (∃ fault, result = some (.error fault)) ↔ ∃ r ∈ batch, ∃ fault, c.readAlone q ask r = .error fault
  returns : (∃ o, result = some (.ok o)) ↔ ¬∃ r ∈ batch, ∃ fault, c.readAlone q ask r = .error fault
  payload : ∀ o, result = some (.ok o) → o.payload = batch.flatMap (c.blockAlone q ask)

/-- How a query ends for two orders of a batch. -/
structure QueryOrderLaw (c : Catalog) (q : Query) (ask : Ask) (batch batch' : List Response)
    (result result' : Option (Except Fault Outcome)) : Prop where
  first : IsReadInOrder c q ask batch result
  second : IsReadInOrder c q ask batch' result'
  raises : (∃ fault, result = some (.error fault)) ↔ ∃ fault, result' = some (.error fault)
  agree : ∀ o o', result = some (.ok o) → result' = some (.ok o') →
    o.kind = o'.kind ∧ o.total = o'.total ∧ o.payload.Perm o'.payload

/-- How a source ends for two orders of a batch. The guard comes first: a total that does not compare with the
ceiling raises, and a breach or a greatest total that is not above zero leaves the documents unread. -/
structure SourceOrderLaw (c : Catalog) (q : Query) (ask : Ask) (batch batch' : List Response)
    (result result' : Option (Except Fault Outcome)) : Prop where
  raises_iff : (∃ fault, result = some (.error fault)) ↔
    batch ≠ [] ∧ c.config.maxCardinality.isNumber = false ∨
      (∀ r ∈ batch, c.isWithin r = true) ∧ 0 < greatestTotal batch ∧
        ∃ r ∈ batch, ∃ fault, c.readAlone q ask r = .error fault
  raises : (∃ fault, result = some (.error fault)) ↔ ∃ fault, result' = some (.error fault)
  returns : (∃ o, result = some (.ok o)) ↔ ∃ o, result' = some (.ok o)
  kind : ∀ o o', result = some (.ok o) → result' = some (.ok o') → o.kind = o'.kind
  total : batch.countP c.exceeds ≤ 1 →
    ∀ o o', result = some (.ok o) → result' = some (.ok o') → o.total = o'.total

/-- How what the catalog is asked ends for two orders of a batch. -/
def OrderLaw (c : Catalog) (q : Query) (ask : Ask) (batch batch' : List Response)
    (result result' : Option (Except Fault Outcome)) : Prop :=
  match ask with
  | .query _ => QueryOrderLaw c q ask batch batch' result result'
  | .source _ _ => SourceOrderLaw c q ask batch batch' result result'

/-- Batches of the same responses have the same greatest total. -/
theorem greatestTotal_perm {batch batch' : List Response} (h : batch.Perm batch') :
    greatestTotal batch = greatestTotal batch' := by
  apply greatestTotal_eq
  obtain ⟨hempty, hzero⟩ | ⟨⟨r, hr, htotal⟩, hmost⟩ := isGreatestTotal_greatestTotal batch'
  · exact .inl ⟨(hempty ▸ h).eq_nil, hzero⟩
  · exact .inr ⟨⟨r, h.mem_iff.mpr hr, htotal⟩, fun s hs => hmost s (h.mem_iff.mp hs)⟩

/-- Two orders of a list find the same item if only one item is looked for. -/
theorem find?_perm {α : Type} {p : α → Bool} {xs ys : List α} (h : xs.Perm ys) (hone : xs.countP p ≤ 1) :
    xs.find? p = ys.find? p := by
  have hfilter := h.filter p
  rw [List.countP_eq_length_filter] at hone
  rw [← List.head?_filter, ← List.head?_filter]
  rcases hfound : xs.filter p with _ | ⟨x, _ | ⟨y, rest⟩⟩
  · rw [hfound] at hfilter
    rw [hfilter.symm.eq_nil]
  · rw [hfound] at hfilter
    rw [List.singleton_perm.mp hfilter]
  · rw [hfound] at hone
    simp at hone

namespace Catalog

variable {c : Catalog} {q : Query} {ask : Ask} {batch batch' : List Response} {elapsed : Elapsed}

/-! ### Queries -/

theorem conclude_query_result (asked : Query) :
    (c.conclude elapsed q (.query asked) (.ok batch)).result =
      match batch.findSome? fun r => (c.readingOf q (.query asked) r).fault with
      | some fault => .error fault
      | none =>
        .ok (outcomeOf q (batch.flatMap fun r => (c.readingOf q (.query asked) r).entries) (greatestTotal batch)) :=
  concludeQuery_batch elapsed

/-- The outcome of a query whose batch is read. -/
theorem conclude_query_ok {asked : Query} {o : Outcome}
    (h : (c.conclude elapsed q (.query asked) (.ok batch)).result = .ok o) :
    o.payload = batch.flatMap (c.blockAlone q (.query asked)) ∧ o.total = greatestTotal batch ∧
      o.kind = if o.payload = [] then .noData else .data := by
  rw [conclude_query_result] at h
  cases hfault : batch.findSome? fun r => (c.readingOf q (.query asked) r).fault with
  | some fault =>
      rw [hfault] at h
      cases h
  | none =>
      rw [hfault] at h
      obtain rfl := Except.ok.inj h
      have hcomplete := List.findSome?_eq_none_iff.mp hfault
      have hblocks : (batch.flatMap fun r => (c.readingOf q (.query asked) r).entries) =
          batch.flatMap (c.blockAlone q (.query asked)) :=
        List.flatMap_congr fun r hr => (blockAlone_eq (hcomplete r hr)).symm
      have hbelongs : ∀ e ∈ batch.flatMap fun r => (c.readingOf q (.query asked) r).entries,
          e.belongsTo q.kind = true := Interpreter.belongsTo_of_complete hcomplete
      have hpayload := payload_outcomeOf (greatestTotal batch) hbelongs
      have hhead := head_outcomeOf q (batch.flatMap fun r => (c.readingOf q (.query asked) r).entries)
        (greatestTotal batch)
      simp only [Outcome.head, Prod.mk.injEq] at hhead
      refine ⟨hpayload.trans hblocks, hhead.2.2.2, ?_⟩
      rw [hhead.1]
      exact congrArg (fun entries : List Entry => if entries = [] then OutcomeKind.noData else .data) hpayload.symm

theorem isReadInOrder_conclude (c : Catalog) (elapsed : Elapsed) (q asked : Query) (batch : List Response) :
    IsReadInOrder c q (.query asked) batch (some (c.conclude elapsed q (.query asked) (.ok batch)).result) where
  raised fault := by
    rw [← findSome?_fault_eq_some_iff, conclude_query_result]
    cases batch.findSome? fun r => (c.readingOf q (.query asked) r).fault <;> simp
  raises := by
    rw [← exists_findSome?_fault_iff, conclude_query_result]
    cases batch.findSome? fun r => (c.readingOf q (.query asked) r).fault <;> simp
  returns := by
    rw [← exists_findSome?_fault_iff, conclude_query_result]
    cases batch.findSome? fun r => (c.readingOf q (.query asked) r).fault <;> simp
  payload o ho := (conclude_query_ok (Option.some.inj ho)).1

theorem queryOrderLaw_conclude (asked : Query) {elapsed' : Elapsed} (h : batch.Perm batch') :
    QueryOrderLaw c q (.query asked) batch batch'
      (some (c.conclude elapsed q (.query asked) (.ok batch)).result)
      (some (c.conclude elapsed' q (.query asked) (.ok batch')).result) := by
  have hfirst := isReadInOrder_conclude c elapsed q asked batch
  have hsecond := isReadInOrder_conclude c elapsed' q asked batch'
  exact {
    first := hfirst
    second := hsecond
    raises := by
      rw [hfirst.raises, hsecond.raises]
      simp only [h.mem_iff]
    agree := by
      intro o o' ho ho'
      obtain ⟨hpayload, htotal, hkind⟩ := conclude_query_ok (Option.some.inj ho)
      obtain ⟨hpayload', htotal', hkind'⟩ := conclude_query_ok (Option.some.inj ho')
      have hperm : o.payload.Perm o'.payload := by
        rw [hpayload, hpayload']
        exact h.flatMap_right _
      refine ⟨?_, ?_, hperm⟩
      · rw [hkind, hkind']
        simp only [← List.length_eq_zero_iff, hperm.length_eq]
      · rw [htotal, htotal', greatestTotal_perm h] }

/-! ### Sources -/

theorem conclude_source_result (context : Json → Except Fault Filter) (s : Source) :
    (c.conclude elapsed q (.source context s) (.ok batch)).result =
      match c.breach? batch with
      | .error fault => .error fault
      | .ok (some r) => .ok (c.emptyOutcome q r.total)
      | .ok none =>
        if greatestTotal batch ≤ 0 then .ok (c.emptyOutcome q (greatestTotal batch))
        else
          match batch.findSome? fun r => (c.readingOf q (.source context s) r).fault with
          | some fault => .error fault
          | none =>
            .ok { (c.readSource s.metric batch).entries.foldl Outcome.push (.start .data (some q) none) with
              total := greatestTotal batch } :=
  resolve_result elapsed s.metric

/-- When a source raises. -/
theorem conclude_source_raises {context : Json → Except Fault Filter} {s : Source} :
    (∃ fault, (c.conclude elapsed q (.source context s) (.ok batch)).result = .error fault) ↔
      batch ≠ [] ∧ c.config.maxCardinality.isNumber = false ∨
        (∀ r ∈ batch, c.isWithin r = true) ∧ 0 < greatestTotal batch ∧
          ∃ r ∈ batch, ∃ fault, c.readAlone q (.source context s) r = .error fault := by
  rw [conclude_source_result, ← breach?_eq_error_iff, ← breach?_eq_none_iff, ← exists_findSome?_fault_iff]
  rcases c.breach? batch with fault | _ | r
  · simp
  · by_cases hnothing : greatestTotal batch ≤ 0
    · simp [hnothing]
    · cases batch.findSome? fun r => (c.readingOf q (.source context s) r).fault <;> simp [hnothing, not_le.mp hnothing]
  · simp

/-- The outcome of a source: its kind is decided by the guard, its total is that of the first breach if there is
one. -/
theorem conclude_source_ok {context : Json → Except Fault Filter} {s : Source} {o : Outcome}
    (h : (c.conclude elapsed q (.source context s) (.ok batch)).result = .ok o) :
    o.kind = (if batch.all c.isWithin && decide (0 < greatestTotal batch) then .data
      else c.config.fallback.noDataKind) ∧
      o.total = ((batch.find? c.exceeds).map (·.total)).getD (greatestTotal batch) := by
  rw [conclude_source_result] at h
  rw [all_isWithin_eq]
  rcases hbreach : c.breach? batch with fault | _ | r
  · rw [hbreach] at h
    cases h
  · rw [hbreach] at h
    rw [find?_of_breach? hbreach]
    by_cases hnothing : greatestTotal batch ≤ 0
    · simp only [if_pos hnothing] at h
      obtain rfl := Except.ok.inj h
      simp [emptyOutcome, Outcome.start, hnothing]
    · simp only [if_neg hnothing] at h
      cases hfault : batch.findSome? fun r => (c.readingOf q (.source context s) r).fault with
      | some fault =>
          rw [hfault] at h
          cases h
      | none =>
          rw [hfault] at h
          obtain rfl := Except.ok.inj h
          have hkind : ((c.readSource s.metric batch).entries.foldl Outcome.push (.start .data (some q) none)).kind =
              .data := congrArg Prod.fst (Outcome.head_foldl_push _ _)
          simpa [not_le.mp hnothing] using hkind
  · rw [hbreach] at h
    rw [find?_of_breach? hbreach]
    obtain rfl := Except.ok.inj h
    exact ⟨rfl, rfl⟩

/-- Whether there is an outcome, and of which kind, does not depend on the order, and neither does its total unless
there are several breaches to choose from. -/
theorem sourceOrderLaw_conclude (context : Json → Except Fault Filter) (s : Source) {elapsed' : Elapsed}
    (h : batch.Perm batch') :
    SourceOrderLaw c q (.source context s) batch batch'
      (some (c.conclude elapsed q (.source context s) (.ok batch)).result)
      (some (c.conclude elapsed' q (.source context s) (.ok batch')).result) := by
  have hraises : (∃ fault, (c.conclude elapsed q (.source context s) (.ok batch)).result = .error fault) ↔
      ∃ fault, (c.conclude elapsed' q (.source context s) (.ok batch')).result = .error fault := by
    have hempty : batch ≠ [] ↔ batch' ≠ [] := by
      rw [ne_eq, ne_eq, ← List.length_eq_zero_iff, ← List.length_eq_zero_iff, h.length_eq]
    rw [conclude_source_raises, conclude_source_raises, hempty, greatestTotal_perm h]
    simp only [h.mem_iff]
  have hreturns : ∀ result : Except Fault Outcome, (∃ o, result = .ok o) ↔ ¬∃ fault, result = .error fault := by
    rintro (fault | o) <;> simp
  exact {
    raises_iff := by
      simp only [Option.some.injEq]
      exact conclude_source_raises
    raises := by
      simp only [Option.some.injEq]
      exact hraises
    returns := by
      simp only [Option.some.injEq, hreturns]
      exact not_congr hraises
    kind := by
      intro o o' ho ho'
      rw [(conclude_source_ok (Option.some.inj ho)).1, (conclude_source_ok (Option.some.inj ho')).1, h.all_eq,
        greatestTotal_perm h]
    total := by
      intro hone o o' ho ho'
      rw [(conclude_source_ok (Option.some.inj ho)).2, (conclude_source_ok (Option.some.inj ho')).2,
        find?_perm h hone, greatestTotal_perm h] }

/-! ### Whole dispatches -/

/-- Two searches for what a catalog is asked, whose batches have the same responses in two orders. -/
theorem dispatch_orderLaw {build : RequestBuilder} {search search' : Submission → Answer} {trace : Json}
    {p : Prepared} (elapsed elapsed' : Elapsed) (hprepare : c.prepare build trace ask = .ok p)
    (hsearch : (search p.submission).result = some (.ok batch))
    (hsearch' : (search' p.submission).result = some (.ok batch')) (hperm : batch.Perm batch') :
    OrderLaw c p.query ask batch batch' (c.dispatch build search elapsed trace ask).result
      (c.dispatch build search' elapsed' trace ask).result := by
  rw [dispatch_result, dispatch_result, hprepare]
  simp only [hsearch, hsearch', Option.map_some]
  cases ask with
  | query asked => exact queryOrderLaw_conclude asked hperm
  | source context s => exact sourceOrderLaw_conclude context s hperm

/-- Two responses with a metric each, two that fault for different reasons, and a source with a breach and a
document that cannot be read, each in both orders. -/
theorem dispatch_orderLaw_of_swapped :
    let c : Catalog := ⟨.null, { maxCardinality := .int 4 }, Series.canonical⟩
    let build : RequestBuilder := fun _ => .ok {}
    let search (batch : List Response) : Submission → Answer := fun _ => ⟨some (.ok batch), [], [], []⟩
    let asked : Query := ⟨.metrics, "sys", .absent, .int 0, .int 10⟩
    let query : Ask := .query asked
    let source : Ask := .source (fun _ => .ok .absent) { metric := .str "Sys.Cpu" }
    let run (ask : Ask) (batch : List Response) : Option (Except Fault Outcome) :=
      (c.dispatch build (search batch) {} .null ask).result
    let holding (total : Int) (node : Aggregation) : Response := ⟨total, some [("metric_agg", node)], [], .null⟩
    let cpu := holding 7 (.nested 1 [("unique_metrics", .terms [.mk "cpu" 1 []])])
    let mem := holding 2 (.nested 1 [("unique_metrics", .terms [.mk "mem" 1 []])])
    let terms := holding 1 (.terms [])
    let filter := holding 1 (.filter 1 [])
    let unreadable : Response := ⟨3, none, [⟨.obj [("tags", .int 1)], .null⟩], .null⟩
    (∃ o o', run query [cpu, mem] = some (.ok o) ∧ run query [mem, cpu] = some (.ok o') ∧ o.kind = o'.kind ∧
      o.total = o'.total ∧ o.payload = [.metric (.str "cpu", .int 1), .metric (.str "mem", .int 1)] ∧
      o'.payload = [.metric (.str "mem", .int 1), .metric (.str "cpu", .int 1)]) ∧
    run query [terms, filter] = some (.error (.shapeMismatch "metric_agg" .nested "TermsAggregation")) ∧
    run query [filter, terms] = some (.error (.shapeMismatch "metric_agg" .nested "FilterAggregation")) ∧
    ∃ o o', run source [cpu, unreadable] = some (.ok o) ∧ run source [unreadable, cpu] = some (.ok o') ∧
      o.kind = o'.kind ∧ o.total = o'.total := by
  intro c build search asked query source run holding cpu mem terms filter unreadable
  have hquery : ∀ r s, QueryOrderLaw c asked query [r, s] [s, r] (run query [r, s]) (run query [s, r]) := fun r s =>
    dispatch_orderLaw {} {} (rfl : c.prepare build .null query = .ok _) rfl rfl (List.Perm.swap s r [])
  obtain ⟨p, hp⟩ : ∃ p, c.prepare build .null source = .ok p := ⟨_, rfl⟩
  have hsource : SourceOrderLaw c p.query source [cpu, unreadable] [unreadable, cpu] (run source [cpu, unreadable])
      (run source [unreadable, cpu]) :=
    dispatch_orderLaw {} {} hp rfl rfl (List.Perm.swap unreadable cpu [])
  refine ⟨?_, ?_, ?_, ?_⟩
  · have hlaw := hquery cpu mem
    have hread : ∀ r, r = cpu ∨ r = mem → ¬∃ fault, c.readAlone asked query r = .error fault := by
      rintro r (rfl | rfl) ⟨fault, hfault⟩ <;> cases hfault
    obtain ⟨o, ho⟩ := hlaw.first.returns.mpr fun ⟨r, hr, hfault⟩ => hread r (List.mem_pair.mp hr) hfault
    obtain ⟨o', ho'⟩ := hlaw.second.returns.mpr fun ⟨r, hr, hfault⟩ => hread r (List.mem_pair.mp hr).symm hfault
    obtain ⟨hkind, htotal, -⟩ := hlaw.agree o o' ho ho'
    exact ⟨o, o', ho, ho', hkind, htotal, hlaw.first.payload o ho, hlaw.second.payload o' ho'⟩
  · exact ((hquery terms filter).first.raised _).mpr ⟨[], terms, [filter], rfl, List.forall_mem_nil _, rfl⟩
  · exact ((hquery terms filter).second.raised _).mpr ⟨[], filter, [terms], rfl, List.forall_mem_nil _, rfl⟩
  · have hbreach : ∃ o, run source [cpu, unreadable] = some (.ok o) := ⟨_, rfl⟩
    obtain ⟨o, ho⟩ := hbreach
    obtain ⟨o', ho'⟩ := hsource.returns.mp ⟨o, ho⟩
    exact ⟨o, o', ho, ho', hsource.kind o o' ho ho', hsource.total (by decide) o o' ho ho'⟩

end Catalog

end SeriesCatalog
