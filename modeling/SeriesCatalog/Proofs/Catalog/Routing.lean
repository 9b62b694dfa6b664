import SeriesCatalog.Catalog.Dispatch
import SeriesCatalog.Proofs.Catalog.EndToEnd
import SeriesCatalog.Proofs.Catalog.SourceQuery

/-! Where a failure goes, and what an outcome may be. A catalog is asked in two ways, and in both there is one place
where a failure becomes an outcome: its search. What fails before the search or after it reaches the caller, and
so does a cancellation of the search. -/

namespace SeriesCatalog

namespace Catalog

/-! ### The two ways as one -/

section

variable {c : Catalog} {build : RequestBuilder} {trace : Json}

theorem prepare_query_eq_ok {q : Query} {p : Prepared} (h : c.prepare build trace (.query q) = .ok p) :
    ∃ size request, q.size = .ok size ∧ c.prepareQuery build q size trace = .ok p ∧
      p = ⟨q, ⟨c.envelope size.toJson request, targetOf q, trace⟩,
        .querySubmitted q.kind (targetOf q) (c.envelope size.toJson request).size⟩ := by
  obtain ⟨size, hsize, hprepare⟩ := Fallible.bind_eq_ok.mp h
  obtain ⟨request, -, hp⟩ := Fallible.bind_eq_ok.mp hprepare
  exact ⟨size, request, hsize, hprepare, (Except.ok.inj hp).symm⟩

theorem prepare_source_eq_ok {context : Json → Except Fault Filter} {s : Source} {p : Prepared}
    (h : c.prepare build trace (.source context s) = .ok p) :
    ∃ name q request, sourceQuery context s = .ok (name, q) ∧ c.prepareSource build name q trace = .ok p ∧
      p = ⟨q, ⟨c.envelope c.config.maxResults request, name.namespaceName, trace⟩,
        .sourceSubmitted name.namespaceName name.metric (c.envelope c.config.maxResults request).size⟩ := by
  obtain ⟨⟨name, q⟩, hquery, hprepare⟩ := Fallible.bind_eq_ok.mp h
  obtain ⟨request, -, hp⟩ := Fallible.bind_eq_ok.mp hprepare
  exact ⟨name, q, request, hquery, hprepare, (Except.ok.inj hp).symm⟩

/-- What cannot be prepared is refused. -/
theorem dispatch_of_refusal {ask : Ask} (search : Submission → Answer) (elapsed : Elapsed) {fault : Fault}
    (h : c.prepare build trace ask = .error fault) :
    ∃ built, c.dispatch build search elapsed trace ask = refused built fault := by
  cases ask with
  | query q =>
      rw [dispatch, runQuery]
      rcases Fallible.bind_eq_error.mp h with hsize | ⟨size, hsize, hprepare⟩
      · rw [hsize]
        exact ⟨[], rfl⟩
      · rw [hsize]
        simp only [hprepare]
        exact ⟨[q], rfl⟩
  | source context s =>
      rw [dispatch, runSource]
      rcases Fallible.bind_eq_error.mp h with hquery | ⟨named, hquery, hprepare⟩
      · rw [hquery]
        exact ⟨[], rfl⟩
      · rw [hquery]
        simp only [hprepare]
        exact ⟨[named.2], rfl⟩

/-- What is prepared is submitted, and what its search ends with is concluded. -/
theorem dispatch_of_prepared {ask : Ask} (search : Submission → Answer) (elapsed : Elapsed) {p : Prepared}
    (h : c.prepare build trace ask = .ok p) :
    c.dispatch build search elapsed trace ask = submit search (c.conclude elapsed p.query ask) elapsed p := by
  cases ask with
  | query q =>
      obtain ⟨size, request, hsize, hprepare, rfl⟩ := prepare_query_eq_ok h
      rw [dispatch, runQuery, hsize]
      simp only [hprepare]
      rfl
  | source context s =>
      obtain ⟨name, q, request, hquery, hprepare, rfl⟩ := prepare_source_eq_ok h
      rw [dispatch, runSource, hquery]
      simp only [hprepare]
      rfl

/-- One submission is made, whatever comes of it. -/
theorem submissions_submit (search : Submission → Answer) (conclude : Except Fault (List Response) → Conclusion)
    (elapsed : Elapsed) (p : Prepared) : (submit search conclude elapsed p).submissions = [p.submission] := by
  unfold submit
  simp only
  cases (search p.submission).result <;> rfl

/-- One query is built for a prepared dispatch. -/
theorem built_submit (search : Submission → Answer) (conclude : Except Fault (List Response) → Conclusion)
    (elapsed : Elapsed) (p : Prepared) : (submit search conclude elapsed p).built = [p.query] := by
  unfold submit
  simp only
  cases (search p.submission).result <;> rfl

end

/-- A dispatch is its preparation, its search and its conclusion, as far as these come. -/
theorem dispatch_result (c : Catalog) (build : RequestBuilder) (search : Submission → Answer) (elapsed : Elapsed)
    (trace : Json) (ask : Ask) :
    (c.dispatch build search elapsed trace ask).result =
      match c.prepare build trace ask with
      | .error fault => some (.error fault)
      | .ok p => (search p.submission).result.map fun settled => (c.conclude elapsed p.query ask settled).result := by
  cases h : c.prepare build trace ask with
  | error fault =>
      obtain ⟨built, hrefused⟩ := dispatch_of_refusal search elapsed h
      rw [hrefused]
      rfl
  | ok p =>
      rw [dispatch_of_prepared search elapsed h, submit]
      simp only
      cases (search p.submission).result <;> rfl

end Catalog

/-! ### Routes -/

/-- The fault keeps a request from being submitted: the page of a query has no size, the metric or the filter of a
source cannot be had, or the builder fails. -/
def Ask.RefusedWith (build : RequestBuilder) (fault : Fault) : Ask → Prop
  | .query q => q.size = .error fault ∨ ∃ size, q.size = .ok size ∧ build q = .error fault
  | .source context s =>
    MetricName.read s.metric = .error fault ∨
      ∃ name, MetricName.read s.metric = .ok name ∧
        (Catalog.sourceFilter context s = .error fault ∨
          ∃ filter, Catalog.sourceFilter context s = .ok filter ∧ build (Catalog.queryOf name filter) = .error fault)

namespace Catalog

/-- The fault is the first one met in reading a batch. A source reads its documents only where the ceiling and the
totals leave it something to read. -/
def FailsOn (c : Catalog) (q : Query) (batch : List Response) (fault : Fault) : Ask → Prop
  | .query _ => batch.findSome? (fun r => (Interpreter.readResponse c.builder q.kind r).fault) = some fault
  | .source _ s =>
    c.breach? batch = .error fault ∨
      c.breach? batch = .ok none ∧ 0 < greatestTotal batch ∧
        batch.findSome? (fun r => (Interpreter.readSeries c.builder (some s.metric) r.hits).fault) = some fault

/-- The kind of outcome of a failed search. Only a source has the leave of the policy to fall back. -/
def failureKind (c : Catalog) : Ask → OutcomeKind
  | .query _ => .exception
  | .source _ _ => if c.config.fallback.onException.isBlank then .exception else .exceptionFallback

/-- The kind of outcome without data. -/
def emptyKind (c : Catalog) : Ask → OutcomeKind
  | .query _ => .noData
  | .source _ _ => if c.config.fallback.onNoData.isBlank then .noData else .noDataFallback

/-- The outcome of kind `data` has what a query or a source needs for it: an entry, or a total above zero that
the ceiling allows. -/
def HasData (c : Catalog) (o : Outcome) : Ask → Prop
  | .query _ => o.payload ≠ []
  | .source _ _ =>
    0 < o.total ∧ exceedsCeiling (.int o.total) c.config.maxCardinality = .ok false ∧
      ∀ ceiling, c.config.maxCardinality = .int ceiling → o.total ≤ ceiling

end Catalog

/-- What a catalog may answer. The kind says whether there is an exception and whether there may be a payload; it
is one that the caller has asked for, and an exception comes without a total. -/
structure IsAnswer (c : Catalog) (ask : Ask) (o : Outcome) : Prop where
  exception_iff : o.exception.isSome = true ↔ o.kind = .exception ∨ o.kind = .exceptionFallback
  empty : o.kind ≠ .data →
    o.namespaces = [] ∧ o.metrics = [] ∧ o.tagKeysOrValues = [] ∧ o.tags = [] ∧ o.series = []
  kind : o.kind = .data ∧ c.HasData o ask ∨ o.kind = c.emptyKind ask ∨ o.kind = c.failureKind ask
  failed : o.exception.isSome = true → o.kind = c.failureKind ask ∧ o.total = 0

/-- Failures go where they belong. A dispatch waits for its search alone; the caller meets the faults of the
preparation, the cancellations of the search and the faults of its batch, and no other one; the other faults of
the search, and nothing else, are held by outcomes. -/
structure IsRouted (c : Catalog) (build : RequestBuilder) (search : Submission → Answer) (trace : Json) (ask : Ask)
    (result : Option (Except Fault Outcome)) : Prop where
  pending : result = none ↔ ∃ p, c.prepare build trace ask = .ok p ∧ (search p.submission).result = none
  escaped : ∀ fault, result = some (.error fault) ↔
    ask.RefusedWith build fault ∨
      ∃ p, c.prepare build trace ask = .ok p ∧
        ((search p.submission).result = some (.error fault) ∧ fault.isCancellation = true ∨
          ∃ batch, (search p.submission).result = some (.ok batch) ∧ c.FailsOn p.query batch fault ask)
  caught : ∀ fault, (∃ o, result = some (.ok o) ∧ o.exception = some fault) ↔
    ∃ p, c.prepare build trace ask = .ok p ∧
      (search p.submission).result = some (.error fault) ∧ fault.isCancellation = false
  returned : ∀ o, result = some (.ok o) → IsAnswer c ask o

namespace Catalog

variable {c : Catalog} {build : RequestBuilder} {q : Query} {batch : List Response} {o : Outcome} {fault : Fault}
  {ask : Ask}

/-! ### Before the search -/

theorem prepare_eq_error_iff (c : Catalog) (trace : Json) :
    c.prepare build trace ask = .error fault ↔ ask.RefusedWith build fault := by
  cases ask with
  | query q => simp [prepare, Ask.RefusedWith, prepareQuery, Fallible.bind_eq_error]
  | source context s =>
      simp [prepare, Ask.RefusedWith, prepareSource, sourceQuery_eq, Fallible.bind_eq_error]

/-! ### A failed search -/

theorem conclude_error (elapsed : Elapsed) :
    (c.conclude elapsed q ask (.error fault)).result =
      if fault.isCancellation then .error fault else .ok (.start (c.failureKind ask) (some q) (some fault)) := by
  cases hcancelled : fault.isCancellation with
  | true => cases ask <;> simp [conclude, concludeQuery, concludeSource, hcancelled, escape]
  | false =>
      cases ask with
      | query asked =>
          simp [conclude, concludeQuery, hcancelled, Conclusion.after, finish, failedOutcome, failureKind]
      | source context s =>
          cases hblank : c.config.fallback.onException.isBlank <;>
            simp [conclude, concludeSource, hcancelled, Conclusion.after, finish, failedOutcome, failureKind,
              FallbackPolicy.exceptionKind, Condition.outcome, hblank]

/-! ### A batch -/

/-- A query reads its batch up to the first fault. -/
theorem concludeQuery_batch (elapsed : Elapsed) :
    (c.concludeQuery elapsed q (.ok batch)).result =
      match batch.findSome? fun r => (Interpreter.readResponse c.builder q.kind r).fault with
      | some fault => .error fault
      | none =>
        .ok (outcomeOf q (batch.flatMap fun r => (Interpreter.readResponse c.builder q.kind r).entries)
          (greatestTotal batch)) := by
  cases hfault : batch.findSome? fun r => (Interpreter.readResponse c.builder q.kind r).fault with
  | none => exact concludeQuery_of_complete elapsed (List.findSome?_eq_none_iff.mp hfault)
  | some fault =>
      have hread : Interpreter.readBatch c.builder q batch = .error fault := by
        have hconcat := Reading.concat_fault (batch.map (Interpreter.readResponse c.builder q.kind))
        rw [List.findSome?_map, Function.comp_def, hfault] at hconcat
        rw [Interpreter.readBatch, Outcome.absorb, hconcat]
      simp only [concludeQuery, hread]
      rfl

/-- A source looks at the ceiling, then at the totals, and then reads its batch up to the first fault. -/
theorem resolve_result (elapsed : Elapsed) (metric : Json) :
    (c.resolve elapsed q metric batch).result =
      match c.breach? batch with
      | .error fault => .error fault
      | .ok (some r) => .ok (c.emptyOutcome q r.total)
      | .ok none =>
        if greatestTotal batch ≤ 0 then .ok (c.emptyOutcome q (greatestTotal batch))
        else
          match batch.findSome? fun r => (Interpreter.readSeries c.builder (some metric) r.hits).fault with
          | some fault => .error fault
          | none =>
            .ok { (c.readSource metric batch).entries.foldl Outcome.push (.start .data (some q) none) with
              total := greatestTotal batch } := by
  have hconcat : (c.readSource metric batch).fault =
      batch.findSome? fun r => (Interpreter.readSeries c.builder (some metric) r.hits).fault := by
    rw [readSource, Reading.concat_fault, List.findSome?_map]
    rfl
  rw [resolve, ← hconcat]
  -- the outcome of a source is there before a document is read, and only its fault can take it away again
  rcases c.breach? batch with fault | _ | r
  · rfl
  · by_cases hnothing : greatestTotal batch ≤ 0
    · simp only [if_pos hnothing]
      rfl
    · simp only [if_neg hnothing, Outcome.absorb_some q (c.readSource metric batch)
        (rfl : (Outcome.start .data (some q) none).kind = .data)]
      cases (c.readSource metric batch).fault <;> rfl
  · rfl

theorem conclude_batch_eq_error_iff {elapsed : Elapsed} :
    (c.conclude elapsed q ask (.ok batch)).result = .error fault ↔ c.FailsOn q batch fault ask := by
  cases ask with
  | query asked =>
      rw [conclude, concludeQuery_batch, FailsOn]
      cases batch.findSome? fun r => (Interpreter.readResponse c.builder q.kind r).fault <;> simp
  | source context s =>
      rw [conclude, concludeSource, resolve_result, FailsOn]
      rcases c.breach? batch with other | _ | r
      · simp
      · by_cases hnothing : greatestTotal batch ≤ 0
        · simp [hnothing]
        · cases batch.findSome? fun r => (Interpreter.readSeries c.builder (some s.metric) r.hits).fault <;>
            simp [hnothing, not_le.mp hnothing]
      · simp

/-- A batch without a breach has no total above the ceiling. -/
theorem exceedsCeiling_of_breach? (h : c.breach? batch = .ok none) {r : Response} (hr : r ∈ batch) :
    exceedsCeiling (.int r.total) c.config.maxCardinality = .ok false := by
  induction batch with
  | nil => cases hr
  | cons first rest ih =>
      rw [breach?] at h
      obtain ⟨exceeds, hexceeds, hrest⟩ := Fallible.bind_eq_ok.mp h
      cases exceeds with
      | true => cases hrest
      | false =>
          rcases List.mem_cons.mp hr with rfl | hmem
          · exact hexceeds
          · exact ih hrest hmem

/-- A total above zero of a batch without a breach is within the ceiling. -/
theorem hasData_of_breach? {context : Json → Except Fault Filter} {s : Source} (h : c.breach? batch = .ok none)
    (hsome : 0 < greatestTotal batch) (htotal : o.total = greatestTotal batch) : c.HasData o (.source context s) := by
  -- the greatest total is that of a response, and the guard has looked at each of them
  obtain ⟨-, hzero⟩ | ⟨⟨r, hr, hmost⟩, -⟩ := isGreatestTotal_greatestTotal batch
  · omega
  · have hwithin := exceedsCeiling_of_breach? h hr
    rw [hmost, ← htotal] at hwithin
    refine ⟨htotal ▸ hsome, hwithin, fun ceiling hceiling => ?_⟩
    rw [hceiling, exceedsCeiling_int] at hwithin
    exact not_lt.mp (of_decide_eq_false (Except.ok.inj hwithin))

theorem noDataKind_eq (c : Catalog) (context : Json → Except Fault Filter) (s : Source) :
    c.config.fallback.noDataKind = c.emptyKind (.source context s) := by
  rw [FallbackPolicy.noDataKind, emptyKind]
  cases c.config.fallback.onNoData.isBlank <;> rfl

theorem emptyKind_eq_or (c : Catalog) (ask : Ask) :
    c.emptyKind ask = .noData ∨ c.emptyKind ask = .noDataFallback := by
  cases ask with
  | query q => exact .inl rfl
  | source context s => exact ite_eq_or_eq _ _ _

theorem failureKind_eq_or (c : Catalog) (ask : Ask) :
    c.failureKind ask = .exception ∨ c.failureKind ask = .exceptionFallback := by
  cases ask with
  | query q => exact .inl rfl
  | source context s => exact ite_eq_or_eq _ _ _

/-- What the batch of a query gives has no exception; it has data, or nothing at all. -/
theorem concludeQuery_batch_ok {elapsed : Elapsed} (h : (c.concludeQuery elapsed q (.ok batch)).result = .ok o) :
    o.exception = none ∧
      (o.kind = .data ∧ o.payload ≠ [] ∨ o = { Outcome.start .noData (some q) none with total := o.total }) := by
  rw [concludeQuery_batch] at h
  cases hfault : batch.findSome? fun r => (Interpreter.readResponse c.builder q.kind r).fault with
  | some fault =>
      rw [hfault] at h
      cases h
  | none =>
      rw [hfault] at h
      have hbelongs := Interpreter.belongsTo_of_complete (List.findSome?_eq_none_iff.mp hfault)
      obtain rfl := Except.ok.inj h
      generalize (batch.flatMap fun r => (Interpreter.readResponse c.builder q.kind r).entries) = entries at hbelongs ⊢
      have hhead := head_outcomeOf q entries (greatestTotal batch)
      simp only [Outcome.head, Prod.mk.injEq] at hhead
      refine ⟨hhead.2.2.1, ?_⟩
      by_cases hempty : entries = []
      · right
        rw [outcomeOf, if_pos hempty]
      · left
        rw [if_neg hempty] at hhead
        rw [payload_outcomeOf _ hbelongs]
        exact ⟨hhead.1, hempty⟩

/-- What the batch of a source gives has no exception; it has data with a total in its bounds, or nothing at
all. -/
theorem resolve_ok {elapsed : Elapsed} {context : Json → Except Fault Filter} {s : Source}
    (h : (c.resolve elapsed q s.metric batch).result = .ok o) :
    o.exception = none ∧
      (o.kind = .data ∧ c.HasData o (.source context s) ∨ o = c.emptyOutcome q o.total) := by
  rw [resolve_result] at h
  rcases hbreach : c.breach? batch with fault | _ | r
  · rw [hbreach] at h
    cases h
  · rw [hbreach] at h
    by_cases hnothing : greatestTotal batch ≤ 0
    · simp only [if_pos hnothing] at h
      obtain rfl := Except.ok.inj h
      exact ⟨rfl, .inr rfl⟩
    · simp only [if_neg hnothing] at h
      cases hfault : batch.findSome? fun r => (Interpreter.readSeries c.builder (some s.metric) r.hits).fault with
      | some fault =>
          rw [hfault] at h
          cases h
      | none =>
          rw [hfault] at h
          obtain rfl := Except.ok.inj h
          have hhead := Outcome.head_foldl_push (.start .data (some q) none) (c.readSource s.metric batch).entries
          simp only [Outcome.head, Outcome.start, Prod.mk.injEq] at hhead
          exact ⟨hhead.2.2.1, .inl ⟨hhead.1, hasData_of_breach? hbreach (not_le.mp hnothing) rfl⟩⟩
  · rw [hbreach] at h
    obtain rfl := Except.ok.inj h
    exact ⟨rfl, .inr rfl⟩

/-- What a batch gives has no exception; it has data, or nothing at all. -/
theorem conclude_batch_ok {elapsed : Elapsed} (h : (c.conclude elapsed q ask (.ok batch)).result = .ok o) :
    o.exception = none ∧
      (o.kind = .data ∧ c.HasData o ask ∨
        o = { Outcome.start (c.emptyKind ask) (some q) none with total := o.total }) := by
  cases ask with
  | query asked => exact concludeQuery_batch_ok h
  | source context s =>
      rw [← noDataKind_eq c context s]
      exact resolve_ok h

/-- An outcome that has not grown, of a kind without data, is an answer if its exception goes with its kind. -/
theorem isAnswer_start {kind : OutcomeKind} {exception : Option Fault} (total : Int)
    (h : kind = c.emptyKind ask ∧ exception = none ∨
      kind = c.failureKind ask ∧ exception.isSome = true ∧ total = 0) :
    IsAnswer c ask { Outcome.start kind (some q) exception with total } := by
  obtain ⟨rfl, rfl⟩ | ⟨rfl, hexception, rfl⟩ := h
  · exact {
      exception_iff := by
        rcases emptyKind_eq_or c ask with hkind | hkind <;> simp [Outcome.start, hkind]
      empty := fun _ => ⟨rfl, rfl, rfl, rfl, rfl⟩
      kind := .inr (.inl rfl)
      failed := nofun }
  · exact {
      exception_iff := by
        rcases failureKind_eq_or c ask with hkind | hkind <;> simp [Outcome.start, hkind, hexception]
      empty := fun _ => ⟨rfl, rfl, rfl, rfl, rfl⟩
      kind := .inr (.inr rfl)
      failed := fun _ => ⟨rfl, rfl⟩ }

theorem isAnswer_of_batch {elapsed : Elapsed} (h : (c.conclude elapsed q ask (.ok batch)).result = .ok o) :
    IsAnswer c ask o := by
  obtain ⟨hexception, ⟨hkind, hdata⟩ | hempty⟩ := conclude_batch_ok h
  · exact {
      exception_iff := by simp [hkind, hexception]
      empty := fun hother => absurd hkind hother
      kind := .inl ⟨hkind, hdata⟩
      failed := by simp [hexception] }
  · rw [hempty]
    exact isAnswer_start o.total (.inl ⟨rfl, rfl⟩)

/-! ### Whole dispatches -/

variable {search : Submission → Answer} {trace : Json} {p : Prepared}

/-- What was prepared was not refused. -/
theorem not_refusedWith (h : c.prepare build trace ask = .ok p) (fault : Fault) : ¬ask.RefusedWith build fault := by
  intro hrefused
  rw [← prepare_eq_error_iff c trace, h] at hrefused
  cases hrefused

theorem isRouted_of_refusal {refusal : Fault} (h : c.prepare build trace ask = .error refusal) :
    IsRouted c build search trace ask (some (.error refusal)) := by
  have hrefused : ∀ fault, ask.RefusedWith build fault ↔ refusal = fault := by
    intro fault
    rw [← prepare_eq_error_iff c trace, h, Except.error.injEq]
  exact {
    pending := by simp [h]
    escaped := by simp [h, hrefused]
    caught := by simp [h]
    returned := by simp }

theorem isRouted_of_pending (h : c.prepare build trace ask = .ok p) (hsearch : (search p.submission).result = none) :
    IsRouted c build search trace ask none where
  pending := by simp [h, hsearch]
  escaped := by simp [h, hsearch, not_refusedWith h]
  caught := by simp [h, hsearch]
  returned := by simp

theorem isRouted_of_failure {raised : Fault} (elapsed : Elapsed) (h : c.prepare build trace ask = .ok p)
    (hsearch : (search p.submission).result = some (.error raised)) :
    IsRouted c build search trace ask (some (c.conclude elapsed p.query ask (.error raised)).result) := by
  -- in both cases the fault that the caller meets or the outcome holds is the raised one
  have hraised : ∀ cancelled, raised.isCancellation = cancelled →
      ∀ fault, raised = fault → fault.isCancellation = cancelled := by
    rintro _ hcancelled _ rfl
    exact hcancelled
  rw [conclude_error]
  cases hcancelled : raised.isCancellation with
  | true =>
      exact {
        pending := by simp [h, hsearch]
        escaped := by simpa [h, hsearch, not_refusedWith h] using hraised true hcancelled
        caught := by simpa [h, hsearch] using hraised true hcancelled
        returned := by simp }
  | false =>
      exact {
        pending := by simp [h, hsearch]
        escaped := by simpa [h, hsearch, not_refusedWith h] using hraised false hcancelled
        caught := by simpa [h, hsearch, Outcome.start] using hraised false hcancelled
        returned := by
          intro o ho
          obtain rfl := Except.ok.inj (Option.some.inj ho)
          exact isAnswer_start 0 (.inr ⟨rfl, rfl, rfl⟩) }

theorem isRouted_of_batch (elapsed : Elapsed) (h : c.prepare build trace ask = .ok p)
    (hsearch : (search p.submission).result = some (.ok batch)) :
    IsRouted c build search trace ask (some (c.conclude elapsed p.query ask (.ok batch)).result) := by
  have hnone : ∀ fault o, (c.conclude elapsed p.query ask (.ok batch)).result = .ok o →
      ¬o.exception = some fault := by
    intro fault o ho
    rw [(conclude_batch_ok ho).1]
    exact nofun
  exact {
    pending := by simp [h, hsearch]
    escaped := by simp [h, hsearch, not_refusedWith h, conclude_batch_eq_error_iff]
    caught := by simpa [h, hsearch] using hnone
    returned := fun o ho => isAnswer_of_batch (Option.some.inj ho) }

/-- Failures go where they belong whatever the builder, the context of filters and the search do, and whatever
the policy is. -/
theorem dispatch_routing (c : Catalog) (build : RequestBuilder) (search : Submission → Answer) (elapsed : Elapsed)
    (trace : Json) (ask : Ask) :
    IsRouted c build search trace ask (c.dispatch build search elapsed trace ask).result := by
  rw [dispatch_result]
  cases h : c.prepare build trace ask with
  | error refusal => exact isRouted_of_refusal h
  | ok p =>
      simp only
      rcases hsearch : (search p.submission).result with _ | raised | batch
      · exact isRouted_of_pending h hsearch
      · exact isRouted_of_failure elapsed h hsearch
      · exact isRouted_of_batch elapsed h hsearch

end Catalog

end SeriesCatalog
