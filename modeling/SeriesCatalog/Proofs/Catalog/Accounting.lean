import SeriesCatalog.Proofs.Catalog.Ceiling
import SeriesCatalog.Proofs.Catalog.Routing
import SeriesCatalog.Proofs.Telemetry.Counts

/-! What the counters and the log say of the calls of a process. A call counts, in this order, its search if it had
one, a breach of the ceiling, its reading of the responses and the outcome that it returns, each once and whatever
becomes of the rest of the call. -/

namespace SeriesCatalog

/-- A call of a catalog, with all that its course depends on. -/
structure Call where
  catalog : Catalog
  build : RequestBuilder
  search : Submission → Answer
  elapsed : Elapsed
  trace : Json
  ask : Ask

/-- Nothing among the events says that a query is complete. -/
def AreQuiet (events : List Event) : Prop :=
  ∀ kind result total, Event.completed kind result total ∉ events

theorem areQuiet_nil : AreQuiet [] := fun _ _ _ => List.not_mem_nil

theorem AreQuiet.append {events more : List Event} (h : AreQuiet events) (hmore : AreQuiet more) :
    AreQuiet (events ++ more) := by
  intro kind result total hmem
  rcases List.mem_append.mp hmem with hfirst | hlater
  · exact h kind result total hfirst
  · exact hmore kind result total hlater

/-- No event of those that are quiet is the completion of a query. -/
theorem AreQuiet.countP_eq_zero {events : List Event} (h : AreQuiet events) (kind : QueryKind) (result : OutcomeKind) :
    events.countP (Event.isCompletion kind result) = 0 := by
  rw [List.countP_eq_zero]
  intro e he
  cases e with
  | completed k r total => exact absurd he (h k r total)
  | _ => exact Bool.false_ne_true

/-- The search of a cluster logs its failures only. -/
theorem Cluster.areQuiet_search (cluster : Cluster) (request : Request) (target : String) (arrivals : List Arrival) :
    AreQuiet (cluster.search request target arrivals).events := by
  intro kind result total hmem
  rw [search] at hmem
  cases hbody : request.toBody with
  | error fault =>
      rw [hbody] at hmem
      cases hmem
  | ok body =>
      rw [hbody] at hmem
      obtain ⟨⟨p, a⟩, -, hevent⟩ := List.mem_filterMap.mp hmem
      cases hreply : a.reply with
      | answered status body => simp [eventOf, hreply] at hevent
      | failed failure => simp [eventOf, hreply] at hevent

/-- Both durations are numbers. -/
def Elapsed.IsMeasured (elapsed : Elapsed) : Prop :=
  elapsed.search.le elapsed.search = true ∧ elapsed.parse.le elapsed.parse = true

/-- The kind of an outcome's query with the kind of the outcome. -/
def Outcome.kinds? (o : Outcome) : Option (QueryKind × OutcomeKind) := o.query.map fun q => (q.kind, o.kind)

/-- The tick and the event of an outcome that is returned. -/
def Tick.ofReturned : Except Fault Outcome → List Tick
  | .error _ => []
  | .ok o => o.kinds?.toList.map fun (kind, result) => .ofOutcome kind result

def Event.ofReturned : Except Fault Outcome → List Event
  | .error _ => []
  | .ok o => o.kinds?.toList.map fun (kind, result) => .completed kind result o.total

namespace Call

def dispatch (call : Call) : Dispatch :=
  call.catalog.dispatch call.build call.search call.elapsed call.trace call.ask

/-- The call returns an outcome of the two kinds. -/
def returns (kind : QueryKind) (result : OutcomeKind) (call : Call) : Bool :=
  match call.dispatch.result with
  | some (.ok o) => o.kinds? == some (kind, result)
  | _ => false

/-- The call submits a search, and is over. -/
def searches (call : Call) : Bool := !call.dispatch.submissions.isEmpty && call.dispatch.result.isSome

/-- How the search of a call ends, if it comes to a search and this ends. -/
def settled? (call : Call) : Option (Except Fault (List Response)) :=
  match call.catalog.prepare call.build call.trace call.ask with
  | .error _ => none
  | .ok p => (call.search p.submission).result

/-- The responses of the search of a call that succeeds. -/
def batch? (call : Call) : Option (List Response) := call.settled?.bind Except.toOption

/-- The call is that of a source, and one of its responses exceeds the ceiling. -/
def breaches (call : Call) : Bool :=
  match call.ask with
  | .query _ => false
  | .source _ _ => call.batch?.any fun batch => batch.any call.catalog.exceeds

/-- The call has responses to read: those of a query in any case, those of a source if all of them are within the
ceiling and their greatest total is above zero. -/
def parses (call : Call) : Bool :=
  match call.ask with
  | .query _ => call.batch?.isSome
  | .source _ _ => call.batch?.any fun batch => batch.all call.catalog.isWithin && decide (0 < greatestTotal batch)

end Call

namespace Catalog

variable {c : Catalog} {build : RequestBuilder} {search : Submission → Answer} {elapsed : Elapsed} {trace : Json}
  {ask : Ask} {q : Query} {batch : List Response}

/-- What is logged before a search completes nothing. -/
theorem areQuiet_of_prepare {p : Prepared} (h : c.prepare build trace ask = .ok p) : AreQuiet [p.event] := by
  cases ask with
  | query q =>
      obtain ⟨size, request, -, -, rfl⟩ := prepare_query_eq_ok h
      simp [AreQuiet]
  | source context s =>
      obtain ⟨name, q, request, -, -, rfl⟩ := prepare_source_eq_ok h
      simp [AreQuiet]

/-! ### The course of a conclusion -/

/-- A conclusion with ticks of its own: after them it finishes with an outcome of the query or lets a fault
escape. -/
inductive Concludes (q : Query) (ticks : List Tick) : Conclusion → Prop
  | finished {events : List Event} {o : Outcome} (hquiet : AreQuiet events) (hquery : o.query = some q) :
    Concludes q ticks (.after events ticks (finish q o))
  | escaped {events : List Event} (hquiet : AreQuiet events) (fault : Fault) :
    Concludes q ticks (.after events ticks (escape fault))

theorem Concludes.ticks_eq {ticks : List Tick} {last : Conclusion} (h : Concludes q ticks last) :
    last.ticks = ticks ++ Tick.ofReturned last.result := by
  cases h with
  | finished hquiet hquery => simp [Conclusion.after, finish, Tick.ofReturned, Outcome.kinds?, hquery]
  | escaped hquiet fault => rfl

theorem Concludes.events_eq {ticks : List Tick} {last : Conclusion} (h : Concludes q ticks last) :
    ∃ events, AreQuiet events ∧ last.events = events ++ Event.ofReturned last.result := by
  cases h with
  | @finished events o hquiet hquery =>
      exact ⟨events, hquiet, by simp [Conclusion.after, finish, Event.ofReturned, Outcome.kinds?, hquery]⟩
  | @escaped events hquiet fault => exact ⟨events, hquiet, rfl⟩

/-- The outcome of a batch is one of its query. -/
theorem query_of_readBatch {builder : SeriesBuilder} {found : Option Outcome}
    (h : Interpreter.readBatch builder q batch = .ok found) :
    (found.getD (.start .noData (some q) none)).query = some q := by
  rw [Interpreter.readBatch] at h
  generalize Reading.concat (batch.map (Interpreter.readResponse builder q.kind)) = reading at h
  obtain ⟨entries, _ | fault⟩ := reading
  · have hread := Outcome.absorb_none_ofList q entries
    rw [Reading.ofList] at hread
    rw [hread] at h
    obtain rfl := Except.ok.inj h
    by_cases hempty : entries = []
    · simp [hempty, Outcome.start]
    · have hhead := Outcome.head_ofEntries q entries
      simp only [Outcome.head, Prod.mk.injEq] at hhead
      simp [hempty, hhead]
  · cases h

/-- What a conclusion counts before it returns. -/
def countedBefore (c : Catalog) (elapsed : Elapsed) : Ask → Except Fault (List Response) → List Tick
  | _, .error _ => []
  | .query _, .ok _ => [.parsed elapsed.parse]
  | .source _ _, .ok batch =>
    (if batch.any c.exceeds then [.breached] else []) ++
      if batch.all c.isWithin && decide (0 < greatestTotal batch) then [.parsed elapsed.parse] else []

theorem concludeQuery_concludes (batch : List Response) :
    Concludes q [.parsed elapsed.parse] (c.concludeQuery elapsed q (.ok batch)) := by
  rw [concludeQuery]
  cases hread : Interpreter.readBatch c.builder q batch with
  | error fault => exact .escaped areQuiet_nil fault
  | ok found => exact .finished areQuiet_nil (query_of_readBatch hread)

theorem resolve_concludes (context : Json → Except Fault Filter) (s : Source) (batch : List Response) :
    Concludes q (c.countedBefore elapsed (.source context s) (.ok batch)) (c.resolve elapsed q s.metric batch) := by
  rw [resolve, countedBefore, any_exceeds_eq, all_isWithin_eq]
  rcases c.breach? batch with fault | _ | r
  · exact .escaped areQuiet_nil fault
  · by_cases hnothing : greatestTotal batch ≤ 0
    · simp only [if_pos hnothing, Bool.true_and, decide_eq_false (not_lt.mpr hnothing)]
      exact .finished areQuiet_nil rfl
    · simp only [if_neg hnothing, Bool.true_and, decide_eq_true (not_le.mp hnothing),
        Outcome.absorb_some q (c.readSource s.metric batch) (rfl : (Outcome.start .data (some q) none).kind = .data)]
      cases (c.readSource s.metric batch).fault with
      | some fault => exact .escaped areQuiet_nil fault
      | none =>
          have hhead := Outcome.head_foldl_push (.start .data (some q) none) (c.readSource s.metric batch).entries
          simp only [Outcome.head, Outcome.start, Prod.mk.injEq] at hhead
          exact .finished areQuiet_nil hhead.2.1
  · exact .finished (by simp [AreQuiet]) rfl

/-- A conclusion counts what its way takes it through, and then its outcome. -/
theorem conclude_concludes (c : Catalog) (elapsed : Elapsed) (q : Query) (ask : Ask)
    (settled : Except Fault (List Response)) :
    Concludes q (c.countedBefore elapsed ask settled) (c.conclude elapsed q ask settled) := by
  cases settled with
  | error fault =>
      cases ask with
      | query asked =>
          rw [conclude, concludeQuery, countedBefore]
          cases fault.isCancellation with
          | true => exact .escaped areQuiet_nil fault
          | false => exact .finished (by simp [AreQuiet]) rfl
      | source context s =>
          rw [conclude, concludeSource, countedBefore]
          cases fault.isCancellation with
          | true => exact .escaped areQuiet_nil fault
          | false => exact .finished (by simp [AreQuiet]) rfl
  | ok batch =>
      cases ask with
      | query asked => exact concludeQuery_concludes batch
      | source context s => exact resolve_concludes context s batch

end Catalog

namespace Call

/-! ### One call -/

/-- A call ends before it submits anything, waits for its search, or concludes what the search ends with. -/
theorem dispatch_cases (call : Call) :
    (∃ built fault, call.settled? = none ∧ call.dispatch = Catalog.refused built fault) ∨
      ∃ p, AreQuiet [p.event] ∧ call.settled? = (call.search p.submission).result ∧
        call.dispatch =
          Catalog.submit call.search (call.catalog.conclude call.elapsed p.query call.ask) call.elapsed p := by
  cases hprepare : call.catalog.prepare call.build call.trace call.ask with
  | error fault =>
      obtain ⟨built, hdispatch⟩ := Catalog.dispatch_of_refusal call.search call.elapsed hprepare
      exact .inl ⟨built, fault, by rw [settled?, hprepare], hdispatch⟩
  | ok p =>
      have hdispatch := Catalog.dispatch_of_prepared call.search call.elapsed hprepare
      exact .inr ⟨p, Catalog.areQuiet_of_prepare hprepare, by rw [settled?, hprepare], hdispatch⟩

theorem countedBefore_eq {call : Call} {settled : Except Fault (List Response)} (h : call.settled? = some settled) :
    call.catalog.countedBefore call.elapsed call.ask settled =
      (if call.breaches then [.breached] else []) ++ if call.parses then [.parsed call.elapsed.parse] else [] := by
  rw [breaches, parses, batch?, h]
  cases settled with
  | error fault => cases call.ask <;> rfl
  | ok batch => cases call.ask <;> rfl

/-- The ticks of a call: one for its search, for a breach, for its reading and for the outcome it returns. -/
theorem ticks_eq (call : Call) :
    call.dispatch.ticks =
      (if call.searches then [.searched call.elapsed.search] else []) ++
        ((if call.breaches then [.breached] else []) ++ if call.parses then [.parsed call.elapsed.parse] else []) ++
          call.dispatch.result.toList.flatMap Tick.ofReturned := by
  obtain ⟨built, fault, hsettled, hdispatch⟩ | ⟨p, -, hsettled, hdispatch⟩ := call.dispatch_cases
  · rw [searches, breaches, parses, batch?, hsettled, hdispatch]
    cases call.ask <;> rfl
  · cases hsearch : (call.search p.submission).result with
    | none =>
        rw [searches, breaches, parses, batch?, hsettled, hdispatch, Catalog.submit, hsearch]
        cases call.ask <;> rfl
    | some settled =>
        have hconcludes := call.catalog.conclude_concludes call.elapsed p.query call.ask settled
        have hsearches : call.searches = true := by
          rw [searches, hdispatch, Catalog.submit, hsearch]
          rfl
        rw [← countedBefore_eq (hsettled.trans hsearch), hsearches, hdispatch, Catalog.submit, hsearch]
        simp [hconcludes.ticks_eq]

/-- The events of a call end with that of the outcome it returns. -/
theorem events_eq (call : Call) (hquiet : ∀ s, AreQuiet (call.search s).events) :
    ∃ events, AreQuiet events ∧
      call.dispatch.events = events ++ call.dispatch.result.toList.flatMap Event.ofReturned := by
  obtain ⟨built, fault, hsettled, hdispatch⟩ | ⟨p, hevent, hsettled, hdispatch⟩ := call.dispatch_cases
  · exact ⟨[], areQuiet_nil, by rw [hdispatch]; rfl⟩
  · have hbefore : AreQuiet ([p.event] ++ (call.search p.submission).events) := hevent.append (hquiet p.submission)
    rw [hdispatch, Catalog.submit]
    cases hsearch : (call.search p.submission).result with
    | none => exact ⟨_, hbefore, by simp⟩
    | some settled =>
        obtain ⟨events, hevents, heq⟩ :=
          (call.catalog.conclude_concludes call.elapsed p.query call.ask settled).events_eq
        exact ⟨_, hbefore.append hevents, by simp [heq]⟩

theorem isMeasured_of_mem_ticks {call : Call} (h : call.elapsed.IsMeasured) {t : Tick} (ht : t ∈ call.dispatch.ticks) :
    t.IsMeasured := by
  rw [ticks_eq] at ht
  rcases List.mem_append.mp ht with hbefore | hreturned
  · rcases List.mem_append.mp hbefore with hsearch | hlater
    · obtain ⟨-, rfl⟩ : call.searches = true ∧ t = .searched call.elapsed.search := by simpa using hsearch
      exact h.1
    · rcases List.mem_append.mp hlater with hbreach | hparse
      · obtain ⟨-, rfl⟩ : call.breaches = true ∧ t = .breached := by simpa using hbreach
        trivial
      · obtain ⟨-, rfl⟩ : call.parses = true ∧ t = .parsed call.elapsed.parse := by simpa using hparse
        exact h.2
  · obtain ⟨returned, -, hof⟩ := List.mem_flatMap.mp hreturned
    cases returned with
    | error fault => cases hof
    | ok o =>
        obtain ⟨kinds, -, rfl⟩ := List.mem_map.mp hof
        trivial

/-- How many of a call's ticks are of a sort. -/
theorem countP_ticks (call : Call) (isOwn : Tick → Bool) :
    call.dispatch.ticks.countP isOwn =
      ((if call.searches && isOwn (.searched call.elapsed.search) then 1 else 0) +
        ((if call.breaches && isOwn .breached then 1 else 0) +
          if call.parses && isOwn (.parsed call.elapsed.parse) then 1 else 0)) +
        (call.dispatch.result.toList.flatMap Tick.ofReturned).countP isOwn := by
  have hite : ∀ (b : Bool) (t : Tick), (if b then [t] else []).countP isOwn = if b && isOwn t then 1 else 0 := by
    intro b t
    cases b with
    | false => rfl
    | true => simp [List.countP_singleton]
  rw [ticks_eq]
  simp only [List.countP_append, hite]

theorem countP_ofReturned {isOwn : Tick → Bool} (h : ∀ kind result, isOwn (.ofOutcome kind result) = false)
    (call : Call) : (call.dispatch.result.toList.flatMap Tick.ofReturned).countP isOwn = 0 := by
  rw [List.countP_eq_zero]
  intro t ht
  obtain ⟨returned, -, hof⟩ := List.mem_flatMap.mp ht
  cases returned with
  | error fault => cases hof
  | ok o =>
      obtain ⟨kinds, -, rfl⟩ := List.mem_map.mp hof
      rw [h]
      exact Bool.false_ne_true

theorem countP_isSearch (call : Call) :
    call.dispatch.ticks.countP Tick.isSearch = if call.searches then 1 else 0 := by
  rw [countP_ticks, countP_ofReturned fun _ _ => rfl]
  simp [Tick.isSearch]

theorem countP_isBreach (call : Call) :
    call.dispatch.ticks.countP Tick.isBreach = if call.breaches then 1 else 0 := by
  rw [countP_ticks, countP_ofReturned fun _ _ => rfl]
  simp [Tick.isBreach]

theorem countP_isParse (call : Call) :
    call.dispatch.ticks.countP Tick.isParse = if call.parses then 1 else 0 := by
  rw [countP_ticks, countP_ofReturned fun _ _ => rfl]
  simp [Tick.isParse]

theorem countP_isOutcome (call : Call) (kind : QueryKind) (result : OutcomeKind) :
    call.dispatch.ticks.countP (Tick.isOutcome kind result) = if call.returns kind result then 1 else 0 := by
  have hreturned : call.dispatch.ticks.countP (Tick.isOutcome kind result) =
      (call.dispatch.result.toList.flatMap Tick.ofReturned).countP (Tick.isOutcome kind result) := by
    rw [countP_ticks]
    simp [Tick.isOutcome]
  rw [hreturned, returns]
  rcases call.dispatch.result with _ | fault | o
  · rfl
  · rfl
  · cases hkinds : o.kinds? with
    | none => simp [Tick.ofReturned, hkinds]
    | some kinds =>
        simp [Tick.ofReturned, hkinds, List.countP_singleton, Tick.isOutcome_ofOutcome, Prod.ext_iff]

theorem countP_isCompletion {call : Call} (hquiet : ∀ s, AreQuiet (call.search s).events) (kind : QueryKind)
    (result : OutcomeKind) :
    call.dispatch.events.countP (Event.isCompletion kind result) = if call.returns kind result then 1 else 0 := by
  obtain ⟨events, hevents, heq⟩ := call.events_eq hquiet
  rw [heq, List.countP_append, hevents.countP_eq_zero, returns]
  rcases call.dispatch.result with _ | fault | o
  · rfl
  · rfl
  · cases hkinds : o.kinds? with
    | none => simp [Event.ofReturned, hkinds]
    | some kinds => simp [Event.ofReturned, hkinds, List.countP_singleton, Event.isCompletion, Prod.ext_iff]

end Call

/-! ### A run of calls -/

/-- The counters of a process after calls, one after the other. -/
def Metrics.run (m : Metrics) (calls : List Call) : Metrics :=
  calls.foldl (fun m call => m.countAll call.dispatch.ticks) m

/-- The counters have grown by what the calls did, and the log has what they returned. -/
structure AreAccounted (calls : List Call) (before after : Metrics) : Prop where
  outcomes : ∀ kind result,
    after.outcomeCount kind result = before.outcomeCount kind result + calls.countP (Call.returns kind result)
  completions : ∀ kind result,
    (calls.flatMap (·.dispatch.events)).countP (Event.isCompletion kind result) =
      calls.countP (Call.returns kind result)
  breaches : after.breaches = before.breaches + calls.countP Call.breaches
  searches : after.search.count = before.search.count + calls.countP Call.searches
  parses : after.parse.count = before.parse.count + calls.countP Call.parses

namespace Metrics

variable {calls : List Call}

/-- A sample to which each call of a sort adds one grows by the number of these calls. -/
theorem sample_run (sample : Metrics → Nat) {isOwn : Tick → Bool} {isOwnCall : Call → Bool}
    (htick : ∀ m t, t.IsMeasured → sample (m.count t) = sample m + if isOwn t then 1 else 0)
    (hcall : ∀ call : Call, call.dispatch.ticks.countP isOwn = if isOwnCall call then 1 else 0)
    (hmeasured : ∀ call ∈ calls, call.elapsed.IsMeasured) (m : Metrics) :
    sample (m.run calls) = sample m + calls.countP isOwnCall := by
  induction calls generalizing m with
  | nil => rfl
  | cons call rest ih =>
      obtain ⟨hfirst, hrest⟩ := List.forall_mem_cons.mp hmeasured
      have hstep := sample_countAll
        (fun m t ht => htick m t (Call.isMeasured_of_mem_ticks hfirst ht)) m
      rw [hcall] at hstep
      have hrun := ih hrest (m.countAll call.dispatch.ticks)
      rw [run, List.foldl_cons, ← run, hrun, hstep, List.countP_cons]
      omega

end Metrics

namespace Call

variable {calls : List Call}

theorem countP_completions (hquiet : ∀ call ∈ calls, ∀ s, AreQuiet (call.search s).events) (kind : QueryKind)
    (result : OutcomeKind) :
    (calls.flatMap (·.dispatch.events)).countP (Event.isCompletion kind result) =
      calls.countP (returns kind result) := by
  induction calls with
  | nil => rfl
  | cons call rest ih =>
      obtain ⟨hfirst, hrest⟩ := List.forall_mem_cons.mp hquiet
      rw [List.flatMap_cons, List.countP_append, ih hrest, countP_isCompletion hfirst, List.countP_cons]
      omega

/-- Whatever calls a process makes, and however each of them goes, its counters and its log account for them. -/
theorem run_areAccounted (hmeasured : ∀ call ∈ calls, call.elapsed.IsMeasured)
    (hquiet : ∀ call ∈ calls, ∀ s, AreQuiet (call.search s).events) (m : Metrics) :
    AreAccounted calls m (m.run calls) where
  outcomes kind result :=
    Metrics.sample_run (·.outcomeCount kind result) (fun m t _ => m.outcomeCount_count kind result t)
      (fun call => call.countP_isOutcome kind result) hmeasured m
  completions := countP_completions hquiet
  breaches := Metrics.sample_run (·.breaches) (fun m t _ => m.breaches_count t) countP_isBreach hmeasured m
  searches := Metrics.sample_run (·.search.count) (fun m _ ht => m.search_count ht) countP_isSearch hmeasured m
  parses := Metrics.sample_run (·.parse.count) (fun m _ ht => m.parse_count ht) countP_isParse hmeasured m

/-- A query that a host answers, a source with two responses above the ceiling and one below it, a query whose search
is cancelled and one whose search fails, one that no request is built for, one that cannot be read, and a source that
has a document. -/
theorem run_areAccounted_of_seven :
    let c : Catalog := ⟨.null, { maxCardinality := .int 4 }, Series.canonical⟩
    let cluster : Cluster := ⟨["http://a"], "_meta", "all", true⟩
    let query : Ask := .query ⟨.metrics, "sys", .absent, .int 0, .int 10⟩
    let source : Ask := .source (fun _ => .ok .absent) { metric := .str "Sys.Cpu" }
    let build : RequestBuilder := fun _ => .ok {}
    let call (result : Except Fault (List Response)) (ask : Ask) : Call :=
      ⟨c, build, fun _ => ⟨some result, [], [], []⟩, {}, .null, ask⟩
    let plain (total : Int) : Response := ⟨total, none, [⟨.obj [], .null⟩], .null⟩
    let found : Response :=
      ⟨7, some [("metric_agg", .nested 1 [("unique_metrics", .terms [.mk "cpu" 1 []])])], [], .null⟩
    let arrivals : List Arrival := [⟨0, .answered 200 (.document (found.write .plain))⟩]
    let calls : List Call :=
      [⟨c, build, fun s => cluster.search s.request s.target arrivals, {}, .null, query⟩,
        call (.ok [plain 3, plain 7, plain 9]) source,
        call (.error (.raised ⟨"CancelledError", "", .cancellation, .null, .null⟩)) query,
        call (.error (.statusRefused "http://a" 503)) query,
        ⟨c, fun _ => .error .badValue, fun _ => ⟨none, [], [], []⟩, {}, .null, query⟩,
        call (.ok [⟨3, some [("metric_agg", .terms [])], [], .null⟩]) query,
        call (.ok [plain 1]) source]
    let after := Metrics.start.run calls
    after.outcomeCount .metrics .data = 1 ∧ after.outcomeCount .timeSeries .noData = 1 ∧
      after.outcomeCount .metrics .exception = 1 ∧ after.outcomeCount .timeSeries .data = 1 ∧ after.breaches = 1 ∧
      after.search.count = 6 ∧ after.parse.count = 3 := by
  intro c cluster query source build call plain found arrivals calls after
  have hzero : Elapsed.IsMeasured {} := ⟨rfl, rfl⟩
  have hmeasured : ∀ call ∈ calls, call.elapsed.IsMeasured := by
    simp only [calls, List.forall_mem_cons]
    exact ⟨hzero, hzero, hzero, hzero, hzero, hzero, hzero, List.forall_mem_nil _⟩
  have hquiet : ∀ call ∈ calls, ∀ s, AreQuiet (call.search s).events := by
    simp only [calls, List.forall_mem_cons]
    exact ⟨fun s => cluster.areQuiet_search s.request s.target arrivals, fun _ => areQuiet_nil, fun _ => areQuiet_nil,
      fun _ => areQuiet_nil, fun _ => areQuiet_nil, fun _ => areQuiet_nil, fun _ => areQuiet_nil, List.forall_mem_nil _⟩
  obtain ⟨houtcomes, -, hbreaches, hsearches, hparses⟩ := run_areAccounted hmeasured hquiet Metrics.start
  rw [houtcomes, houtcomes, houtcomes, houtcomes, hbreaches, hsearches, hparses]
  decide +kernel

end Call

end SeriesCatalog
