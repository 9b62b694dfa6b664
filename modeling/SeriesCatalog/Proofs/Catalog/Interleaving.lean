import SeriesCatalog.Catalog.Session
import SeriesCatalog.Proofs.Catalog.Routing
import SeriesCatalog.Proofs.Search.FanOut
import SeriesCatalog.Proofs.Search.Request
import SeriesCatalog.Proofs.Telemetry.Counts

/-! Dispatches that go on at the same time do not disturb each other. Whatever order their turns have, each of them
posts, returns and counts what it does alone with the replies it has. The objects of the builder may be shared: what one
dispatch leaves in an object is either what the builder made it with, or is written over before the next one submits
it. -/

namespace SeriesCatalog

/-- The size that a dispatch asks for: that of the page of a query, or that of the configuration for a source. -/
def Ask.size (c : Catalog) : Ask → Except Fault Json
  | .query q => q.size.map Number.toJson
  | .source _ _ => .ok c.config.maxResults

namespace Session

open FanOut (Step)

variable {n : Nat} {session : Session n} {objects : Nat → Request} {job : Job}

/-! ### The objects -/

/-- What nobody but the builder fills in is still as it was made. -/
structure AreKept (session : Session n) (objects : Nat → Request) : Prop where
  body : ∀ object, session.pool.body? object = none → (objects object).body = (session.pool.made object).body
  timeout : session.catalog.config.queryTimeout.isBlank = true → ∀ object, session.pool.timeout? object = none →
    (objects object).timeout = (session.pool.made object).timeout

theorem areKept_made (session : Session n) : AreKept session session.pool.made := ⟨fun _ _ => rfl, fun _ _ _ => rfl⟩

/-- With its envelope an object is what it is with the envelope alone. -/
theorem AreKept.envelope_handOut (h : AreKept session objects) (size : Json) (q : Query) (object : Nat) :
    session.catalog.envelope size (session.pool.handOut objects q object) =
      session.catalog.envelope size (session.pool.handOut session.pool.made q object) := by
  have hbody : (session.pool.handOut objects q object).body =
      (session.pool.handOut session.pool.made q object).body := by
    cases hfilled : session.pool.body? object with
    | none => simp [RequestPool.handOut, hfilled, h.body object hfilled]
    | some fill => simp [RequestPool.handOut, hfilled]
  unfold Catalog.envelope
  by_cases hblank : session.catalog.config.queryTimeout.isBlank = true
  · have htimeout : (session.pool.handOut objects q object).timeout =
        (session.pool.handOut session.pool.made q object).timeout := by
      cases hfilled : session.pool.timeout? object with
      | none => simp [RequestPool.handOut, hfilled, h.timeout hblank object hfilled]
      | some fill => simp [RequestPool.handOut, hfilled]
    rw [if_pos hblank, if_pos hblank, hbody, htimeout]
  · rw [if_neg hblank, if_neg hblank, hbody]

/-- What is prepared does not depend on what other dispatches have written. -/
theorem AreKept.prepare_eq (h : AreKept session objects) (job : Job) :
    session.prepare objects job = session.prepare session.pool.made job := by
  unfold prepare Catalog.prepare
  cases job.ask with
  | query q =>
      refine congrArg (q.size >>= ·) (funext fun size => ?_)
      show session.catalog.prepareQuery _ q size _ = session.catalog.prepareQuery _ q size _
      unfold Catalog.prepareQuery builder
      cases job.object q with
      | error fault => rfl
      | ok object =>
          simp only [Except.map, bind, Except.bind, h.envelope_handOut]
  | source context s =>
      refine congrArg (Catalog.sourceQuery context s >>= ·) (funext fun named => ?_)
      show session.catalog.prepareSource _ named.1 named.2 _ = session.catalog.prepareSource _ named.1 named.2 _
      unfold Catalog.prepareSource builder
      cases job.object named.2 with
      | error fault => rfl
      | ok object =>
          simp only [Except.map, bind, Except.bind, h.envelope_handOut]

/-- What is prepared is an object with the envelope for the size of the dispatch. -/
theorem prepare_eq_ok {p : Prepared} (h : session.prepare objects job = .ok p) :
    ∃ size object, job.ask.size session.catalog = .ok size ∧ job.object p.query = .ok object ∧
      p.submission.request = session.catalog.envelope size (session.pool.handOut objects p.query object) := by
  unfold prepare Catalog.prepare at h
  cases hask : job.ask with
  | query q =>
      rw [hask] at h
      obtain ⟨size, hsize, h⟩ := Fallible.bind_eq_ok.mp h
      obtain ⟨request, hbuild, h⟩ := Fallible.bind_eq_ok.mp h
      obtain ⟨object, hobject, rfl⟩ := Fallible.map_eq_ok.mp hbuild
      cases h
      exact ⟨size.toJson, object, Fallible.map_eq_ok.mpr ⟨size, hsize, rfl⟩, hobject, rfl⟩
  | source context s =>
      rw [hask] at h
      obtain ⟨⟨name, q⟩, -, h⟩ := Fallible.bind_eq_ok.mp h
      obtain ⟨request, hbuild, h⟩ := Fallible.bind_eq_ok.mp h
      obtain ⟨object, hobject, rfl⟩ := Fallible.map_eq_ok.mp hbuild
      cases h
      exact ⟨_, object, rfl, hobject, rfl⟩

/-- A dispatch writes its envelope to an object, and nothing over what the object was made with. -/
theorem AreKept.written (h : AreKept session objects) (job : Job) (move : Move) :
    AreKept session (session.written objects job move) := by
  cases move with
  | search x => exact h
  | begin =>
      unfold Session.written
      cases hprepare : session.prepare objects job with
      | error fault => exact h
      | ok p =>
          obtain ⟨size, object, -, hobject, hrequest⟩ := prepare_eq_ok hprepare
          simp only [hobject, hrequest]
          constructor
          · intro other hother
            by_cases hsame : other = object
            · subst hsame
              rw [Function.update_self, ← h.body other hother]
              simp [RequestPool.handOut, hother]
            · rw [Function.update_of_ne hsame]
              exact h.body other hother
          · intro hblank other hother
            by_cases hsame : other = object
            · subst hsame
              rw [Function.update_self, ← h.timeout hblank other hother, Catalog.envelope_timeout, Json.orElse,
                if_pos hblank]
              simp [RequestPool.handOut, hother]
            · rw [Function.update_of_ne hsame]
              exact h.timeout hblank other hother

/-! ### One dispatch -/

/-- A dispatch that has had these events of its search stands where the dispatch alone would, and has posted and
counted what that does. -/
inductive Course (session : Session n) (i : Fin n) : List Step → Stage → List Posting → List Tick → Prop
  | ready : Course session i [] .ready [] []
  | searching {p : Prepared} {body : List (Json × Json)} {steps : List Step} {search : FanOut.State}
      (hprepare : session.prepare session.pool.made (session.jobs i) = .ok p)
      (hbody : p.submission.request.toBody = .ok body)
      (hrun : FanOut.run (FanOut.start (session.cluster.attempts p.submission.target body)) steps = some search)
      (hphase : ∀ settled, search.phase ≠ .left settled) :
      Course session i steps (.searching p search) (session.postedAlone i (FanOut.arrivals steps)) []
  | ended {steps : List Step} {result : Except Fault Outcome}
      (hresult : (session.alone i (FanOut.arrivals steps)).result = some result) :
      Course session i steps (.ended result) (session.postedAlone i (FanOut.arrivals steps))
        (session.alone i (FanOut.arrivals steps)).ticks

section

variable {i : Fin n} {p : Prepared} {body : List (Json × Json)} {steps : List Step}

theorem alone_of_prepare (hprepare : session.prepare session.pool.made (session.jobs i) = .ok p)
    (replies : List Arrival) :
    session.alone i replies =
      Catalog.submit (fun s => session.cluster.search s.request s.target replies)
        (session.catalog.conclude (session.jobs i).elapsed p.query (session.jobs i).ask) (session.jobs i).elapsed p :=
  Catalog.dispatch_of_prepared _ _ hprepare

theorem postedAlone_of_prepare (hprepare : session.prepare session.pool.made (session.jobs i) = .ok p)
    (replies : List Arrival) :
    session.postedAlone i replies =
      (session.cluster.search p.submission.request p.submission.target replies).requests := by
  unfold postedAlone
  rw [alone_of_prepare hprepare, Catalog.submissions_submit, List.flatMap_singleton]

/-- A dispatch whose search ends comes to its end as it does alone. -/
theorem course_close (hprepare : session.prepare session.pool.made (session.jobs i) = .ok p)
    {settled : Except Fault (List Response)}
    (hsettled : (session.cluster.search p.submission.request p.submission.target (FanOut.arrivals steps)).result =
      some settled) :
    Course session i steps (session.close (session.jobs i) p settled).stage
      (session.postedAlone i (FanOut.arrivals steps)) (session.close (session.jobs i) p settled).ticks := by
  have halone := alone_of_prepare hprepare (FanOut.arrivals steps)
  unfold Catalog.submit at halone
  simp only [hsettled] at halone
  have hticks : (session.close (session.jobs i) p settled).ticks = (session.alone i (FanOut.arrivals steps)).ticks := by
    rw [halone]
    rfl
  rw [hticks]
  apply Course.ended
  rw [halone]

/-- What is refused before its search is refused alone as well. -/
theorem course_refused {fault : Fault} (h : session.prepare session.pool.made (session.jobs i) = .error fault) :
    Course session i [] (.ended (.error fault)) [] [] := by
  obtain ⟨built, hrefused⟩ : ∃ built, session.alone i (FanOut.arrivals []) = Catalog.refused built fault :=
    Catalog.dispatch_of_refusal _ _ h
  have hposted : session.postedAlone i (FanOut.arrivals []) = [] := by
    unfold postedAlone
    rw [hrefused]
    rfl
  have hticks : (session.alone i (FanOut.arrivals [])).ticks = [] := by
    rw [hrefused]
    rfl
  have hover : Course session i [] (.ended (.error fault)) (session.postedAlone i (FanOut.arrivals []))
      (session.alone i (FanOut.arrivals [])).ticks := by
    apply Course.ended
    rw [hrefused]
    rfl
  rwa [hposted, hticks] at hover

/-- A dispatch that begins does what it does alone. -/
theorem course_launch (session : Session n) (i : Fin n) :
    let progress := session.launch (session.jobs i) (session.prepare session.pool.made (session.jobs i))
    Course session i [] progress.stage progress.posted progress.ticks := by
  intro progress
  cases hprepare : session.prepare session.pool.made (session.jobs i) with
  | error fault =>
      simp only [progress, hprepare, launch]
      exact course_refused hprepare
  | ok p =>
      simp only [progress, hprepare, launch]
      cases hbody : p.submission.request.toBody with
      | error fault =>
          have hposted : session.postedAlone i (FanOut.arrivals []) = [] := by
            rw [postedAlone_of_prepare hprepare, Cluster.search, hbody]
          have hsettled : (session.cluster.search p.submission.request p.submission.target
              (FanOut.arrivals [])).result = some (.error fault) := by
            rw [Cluster.search, hbody]
          have hclose := course_close hprepare hsettled
          rwa [hposted] at hclose
      | ok body =>
          have hposted : session.postedAlone i (FanOut.arrivals []) =
              (session.cluster.attempts p.submission.target body).filterMap Except.toOption := by
            rw [postedAlone_of_prepare hprepare, Cluster.search_requests _ _ hbody]
          simp only [← hposted]
          apply Course.searching hprepare hbody rfl
          intro settled hleft
          cases hleft

/-- A move takes a dispatch on as it does alone. -/
theorem Course.advance {stage : Stage} {posted : List Posting} {ticks : List Tick} {move : Move} {progress : Progress}
    (h : Course session i steps stage posted ticks)
    (hmove : session.advance session.pool.made (session.jobs i) stage move = some progress) :
    Course session i (steps ++ move.steps) progress.stage (posted ++ progress.posted)
      (ticks ++ progress.ticks) := by
  cases h with
  | ended hresult => cases move <;> cases hmove
  | ready =>
      cases move with
      | search x => cases hmove
      | begin =>
          obtain rfl := Option.some.inj hmove
          exact course_launch session i
  | @searching p body steps search hprepare hbody hrun hphase =>
      cases move with
      | begin => cases hmove
      | search x =>
          obtain ⟨next, hnext, hprogress⟩ := Option.map_eq_some_iff.mp hmove
          have hrun' : FanOut.run (FanOut.start (session.cluster.attempts p.submission.target body)) (steps ++ [x]) =
              some next := by
            rw [FanOut.run_concat, hrun]
            exact hnext
          have hposted : ∀ more, session.postedAlone i (FanOut.arrivals more) =
              (session.cluster.attempts p.submission.target body).filterMap Except.toOption := by
            intro more
            rw [postedAlone_of_prepare hprepare, Cluster.search_requests _ _ hbody]
          rw [hposted steps, ← hposted (steps ++ [x])]
          cases hnextPhase : next.phase with
          | left settled =>
              rw [hnextPhase] at hprogress
              obtain rfl := hprogress
              have hsettled := FanOut.result_of_left hbody (FanOut.reached_run hrun') hnextPhase
              show Course session i (steps ++ [x]) (session.close (session.jobs i) p settled).stage
                (session.postedAlone i (FanOut.arrivals (steps ++ [x])) ++ [])
                (session.close (session.jobs i) p settled).ticks
              rw [List.append_nil]
              exact course_close hprepare hsettled
          | gathering | unwinding =>
              rw [hnextPhase] at hprogress
              obtain rfl := hprogress
              have hgoing : ∀ settled, next.phase ≠ .left settled := by
                intro settled
                rw [hnextPhase]
                exact nofun
              show Course session i (steps ++ [x]) (.searching p next)
                (session.postedAlone i (FanOut.arrivals (steps ++ [x])) ++ []) []
              rw [List.append_nil]
              exact .searching hprepare hbody hrun' hgoing

theorem Course.of_ready {posted : List Posting} {ticks : List Tick} (h : Course session i steps .ready posted ticks) :
    posted = [] := by
  cases h
  rfl

theorem Course.posted_eq {stage : Stage} {posted : List Posting} {ticks : List Tick}
    (h : Course session i steps stage posted ticks) (hready : stage ≠ .ready) :
    posted = session.postedAlone i (FanOut.arrivals steps) := by
  cases h with
  | ready => exact absurd rfl hready
  | searching => rfl
  | ended => rfl

theorem Course.of_ended {result : Except Fault Outcome} {posted : List Posting} {ticks : List Tick}
    (h : Course session i steps (.ended result) posted ticks) :
    (session.alone i (FanOut.arrivals steps)).result = some result ∧
      ticks = (session.alone i (FanOut.arrivals steps)).ticks := by
  cases h with
  | ended hresult => exact ⟨hresult, rfl⟩

/-- A dispatch that is not over can go on. -/
theorem Course.going {stage : Stage} {posted : List Posting} {ticks : List Tick}
    (h : Course session i steps stage posted ticks) (objects : Nat → Request) :
    (∃ result, stage = .ended result) ∨
      ∃ move, (session.advance objects (session.jobs i) stage move).isSome = true := by
  cases h with
  | ended => exact .inl ⟨_, rfl⟩
  | ready => exact .inr ⟨.begin, rfl⟩
  | searching hprepare hbody hrun hphase =>
      obtain ⟨x, hx⟩ := FanOut.exists_step (FanOut.reached_run hrun) hphase
      refine .inr ⟨.search x, ?_⟩
      unfold Session.advance
      rwa [Option.isSome_map]

end

/-! ### All dispatches -/

section

variable {metrics : Metrics} {turns : List (Turn n)} {turn : Turn n} {s s' : State n} {ticks : Fin n → List Tick}

theorem step_eq_some (h : session.step s turn = some s') :
    ∃ progress, session.advance s.objects (session.jobs turn.job) (s.stages turn.job) turn.move = some progress ∧
      s' = ⟨session.written s.objects (session.jobs turn.job) turn.move, s.metrics.countAll progress.ticks,
        Function.update s.stages turn.job progress.stage, s.posted ++ progress.posted.map (turn.job, ·)⟩ := by
  obtain ⟨progress, hprogress, hs'⟩ := Option.map_eq_some_iff.mp h
  exact ⟨progress, hprogress, hs'.symm⟩

theorem run_concat (session : Session n) (s : State n) (turns : List (Turn n)) (turn : Turn n) :
    session.run s (turns ++ [turn]) = (session.run s turns).bind (session.step · turn) := by
  simp [run, List.foldlM_append]

theorem stepsOf_concat (i : Fin n) (turns : List (Turn n)) (turn : Turn n) :
    stepsOf i (turns ++ [turn]) = stepsOf i turns ++ if turn.job = i then turn.move.steps else [] := by
  simp [stepsOf]

theorem postedBy_append (s : State n) (i j : Fin n) (more : List Posting) :
    State.postedBy { s with posted := s.posted ++ more.map (i, ·) } j =
      s.postedBy j ++ if i = j then more else [] := by
  unfold State.postedBy
  rw [List.filterMap_append, List.filterMap_map]
  by_cases hsame : i = j
  · simp [hsame]
  · simp [hsame]

/-- A move does not see what other dispatches have written. -/
theorem AreKept.advance_eq (h : AreKept session objects) (job : Job) (stage : Stage) (move : Move) :
    session.advance objects job stage move = session.advance session.pool.made job stage move := by
  cases stage <;> cases move <;> simp only [advance, h.prepare_eq]

/-- After turns, every dispatch stands where its own moves alone have taken it, and the counters have what all of them
have counted. -/
structure Together (session : Session n) (metrics : Metrics) (turns : List (Turn n)) (s : State n)
    (ticks : Fin n → List Tick) : Prop where
  kept : AreKept session s.objects
  course : ∀ i, Course session i (stepsOf i turns) (s.stages i) (s.postedBy i) (ticks i)
  counted : ∀ (sample : Metrics → Nat) (isOwn : Tick → Bool),
    (∀ m t, sample (m.count t) = sample m + if isOwn t then 1 else 0) →
      sample s.metrics = sample metrics + ∑ i, (ticks i).countP isOwn

theorem together_start (session : Session n) (metrics : Metrics) :
    Together session metrics [] (session.start metrics) fun _ => [] where
  kept := areKept_made session
  course i := .ready
  counted sample isOwn _ := by simp [start]

/-- A turn is a move of one dispatch; the others stay where they are. -/
theorem together_step (h : Together session metrics turns s ticks) (hstep : session.step s turn = some s') :
    ∃ ticks', Together session metrics (turns ++ [turn]) s' ticks' := by
  obtain ⟨i, move⟩ := turn
  obtain ⟨progress, hprogress, rfl⟩ := step_eq_some hstep
  rw [h.kept.advance_eq] at hprogress
  refine ⟨Function.update ticks i (ticks i ++ progress.ticks), h.kept.written (session.jobs i) move, ?_, ?_⟩
  · intro j
    have hposted := postedBy_append s i j progress.posted
    unfold State.postedBy at hposted
    show Course session j (stepsOf j (turns ++ [⟨i, move⟩])) (Function.update s.stages i progress.stage j)
      (State.postedBy _ j) (Function.update ticks i (ticks i ++ progress.ticks) j)
    unfold State.postedBy
    rw [stepsOf_concat, hposted]
    by_cases hsame : i = j
    · subst hsame
      rw [if_pos rfl, if_pos rfl, Function.update_self, Function.update_self]
      exact (h.course i).advance hprogress
    · rw [if_neg hsame, if_neg hsame, Function.update_of_ne (Ne.symm hsame), Function.update_of_ne (Ne.symm hsame),
        List.append_nil, List.append_nil]
      exact h.course j
  · intro sample isOwn hsample
    have hcounted : sample (s.metrics.countAll progress.ticks) =
        sample s.metrics + progress.ticks.countP isOwn :=
      Metrics.sample_countAll (fun m t _ => hsample m t) s.metrics
    have hown : ∀ j, (Function.update ticks i (ticks i ++ progress.ticks) j).countP isOwn =
        (ticks j).countP isOwn + if j = i then progress.ticks.countP isOwn else 0 := by
      intro j
      by_cases hsame : j = i
      · subst hsame
        rw [Function.update_self, List.countP_append, if_pos rfl]
      · rw [Function.update_of_ne hsame, if_neg hsame, Nat.add_zero]
    calc sample (s.metrics.countAll progress.ticks)
        = sample metrics + ∑ j, (ticks j).countP isOwn + progress.ticks.countP isOwn := by
          rw [hcounted, h.counted sample isOwn hsample]
      _ = sample metrics + ∑ j, (Function.update ticks i (ticks i ++ progress.ticks) j).countP isOwn := by
          simp only [hown, Finset.sum_add_distrib, Finset.sum_ite_eq', Finset.mem_univ, if_true, Nat.add_assoc]

theorem together_run (h : session.run (session.start metrics) turns = some s) :
    ∃ ticks, Together session metrics turns s ticks := by
  induction turns using List.reverseRecOn generalizing s with
  | nil =>
      obtain rfl : session.start metrics = s := Option.some.inj h
      exact ⟨_, together_start session metrics⟩
  | append_singleton turns turn ih =>
      rw [run_concat] at h
      obtain ⟨middle, hmiddle, hstep⟩ := Option.bind_eq_some_iff.mp h
      obtain ⟨ticks, hticks⟩ := ih hmiddle
      exact together_step hticks hstep

end

/-- Dispatches that went on at the same time are none the worse for it. Each of them posts what it posts alone, with its
own size, and ends as it does alone; one that is not over can go on, and once all are over the counters have grown by
what each of them counts alone. -/
structure AreUndisturbed (session : Session n) (metrics : Metrics) (turns : List (Turn n)) (s : State n) : Prop where
  posts : ∀ i, s.stages i ≠ .ready → s.postedBy i = session.postedAlone i (repliesOf i turns)
  sized : ∀ i size p members, (session.jobs i).ask.size session.catalog = .ok size → size.isNull = false →
    session.prepare session.pool.made (session.jobs i) = .ok p → p.submission.request.body = .obj members →
    (members.map (·.1)).Nodup → ∀ posting ∈ s.postedBy i, posting.body.lookup "size" = some size
  ends : ∀ i result, s.stages i = .ended result → (session.alone i (repliesOf i turns)).result = some result
  going : ∀ i, (∃ result, s.stages i = .ended result) ∨ ∃ move, (session.step s ⟨i, move⟩).isSome = true
  outcomes : (∀ i, ∃ result, s.stages i = .ended result) → ∀ kind result,
    s.metrics.outcomeCount kind result = metrics.outcomeCount kind result +
      ∑ i, (Metrics.start.countAll (session.alone i (repliesOf i turns)).ticks).outcomeCount kind result
  breaches : (∀ i, ∃ result, s.stages i = .ended result) →
    s.metrics.breaches = metrics.breaches +
      ∑ i, (Metrics.start.countAll (session.alone i (repliesOf i turns)).ticks).breaches

section

variable {metrics : Metrics} {turns : List (Turn n)} {s : State n}

/-- The postings of a dispatch carry the size it asks for. -/
theorem size_of_postedAlone {i : Fin n} {replies : List Arrival} {size : Json} {p : Prepared} {members : Members}
    (hsize : (session.jobs i).ask.size session.catalog = .ok size) (hnull : size.isNull = false)
    (hprepare : session.prepare session.pool.made (session.jobs i) = .ok p)
    (hobject : p.submission.request.body = .obj members) (hnames : (members.map (·.1)).Nodup) {posting : Posting}
    (h : posting ∈ session.postedAlone i replies) : posting.body.lookup "size" = some size := by
  obtain ⟨own, object, hown, -, hrequest⟩ := prepare_eq_ok hprepare
  obtain rfl : own = size := Except.ok.inj (hown.symm.trans hsize)
  have hrequestSize : p.submission.request.size = own := by
    rw [hrequest, Catalog.envelope_size]
  rw [postedAlone_of_prepare hprepare] at h
  cases hbody : p.submission.request.toBody with
  | error fault =>
      rw [Cluster.search, hbody] at h
      cases h
  | ok body =>
      rw [Cluster.search_requests _ _ hbody] at h
      rw [(FanOut.alike_of_mem_sent h).2.2, ← hrequestSize]
      exact Request.lookup_size hobject hnames (hrequestSize.symm ▸ hnull) hbody

/-- Once all dispatches are over, a sample has grown by what it is after each of them alone. -/
theorem sample_of_ended {ticks : Fin n → List Tick} (h : Together session metrics turns s ticks)
    (hended : ∀ i, ∃ result, s.stages i = .ended result) (sample : Metrics → Nat) {isOwn : Tick → Bool}
    (hsample : ∀ m t, sample (m.count t) = sample m + if isOwn t then 1 else 0) (hzero : sample .start = 0) :
    sample s.metrics = sample metrics +
      ∑ i, sample (Metrics.start.countAll (session.alone i (repliesOf i turns)).ticks) := by
  have halone : ∀ i, (ticks i).countP isOwn =
      sample (Metrics.start.countAll (session.alone i (repliesOf i turns)).ticks) := by
    intro i
    obtain ⟨result, hresult⟩ := hended i
    have hcourse := h.course i
    rw [hresult] at hcourse
    rw [Metrics.sample_countAll (fun m t _ => hsample m t), hzero, Nat.zero_add, hcourse.of_ended.2]
    rfl
  rw [h.counted sample isOwn hsample]
  simp only [halone]

/-- Whatever turns dispatches take, they do not disturb each other. -/
theorem run_areUndisturbed (h : session.run (session.start metrics) turns = some s) :
    AreUndisturbed session metrics turns s := by
  obtain ⟨ticks, htogether⟩ := together_run h
  have hposts : ∀ i, s.stages i ≠ .ready → s.postedBy i = session.postedAlone i (repliesOf i turns) :=
    fun i => (htogether.course i).posted_eq
  exact {
    posts := hposts
    sized := by
      intro i size p members hsize hnull hprepare hobject hnames posting hposting
      have hready : s.stages i ≠ .ready := by
        intro hready
        have hcourse := htogether.course i
        rw [hready] at hcourse
        rw [hcourse.of_ready] at hposting
        cases hposting
      rw [hposts i hready] at hposting
      exact size_of_postedAlone hsize hnull hprepare hobject hnames hposting
    ends := by
      intro i result hresult
      have hcourse := htogether.course i
      rw [hresult] at hcourse
      exact hcourse.of_ended.1
    going := by
      intro i
      rcases (htogether.course i).going s.objects with hended | ⟨move, hmove⟩
      · exact .inl hended
      · refine .inr ⟨move, ?_⟩
        unfold Session.step
        rwa [Option.isSome_map]
    outcomes := fun hended kind result =>
      sample_of_ended htogether hended (·.outcomeCount kind result) (fun m t => m.outcomeCount_count kind result t) rfl
    breaches := fun hended =>
      sample_of_ended htogether hended (·.breaches) (fun m t => m.breaches_count t) rfl }

/-- Two queries and a source that are handed one object, whose body has a size already. The second query has its reply
before the source begins, the first one fails while the source is searching, and the source exceeds the ceiling. -/
theorem run_areUndisturbed_of_shared :
    let members : Members := [("query", .obj []), ("size", .int 1)]
    let pool : RequestPool := ⟨fun _ => { body := .obj members }, fun _ => none, fun _ => none⟩
    let query (last : Int) : Ask := .query ⟨.metrics, "sys", .absent, .int 0, .int last⟩
    let source : Ask := .source (fun _ => .ok .absent) { metric := .str "sys.cpu" }
    let job (ask : Ask) : Job := ⟨ask, .null, {}, fun _ => .ok 0⟩
    let session : Session 3 :=
      ⟨⟨.null, { maxCardinality := .int 4 }, Series.canonical⟩, ⟨["http://a"], "", "all", true⟩, pool,
        ![job (query 10), job (query 3), job source]⟩
    let found : Response :=
      ⟨7, some [("metric_agg", .nested 1 [("unique_metrics", .terms [.mk "cpu" 1 []])])], [], .null⟩
    let answered : Move := .search (.reply ⟨0, .answered 200 (.document (found.write .plain))⟩)
    let refused : Move := .search (.reply ⟨0, .answered 503 (.document .null)⟩)
    let turns : List (Turn 3) :=
      [⟨0, .begin⟩, ⟨1, .begin⟩, ⟨1, answered⟩, ⟨2, .begin⟩, ⟨0, refused⟩, ⟨2, answered⟩, ⟨2, .search .leave⟩,
        ⟨1, .search .leave⟩, ⟨0, .search .wake⟩, ⟨0, .search .leave⟩]
    ∃ s, session.run (session.start .start) turns = some s ∧
      (∀ posting ∈ s.postedBy 0, posting.body.lookup "size" = some (.int 10)) ∧
      (∀ posting ∈ s.postedBy 1, posting.body.lookup "size" = some (.int 3)) ∧
      (∀ posting ∈ s.postedBy 2, posting.body.lookup "size" = some (.int 4096)) ∧
      s.posted.length = 3 ∧ s.metrics.outcomeCount .metrics .exception = 1 ∧
      s.metrics.outcomeCount .metrics .data = 1 ∧ s.metrics.outcomeCount .timeSeries .noData = 1 ∧
      s.metrics.breaches = 1 := by
  intro members pool query source job session found answered refused turns
  have hended : ∀ i, ((session.run (session.start .start) turns).map fun s =>
      match s.stages i with
      | .ended _ => true
      | _ => false) = some true := by decide +kernel
  have hposted : ((session.run (session.start .start) turns).map fun s => s.posted.length) = some 3 := by
    decide +kernel
  obtain ⟨s, hrun, hlength⟩ := Option.map_eq_some_iff.mp hposted
  have hundisturbed := run_areUndisturbed hrun
  have hstages : ∀ i, ∃ result, s.stages i = .ended result := by
    intro i
    have hi := hended i
    rw [hrun] at hi
    cases hstage : s.stages i with
    | ended result => exact ⟨result, rfl⟩
    | ready | searching => simp [hstage] at hi
  have hnames : (members.map (·.1)).Nodup := by decide
  refine ⟨s, hrun, ?_, ?_, ?_, hlength, ?_, ?_, ?_, ?_⟩
  · exact hundisturbed.sized 0 _ _ members rfl rfl rfl rfl hnames
  · exact hundisturbed.sized 1 _ _ members rfl rfl rfl rfl hnames
  · exact hundisturbed.sized 2 _ _ members rfl rfl rfl rfl hnames
  · rw [hundisturbed.outcomes hstages]
    decide +kernel
  · rw [hundisturbed.outcomes hstages]
    decide +kernel
  · rw [hundisturbed.outcomes hstages]
    decide +kernel
  · rw [hundisturbed.breaches hstages]
    decide +kernel

end

end Session

end SeriesCatalog
