import Mathlib.Logic.Function.Basic
import SeriesCatalog.Catalog.Dispatch
import SeriesCatalog.Search.FanOut

/-! Several dispatches of one catalog at the same time. A dispatch is suspended nowhere but in its search. It runs in
one go until its requests are out, follows its search event by event, and runs in one go from there to its end; at each
of these points another dispatch may go on. What they share are the counters and the request objects of the builder, to
which a dispatch writes before it submits one of them. -/

namespace SeriesCatalog

/-- The request objects that a builder hands out. The body and the timeout of an object are those it was made with,
unless the builder puts others in their place for the query whenever it hands the object out. A body is a value here: a
builder that rewrites in place what is nested in a body it has handed out before is not told, although a search that
has yet to send that body would send it rewritten, since only its outermost members are copied for the search. -/
structure RequestPool where
  made : Nat → Request
  body? : Nat → Option (Query → Json)
  timeout? : Nat → Option (Query → Json)

/-- An object as it is handed out for a query. Its size is the one that it was left with. -/
def RequestPool.handOut (pool : RequestPool) (objects : Nat → Request) (q : Query) (object : Nat) : Request :=
  { objects object with
    body := ((pool.body? object).map (· q)).getD (objects object).body
    timeout := ((pool.timeout? object).map (· q)).getD (objects object).timeout }

/-- A dispatch that is to be made. The builder picks one of its objects for the query, or it fails. -/
structure Job where
  ask : Ask
  trace : Json
  elapsed : Elapsed
  object : Query → Except Fault Nat

/-- A number of dispatches that one catalog makes over one cluster. -/
structure Session (n : Nat) where
  catalog : Catalog
  cluster : Cluster
  pool : RequestPool
  jobs : Fin n → Job

namespace Session

/-- How far a dispatch has come. -/
inductive Stage where
  | ready
  | searching (p : Prepared) (search : FanOut.State)
  | ended (result : Except Fault Outcome)

/-- What a dispatch can do next: run up to its search, or follow its search. -/
inductive Move where
  | begin
  | search (x : FanOut.Step)

/-- The event of its search that a move is, if it is one. -/
def Move.steps : Move → List FanOut.Step
  | .begin => []
  | .search x => [x]

/-- What comes of a move: where it takes the dispatch, what it sends and what it counts. -/
structure Progress where
  stage : Stage
  posted : List Posting
  ticks : List Tick

/-- The dispatch that moves, and its move. -/
structure Turn (n : Nat) where
  job : Fin n
  move : Move

/-- All dispatches, and what they share. -/
structure State (n : Nat) where
  objects : Nat → Request
  metrics : Metrics
  stages : Fin n → Stage
  posted : List (Fin n × Posting)

variable {n : Nat}

/-- The builder, while its objects are in a state. -/
def builder (session : Session n) (objects : Nat → Request) (job : Job) : RequestBuilder :=
  fun q => (job.object q).map (session.pool.handOut objects q)

/-- What is prepared for a dispatch, while the objects are in a state. -/
def prepare (session : Session n) (objects : Nat → Request) (job : Job) : Except Fault Prepared :=
  session.catalog.prepare (session.builder objects job) job.trace job.ask

/-! ### One dispatch -/

/-- From the end of the search to that of the dispatch. -/
def close (session : Session n) (job : Job) (p : Prepared) (settled : Except Fault (List Response)) : Progress :=
  let last := session.catalog.conclude job.elapsed p.query job.ask settled
  ⟨.ended last.result, [], .searched job.elapsed.search :: last.ticks⟩

/-- From the start of a dispatch until its requests are out. The body that they carry is taken from the object here. A
search that has no body is over at once. -/
def launch (session : Session n) (job : Job) : Except Fault Prepared → Progress
  | .error fault => ⟨.ended (.error fault), [], []⟩
  | .ok p =>
    match p.submission.request.toBody with
    | .error fault => session.close job p (.error fault)
    | .ok body =>
      let attempts := session.cluster.attempts p.submission.target body
      ⟨.searching p (FanOut.start attempts), attempts.filterMap Except.toOption, []⟩

/-- What a move does to a dispatch, if the dispatch can make it. -/
def advance (session : Session n) (objects : Nat → Request) (job : Job) : Stage → Move → Option Progress
  | .ready, .begin => some (session.launch job (session.prepare objects job))
  | .searching p search, .search x =>
    (FanOut.step search x).map fun next =>
      match next.phase with
      | .left settled => session.close job p settled
      | _ => ⟨.searching p next, [], []⟩
  | _, _ => none

/-- The objects after a move. The one that is submitted keeps what has been written to it. -/
def written (session : Session n) (objects : Nat → Request) (job : Job) : Move → (Nat → Request)
  | .begin =>
    match session.prepare objects job with
    | .ok p =>
      match job.object p.query with
      | .ok object => Function.update objects object p.submission.request
      | .error _ => objects
    | .error _ => objects
  | .search _ => objects

/-! ### All dispatches -/

/-- All dispatches are ready, and nothing has been written to the objects yet. -/
def start (session : Session n) (metrics : Metrics) : State n :=
  ⟨session.pool.made, metrics, fun _ => .ready, []⟩

/-- The state after a turn, if the turn can be taken. -/
def step (session : Session n) (s : State n) (turn : Turn n) : Option (State n) :=
  let job := session.jobs turn.job
  (session.advance s.objects job (s.stages turn.job) turn.move).map fun progress =>
    { objects := session.written s.objects job turn.move
      metrics := s.metrics.countAll progress.ticks
      stages := Function.update s.stages turn.job progress.stage
      posted := s.posted ++ progress.posted.map (turn.job, ·) }

/-- The state after turns, if all of them can be taken in their order. -/
def run (session : Session n) (s : State n) (turns : List (Turn n)) : Option (State n) :=
  turns.foldlM session.step s

/-! ### Seen from one dispatch -/

/-- The events of the search of a dispatch among the turns. -/
def stepsOf (i : Fin n) (turns : List (Turn n)) : List FanOut.Step :=
  turns.flatMap fun turn => if turn.job = i then turn.move.steps else []

/-- The replies that a dispatch has, in the order in which they came. -/
def repliesOf (i : Fin n) (turns : List (Turn n)) : List Arrival := FanOut.arrivals (stepsOf i turns)

/-- What a dispatch has posted. -/
def State.postedBy (s : State n) (i : Fin n) : List Posting :=
  s.posted.filterMap fun (j, p) => if j = i then some p else none

/-- The same dispatch with the same replies, alone. -/
def alone (session : Session n) (i : Fin n) (replies : List Arrival) : Dispatch :=
  let job := session.jobs i
  session.catalog.dispatch (session.builder session.pool.made job)
    (fun s => session.cluster.search s.request s.target replies) job.elapsed job.trace job.ask

/-- What it posts alone. -/
def postedAlone (session : Session n) (i : Fin n) (replies : List Arrival) : List Posting :=
  (session.alone i replies).submissions.flatMap fun s =>
    (session.cluster.search s.request s.target replies).requests

end Session

end SeriesCatalog
