import SeriesCatalog.Search.Cluster

/-! A search over several hosts, event by event. Every entry of the hosts has a task from the start. The call
waits until all tasks have succeeded or one has failed; the first failure is kept, but it reaches the call
only when the call is woken, and until then replies still count. The call then cancels the tasks that are
awaited, and leaves with the failure when the last of them has come to rest. -/

namespace SeriesCatalog

/-- The requests of a search, one for each entry of the hosts. One that cannot be sent is a fault. -/
def Cluster.attempts (c : Cluster) (target : String) (body : List (Json × Json)) :
    List (Except Fault Posting) :=
  c.hosts.map (c.posting (c.indexFor target) body)

namespace FanOut

open Cluster

/-- The task of one host: its request is in flight until the task is done or has come to rest after being
cancelled. -/
inductive Task where
  | awaiting (p : Posting)
  | done (result : Except Fault Response)
  | stopping (p : Posting)
  | stopped (p : Posting)

namespace Task

/-- The task of a request as it starts. -/
def ofAttempt : Except Fault Posting → Task
  | .ok p => .awaiting p
  | .error fault => .done (.error fault)

/-- The task after it is cancelled; only one that is awaited takes notice. -/
def cancel : Task → Task
  | .awaiting p => .stopping p
  | task => task

/-- A request that has neither been answered nor come to rest. -/
def isInFlight : Task → Bool
  | .awaiting _ | .stopping _ => true
  | _ => false

def response? : Task → Option Response
  | .done (.ok response) => some response
  | _ => none

end Task

/-- Where the call is: waiting for its tasks, waiting for those it cancelled, or over. -/
inductive Phase where
  | gathering
  | unwinding (fault : Fault)
  | left (result : Except Fault (List Response))

/-- The tasks in the order of the hosts, and the first failure among them. -/
structure State where
  tasks : List Task
  failure : Option Fault
  phase : Phase

/-- What can happen next: a reply comes in, a failure reaches the call, a cancelled task comes to rest, the
call is left. -/
inductive Step where
  | reply (a : Arrival)
  | wake
  | halt (host : Nat)
  | leave

/-- The fault of a result that is one. -/
def faultOf : Except Fault Response → Option Fault
  | .ok _ => none
  | .error fault => some fault

/-- The call after it has started its tasks. Those that cannot send their request fail at once. -/
def start (attempts : List (Except Fault Posting)) : State :=
  ⟨attempts.map Task.ofAttempt, firstFault (unsent 0 attempts), .gathering⟩

/-- The state after a step, if the step can happen. -/
def step (s : State) : Step → Option State
  | .reply a =>
    match s.phase, s.tasks[a.host]? with
    | .gathering, some (.awaiting p) =>
      let result := receive p a.reply
      some { s with tasks := s.tasks.set a.host (.done result), failure := s.failure.or (faultOf result) }
    | _, _ => none
  | .wake =>
    match s.phase, s.failure with
    | .gathering, some fault => some { s with tasks := s.tasks.map Task.cancel, phase := .unwinding fault }
    | _, _ => none
  | .halt host =>
    match s.phase, s.tasks[host]? with
    | .unwinding _, some (.stopping p) => some { s with tasks := s.tasks.set host (.stopped p) }
    | _, _ => none
  | .leave =>
    match s.phase with
    | .gathering => (s.tasks.mapM Task.response?).map fun batch => { s with phase := .left (.ok batch) }
    | .unwinding fault => if s.tasks.any Task.isInFlight then none else some { s with phase := .left (.error fault) }
    | .left _ => none

/-- The state after steps, if all of them can happen in their order. -/
def run (s : State) (steps : List Step) : Option State := steps.foldlM step s

def arrivals (steps : List Step) : List Arrival :=
  steps.filterMap fun
    | .reply a => some a
    | _ => none

end FanOut

end SeriesCatalog
