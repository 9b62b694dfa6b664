import Mathlib
import SeriesCatalog.Proofs.Fallible
import SeriesCatalog.Proofs.Search.Runs

/-! What a search does over all its runs. Each entry of the hosts is sent one request, the replies can come in
any order, and when the call is left its result is the one that the replies settle: all responses in the
order of the hosts, or the fault of the host that failed first. Then nothing is in flight, and the hosts that
were cancelled are those that were awaited when the failure reached the call. -/

namespace SeriesCatalog.FanOut

open Cluster

/-! ### Every order of replies -/

theorem posting_eq_ok {c : Cluster} {index host : String} {body : List (Json × Json)} {p : Posting}
    (h : c.posting index body host = .ok p) : p.host = host ∧ p.index = index ∧ p.body = Json.named body := by
  obtain ⟨address, -, h⟩ := Fallible.bind_eq_ok.mp h
  by_cases hwritable : (!Request.isWritable body) = true
  · rw [if_pos hwritable] at h
    cases h
  · rw [if_neg hwritable] at h
    by_cases hopen : (!c.isOpen) = true
    · rw [if_pos hopen] at h
      cases h
    · rw [if_neg hopen] at h
      cases h
      exact ⟨rfl, rfl, rfl⟩

theorem alike_of_mem_sent {c : Cluster} {target : String} {body : List (Json × Json)} {p : Posting}
    (h : p ∈ (c.attempts target body).filterMap Except.toOption) :
    p.host ∈ c.hosts ∧ p.index = c.indexFor target ∧ p.body = Json.named body := by
  obtain ⟨attempt, hattempt, hsome⟩ := List.mem_filterMap.mp h
  obtain ⟨host, hhost, rfl⟩ := List.mem_map.mp hattempt
  obtain ⟨rfl, hindex, hbody⟩ := posting_eq_ok (Fallible.eq_ok_of_toOption hsome)
  exact ⟨hhost, hindex, hbody⟩

/-- If all requests can be sent, there is one for each entry of the hosts, in their order. -/
theorem map_host_sent {c : Cluster} {index : String} {body : List (Json × Json)} {hosts : List String}
    (h : ∀ host ∈ hosts, ∃ p, c.posting index body host = .ok p) :
    ((hosts.map (c.posting index body)).filterMap Except.toOption).map (·.host) = hosts := by
  induction hosts with
  | nil => rfl
  | cons host rest ih =>
      obtain ⟨p, hp⟩ := h host List.mem_cons_self
      have hrest := ih fun other hother => h other (List.mem_cons_of_mem host hother)
      rw [List.map_cons, hp]
      exact congrArg₂ List.cons (posting_eq_ok hp).1 hrest

/-! ### What a search does -/

theorem length_attempts (c : Cluster) (target : String) (body : List (Json × Json)) :
    (c.attempts target body).length = c.hosts.length := List.length_map _

/-- Once the tasks are done with responses, the search has them as its result. -/
theorem settle_of_done {attempts : List (Except Fault Posting)} {arrivals : List Arrival} {batch : List Response}
    (hfault : firstFault (completions attempts arrivals) = none)
    (htasks : tasksAfter attempts arrivals = batch.map fun response => .done (.ok response)) :
    settle attempts.length (completions attempts arrivals) = some (.ok batch) := by
  have hlength : batch.length = attempts.length := by
    have hmapped := congrArg List.length htasks
    simpa [tasksAfter] using hmapped.symm
  refine settle_of_responses hfault hlength fun host attempt hattempt => ?_
  have htask := congrArg (·[host]?) htasks
  simp only [getElem?_tasksAfter, hattempt, Option.map_some, List.getElem?_map] at htask
  obtain ⟨response, hresponse, hdone⟩ := Option.map_eq_some_iff.mp htask.symm
  exact ⟨response, hresponse, completionOf_of_done hdone.symm⟩

/-- A response among the tasks was received from the host of its place. -/
theorem received_of_done {attempts : List (Except Fault Posting)} {arrivals : List Arrival} {host : Nat}
    {response : Response} (h : (tasksAfter attempts arrivals)[host]? = some (.done (.ok response))) :
    ∃ p, attempts[host]? = some (.ok p) ∧ ∃ a ∈ arrivals, a.host = host ∧ receive p a.reply = .ok response := by
  rw [getElem?_tasksAfter] at h
  obtain ⟨attempt, hattempt, hdone⟩ := Option.map_eq_some_iff.mp h
  have hcompletion := completionOf_of_done hdone
  cases attempt with
  | error fault => cases hcompletion
  | ok p =>
      obtain ⟨a, hfound, hreceived⟩ := Option.map_eq_some_iff.mp hcompletion
      obtain ⟨harrived, hhost⟩ := mem_and_host_of_find? hfound
      exact ⟨p, hattempt, a, harrived, hhost, hreceived⟩

section

variable {attempts : List (Except Fault Posting)} {steps : List Step} {s : State}

/-- A call that is left with responses has met no failure. -/
theorem tasksAfter_of_returned (h : Reached attempts steps s) {batch : List Response}
    (hphase : s.phase = .left (.ok batch)) :
    firstFault (completions attempts (arrivals steps)) = none ∧
      tasksAfter attempts (arrivals steps) = batch.map fun response => .done (.ok response) := by
  have htasks := h.returned batch hphase
  constructor
  · rw [← h.failure, Option.eq_none_iff_forall_ne_some]
    intro fault hfault
    have hmem := h.failed fault hfault
    rw [htasks] at hmem
    obtain ⟨response, -, hdone⟩ := List.mem_map.mp hmem
    cases hdone
  · rw [← h.tasks, htasks, List.map_map]
    exact List.map_congr_left fun response _ => rfl

/-- A call that is left with a fault was woken by it, and the tasks have not completed with anything since. -/
theorem woken_of_raised (h : Reached attempts steps s) {fault : Fault} (hphase : s.phase = .left (.error fault)) :
    ∃ before after woken, steps = before ++ .wake :: after ∧ run (start attempts) before = some woken ∧
      arrivals steps = arrivals before ∧ woken.tasks = tasksAfter attempts (arrivals steps) ∧
      firstFault (completions attempts (arrivals steps)) = some fault := by
  obtain ⟨before, after, woken, hsteps, hrun, hwoken, hfailure, harrivals⟩ := (h.raised fault hphase).1
  have hbefore := reached_run hrun
  refine ⟨before, after, woken, hsteps, hrun, harrivals, ?_, ?_⟩
  · rw [harrivals]
    exact hbefore.gathering hwoken
  · rw [harrivals, ← hbefore.failure, hfailure]

/-- A response that the call is left with was received from the host of its place. -/
theorem received_of_returned (h : Reached attempts steps s) {batch : List Response}
    (hphase : s.phase = .left (.ok batch)) {host : Nat} {response : Response}
    (hresponse : batch[host]? = some response) :
    ∃ p, attempts[host]? = some (.ok p) ∧
      ∃ a ∈ arrivals steps, a.host = host ∧ receive p a.reply = .ok response := by
  apply received_of_done
  rw [(tasksAfter_of_returned h hphase).2, List.getElem?_map, hresponse]
  rfl

end

/-- The result of a call that is left is the one that the search gives for its replies. -/
theorem result_of_left {c : Cluster} {request : Request} {target : String} {body : List (Json × Json)}
    {steps : List Step} {s : State} {result : Except Fault (List Response)} (hbody : request.toBody = .ok body)
    (h : Reached (c.attempts target body) steps s) (hphase : s.phase = .left result) :
    (c.search request target (arrivals steps)).result = some result := by
  rw [search_result target _ hbody, ← length_attempts c target body]
  cases result with
  | ok batch =>
      obtain ⟨hfault, htasks⟩ := tasksAfter_of_returned h hphase
      exact settle_of_done hfault htasks
  | error fault =>
      obtain ⟨-, -, -, -, -, -, -, hfault⟩ := woken_of_raised h hphase
      exact settle_of_firstFault _ hfault

end SeriesCatalog.FanOut
