import SeriesCatalog.Proofs.Search.FanOut
import SeriesCatalog.Proofs.Search.MalformedReply

/-! What the status of an answer does to a search. One of 400 or more fails the search, and the failure names the
host and the status if no other host fails. A status below is passed over: whether it reports a success or not, the
answer counts as one and its body is taken for data. -/

namespace SeriesCatalog

/-- The reply with 200 in place of a status that does not refuse it. -/
def Reply.accepted : Reply → Reply
  | .answered status body => .answered (if status < 400 then 200 else status) body
  | .failed failure => .failed failure

namespace Cluster

/-- A response comes from an answer whose status is below 400, and is what the body of the answer describes. -/
theorem answered_of_received {p : Posting} {reply : Reply} {response : Response} (h : receive p reply = .ok response) :
    ∃ status b, reply = .answered status b ∧ status < 400 ∧ b.read >>= Response.read = .ok response := by
  cases reply with
  | failed failure =>
      rw [receive] at h
      split at h <;> cases h
  | answered status b =>
      by_cases haddress : p.address.isAbsolute = true
      · by_cases hstatus : 400 ≤ status
        · simp only [receive, haddress, if_pos hstatus] at h
          cases h
        · refine ⟨status, b, rfl, not_le.mp hstatus, ?_⟩
          rw [receive_answered b haddress (not_le.mp hstatus)] at h
          cases hread : b.read >>= Response.read with
          | ok found =>
              rw [hread] at h
              exact h
          | error fault =>
              rw [hread] at h
              cases h
      · simp only [receive, Bool.eq_false_iff.mpr haddress, Bool.not_false, if_true] at h
        cases h

theorem receive_refused {p : Posting} {status : Int} (b : Body) (haddress : p.address.isAbsolute = true)
    (hstatus : 400 ≤ status) : receive p (.answered status b) = .error (.statusRefused p.host status) := by
  simp only [receive, haddress, if_pos hstatus]
  rfl

/-- Statuses below 400 are all alike. -/
theorem receive_accepted (p : Posting) (reply : Reply) : receive p reply.accepted = receive p reply := by
  cases reply with
  | failed failure => rfl
  | answered status b =>
      by_cases hstatus : status < 400
      · have h200 : ¬(400 : Int) ≤ 200 := by decide
        simp only [Reply.accepted, if_pos hstatus, receive, if_neg (not_le.mpr hstatus), if_neg h200]
      · rw [Reply.accepted, if_neg hstatus]

end Cluster

namespace FanOut

open Cluster

/-! ### Statuses along a run -/

def Step.accepted : Step → Step
  | .reply a => .reply { a with reply := a.reply.accepted }
  | x => x

theorem step_accepted (s : State) (x : Step) : step s x.accepted = step s x := by
  cases x with
  | reply a => simp only [Step.accepted, step, receive_accepted]
  | _ => rfl

/-- A run goes the same way with 200 in place of every status that does not refuse. -/
theorem run_accepted (s : State) (steps : List Step) : run s (steps.map Step.accepted) = run s steps := by
  induction steps generalizing s with
  | nil => rfl
  | cons x rest ih =>
      simp only [run, List.map_cons, List.foldlM_cons, step_accepted]
      exact congrArg _ (funext ih)

/-- Of all hosts that of the given reply alone may fail: every request can be sent, that of the host to an absolute
address, and every other host that replies has a response. -/
structure OnlyFailure (attempts : List (Except Fault Posting)) (replies : List Arrival) (host : Nat) : Prop where
  sent : ∀ attempt ∈ attempts, ∃ p, attempt = .ok p
  absolute : ∀ p, attempts[host]? = some (.ok p) → p.address.isAbsolute = true
  others : ∀ a ∈ replies, a.host ≠ host → ∀ p, attempts[a.host]? = some (.ok p) →
    ∃ response, receive p a.reply = .ok response

/-- What the statuses of answers mean for a search. -/
structure HeedsStatuses (c : Cluster) (request : Request) (target : String) (body : List (Json × Json))
    (steps : List Step) (s : State) : Prop where
  settled : ∀ result, s.phase = .left result →
    (c.search request target (arrivals steps)).result = some result
  /-- Each response is read from the body of its host's answer, which has a status below 400. -/
  returned : ∀ batch, s.phase = .left (.ok batch) → ∀ host response, batch[host]? = some response →
    ∃ status b, ⟨host, .answered status b⟩ ∈ arrivals steps ∧ status < 400 ∧ b.read >>= Response.read = .ok response
  /-- A status of 400 or more fails the search, whatever the body is. -/
  refused : ∀ result, s.phase = .left result →
    ∀ host status b, ⟨host, .answered status b⟩ ∈ arrivals steps → 400 ≤ status → ∃ fault, result = .error fault
  /-- If no other host fails, the failure names the host and the status. -/
  named : ∀ result, s.phase = .left result →
    ∀ host status b, ⟨host, .answered status b⟩ ∈ arrivals steps → 400 ≤ status →
      OnlyFailure (c.attempts target body) (arrivals steps) host →
      ∃ name, c.hosts[host]? = some name ∧ result = .error (.statusRefused name status)
  /-- A status below 400 means what 200 means. -/
  passed : run (start (c.attempts target body)) (steps.map Step.accepted) = some s

section

variable {attempts : List (Except Fault Posting)} {steps : List Step} {s : State}

theorem status_lt_of_returned (hrun : run (start attempts) steps = some s) {batch : List Response}
    (hphase : s.phase = .left (.ok batch)) {a : Arrival} (ha : a ∈ arrivals steps) :
    ∃ status b, a.reply = .answered status b ∧ status < 400 := by
  have h := reached_run hrun
  obtain ⟨p, hp⟩ := (arrivals_of_run hrun).2 a ha
  obtain ⟨response, hresponse⟩ :=
    firstFault_eq_none_iff.mp (tasksAfter_of_returned h hphase).1 _ (mem_completions ha hp)
  obtain ⟨status, b, hreply, hstatus, -⟩ := answered_of_received hresponse
  exact ⟨status, b, hreply, hstatus⟩

/-- The fault of the only host that fails is the one that the call is left with. -/
theorem raised_of_onlyFailure (hrun : run (start attempts) steps = some s) {fault : Fault}
    (hphase : s.phase = .left (.error fault)) {a : Arrival} (ha : a ∈ arrivals steps)
    (honly : OnlyFailure attempts (arrivals steps) a.host) :
    ∃ p, attempts[a.host]? = some (.ok p) ∧ receive p a.reply = .error fault := by
  obtain ⟨-, -, -, -, -, -, -, hfirst⟩ := woken_of_raised (reached_run hrun) hphase
  obtain ⟨earlier, place, later, hcompletions, -⟩ := eq_append_of_firstFault hfirst
  have hmem : (place, .error fault) ∈ completions attempts (arrivals steps) := by simp [hcompletions]
  obtain ⟨b, hb, p, hp, hdone⟩ := reply_of_mem_completions honly.sent hmem
  obtain ⟨rfl, hfault⟩ := Prod.mk.inj hdone
  -- the fault belongs to some reply; another host's would contradict that no other one fails
  by_cases hhost : b.host = a.host
  · obtain rfl := List.inj_on_of_nodup_map (arrivals_of_run hrun).1 hb ha hhost
    exact ⟨p, hp, hfault.symm⟩
  · obtain ⟨response, hresponse⟩ := honly.others b hb hhost p hp
    rw [hresponse] at hfault
    cases hfault

end

/-- What the statuses of answers mean, along every run. -/
theorem search_heedsStatuses {c : Cluster} {request : Request} {target : String} {body : List (Json × Json)}
    {steps : List Step} {s : State} (hbody : request.toBody = .ok body)
    (hrun : run (start (c.attempts target body)) steps = some s) : HeedsStatuses c request target body steps s := by
  have h := reached_run hrun
  have hrefused : ∀ result, s.phase = .left result →
      ∀ host status b, ⟨host, .answered status b⟩ ∈ arrivals steps → 400 ≤ status → ∃ fault, result = .error fault := by
    intro result hphase host status b ha hstatus
    cases result with
    | error fault => exact ⟨fault, rfl⟩
    | ok batch =>
        obtain ⟨below, body, hreply, hbelow⟩ := status_lt_of_returned hrun hphase ha
        cases hreply
        exact absurd hstatus (not_le.mpr hbelow)
  refine
    { settled := fun result => result_of_left hbody h
      returned := ?_
      refused := hrefused
      named := ?_
      passed := (run_accepted _ steps).trans hrun }
  · intro batch hphase host response hresponse
    obtain ⟨p, -, a, ha, rfl, hreceived⟩ := received_of_returned h hphase hresponse
    obtain ⟨status, b, hreply, hstatus, hread⟩ := answered_of_received hreceived
    exact ⟨status, b, hreply ▸ ha, hstatus, hread⟩
  · intro result hphase host status b ha hstatus honly
    obtain ⟨fault, rfl⟩ := hrefused result hphase host status b ha hstatus
    obtain ⟨p, hp, hfault⟩ := raised_of_onlyFailure hrun hphase ha honly
    rw [receive_refused b (honly.absolute p hp) hstatus] at hfault
    rw [Cluster.attempts, List.getElem?_map] at hp
    obtain ⟨name, hname, hposting⟩ := Option.map_eq_some_iff.mp hp
    refine ⟨name, hname, ?_⟩
    rw [← Except.error.inj hfault, (posting_eq_ok hposting).1]

/-- The second of two hosts, the only one that fails, answers with a status of 503 and a body that could be
read. -/
theorem search_heedsStatuses_of_two :
    let c : Cluster := ⟨["http://a", "http://b"], "", "all", true⟩
    let found : Body := .document (.obj [("hits", .obj [("total", .int 5)])])
    let steps : List Step := [.reply ⟨1, .answered 503 found⟩, .reply ⟨0, .answered 200 found⟩, .wake, .leave]
    Request.toBody {} = .ok [] ∧ OnlyFailure (c.attempts "sys" []) (arrivals steps) 1 ∧
      ∃ s, run (start (c.attempts "sys" [])) steps = some s ∧
        s.phase = .left (.error (.statusRefused "http://b" 503)) ∧ HeedsStatuses c {} "sys" [] steps s := by
  intro c found steps
  have hsendable : ∀ attempt ∈ c.attempts "sys" [], ∃ p, attempt = .ok p ∧ p.address.isAbsolute = true := by
    intro attempt hattempt
    have hall : (c.attempts "sys" []).all (fun attempt => attempt.toOption.any (·.address.isAbsolute)) = true := by
      decide +kernel
    obtain ⟨p, hp, haddress⟩ := (Option.any_eq_true _ _).mp (List.all_eq_true.mp hall attempt hattempt)
    exact ⟨p, Fallible.eq_ok_of_toOption hp, haddress⟩
  have habsolute : ∀ (host : Nat) (p : Posting), (c.attempts "sys" [])[host]? = some (.ok p) → p.address.isAbsolute = true := by
    intro host p hp
    obtain ⟨q, hq, haddress⟩ := hsendable _ (List.mem_of_getElem? hp)
    obtain rfl := Except.ok.inj hq
    exact haddress
  have honly : OnlyFailure (c.attempts "sys" []) (arrivals steps) 1 :=
    { sent := fun attempt hattempt => (hsendable attempt hattempt).imp fun _ h => h.1
      absolute := habsolute 1
      others := by
        intro a ha hother p hp
        rcases List.mem_cons.mp ha with rfl | hrest
        · exact absurd rfl hother
        · obtain rfl := List.mem_singleton.mp hrest
          exact ⟨⟨5, none, [], .null⟩, receive_answered found (habsolute 0 p hp) (by decide)⟩ }
  have hphase : (run (start (c.attempts "sys" [])) steps).map (·.phase) =
      some (.left (.error (.statusRefused "http://b" 503))) := by cbv
  obtain ⟨s, hrun, hleft⟩ := Option.map_eq_some_iff.mp hphase
  exact ⟨rfl, honly, s, hrun, hleft, search_heedsStatuses rfl hrun⟩

/-- A redirect can become data: not every answer behind a batch reports a success. -/
theorem not_forall_success :
    ¬∀ (c : Cluster) (target : String) (body : List (Json × Json)) (steps : List Step) (s : State)
        (batch : List Response), run (start (c.attempts target body)) steps = some s →
      s.phase = .left (.ok batch) → ∀ host status b, ⟨host, .answered status b⟩ ∈ arrivals steps →
        200 ≤ status ∧ status < 300 := by
  intro h
  let c : Cluster := ⟨["http://a"], "", "all", true⟩
  let found : Body := .document (.obj [("hits", .obj [("total", .int 5)])])
  let steps : List Step := [.reply ⟨0, .answered 302 found⟩, .leave]
  have hphase : (run (start (c.attempts "sys" [])) steps).map (·.phase) =
      some (.left (.ok [⟨5, none, [], .null⟩])) := by cbv
  obtain ⟨s, hrun, hleft⟩ := Option.map_eq_some_iff.mp hphase
  have hsuccess := h c "sys" [] steps s _ hrun hleft 0 302 found List.mem_cons_self
  omega

end FanOut

end SeriesCatalog
