import Mathlib.Data.List.Induction
import Mathlib.Data.List.Nodup
import SeriesCatalog.Proofs.Search.Settling

/-! Every run of a search. What the tasks are and which failure is kept depends on the replies so far; once a
failure has reached the call, no reply counts any more and the tasks differ only in how far their cancelling
has come. A run that has not left the call can go on, and there are at most as many steps as there are hosts
and two more. -/

namespace SeriesCatalog.FanOut

open Cluster

/-! ### Steps -/

theorem step_reply {s s' : State} {a : Arrival} (h : step s (.reply a) = some s') :
    s.phase = .gathering ∧ ∃ p, s.tasks[a.host]? = some (.awaiting p) ∧
      s' = { s with
        tasks := s.tasks.set a.host (.done (receive p a.reply))
        failure := s.failure.or (faultOf (receive p a.reply)) } := by
  rw [step] at h
  split at h
  · rename_i p hphase htask
    exact ⟨hphase, p, htask, (Option.some.inj h).symm⟩
  · cases h

theorem step_wake {s s' : State} (h : step s .wake = some s') :
    s.phase = .gathering ∧ ∃ fault, s.failure = some fault ∧
      s' = { s with tasks := s.tasks.map Task.cancel, phase := .unwinding fault } := by
  rw [step] at h
  split at h
  · rename_i fault hphase hfailure
    exact ⟨hphase, fault, hfailure, (Option.some.inj h).symm⟩
  · cases h

theorem step_halt {s s' : State} {host : Nat} (h : step s (.halt host) = some s') :
    ∃ fault p, s.phase = .unwinding fault ∧ s.tasks[host]? = some (.stopping p) ∧
      s' = { s with tasks := s.tasks.set host (.stopped p) } := by
  rw [step] at h
  split at h
  · rename_i fault p hphase htask
    exact ⟨fault, p, hphase, htask, (Option.some.inj h).symm⟩
  · cases h

/-- The call is left with all responses, or with the failure once nothing is in flight. -/
theorem step_leave {s s' : State} (h : step s .leave = some s') :
    (s.phase = .gathering ∧ ∃ batch, s.tasks.mapM Task.response? = some batch ∧
      s' = { s with phase := .left (.ok batch) }) ∨
    ∃ fault, s.phase = .unwinding fault ∧ s.tasks.any Task.isInFlight = false ∧
      s' = { s with phase := .left (.error fault) } := by
  rw [step] at h
  split at h
  · rename_i hphase
    obtain ⟨batch, hbatch, hs'⟩ := Option.map_eq_some_iff.mp h
    exact .inl ⟨hphase, batch, hbatch, hs'.symm⟩
  · rename_i fault hphase
    by_cases hflight : s.tasks.any Task.isInFlight = true
    · rw [if_pos hflight] at h
      cases h
    · rw [if_neg hflight] at h
      exact .inr ⟨fault, hphase, Bool.eq_false_iff.mpr hflight, (Option.some.inj h).symm⟩
  · cases h

theorem run_concat (s : State) (steps : List Step) (x : Step) :
    run s (steps ++ [x]) = (run s steps).bind (step · x) := by
  simp [run, List.foldlM_append]

theorem arrivals_concat_reply (steps : List Step) (a : Arrival) :
    arrivals (steps ++ [.reply a]) = arrivals steps ++ [a] := by
  simp [arrivals]

theorem arrivals_concat {x : Step} (steps : List Step) (hx : ∀ a, x ≠ .reply a) :
    arrivals (steps ++ [x]) = arrivals steps := by
  cases x with
  | reply a => exact absurd rfl (hx a)
  | _ => simp [arrivals]

/-! ### Tasks after replies -/

namespace Task

/-- The task of the host of a place after replies have come in. -/
def after (arrivals : List Arrival) (host : Nat) (attempt : Except Fault Posting) : Task :=
  match completionOf arrivals host attempt with
  | some result => .done result
  | none => .ofAttempt attempt

/-- The task before it was cancelled. -/
def fresh : Task → Task
  | .stopping p | .stopped p => .awaiting p
  | task => task

/-- The host that is awaited. -/
def awaitedHost? : Task → Option String
  | .awaiting p => some p.host
  | _ => none

theorem fresh_cancel (task : Task) : task.cancel.fresh = task.fresh := by cases task <;> rfl

theorem fresh_after (arrivals : List Arrival) (host : Nat) (attempt : Except Fault Posting) :
    (after arrivals host attempt).fresh = after arrivals host attempt := by
  rw [after]
  cases completionOf arrivals host attempt <;> cases attempt <;> rfl

theorem after_nil (host : Nat) (attempt : Except Fault Posting) : after [] host attempt = ofAttempt attempt := by
  cases attempt <;> rfl

end Task

/-- The tasks after replies have come in. -/
def tasksAfter (attempts : List (Except Fault Posting)) (arrivals : List Arrival) : List Task :=
  attempts.mapIdx fun host attempt => Task.after arrivals host attempt

theorem getElem?_tasksAfter (attempts : List (Except Fault Posting)) (arrivals : List Arrival) (host : Nat) :
    (tasksAfter attempts arrivals)[host]? = attempts[host]?.map (Task.after arrivals host) :=
  List.getElem?_mapIdx

theorem tasksAfter_nil (attempts : List (Except Fault Posting)) :
    tasksAfter attempts [] = attempts.map Task.ofAttempt := by
  apply List.ext_getElem?
  intro host
  rw [getElem?_tasksAfter, List.getElem?_map]
  cases attempts[host]? with
  | none => rfl
  | some attempt => exact congrArg some (Task.after_nil host attempt)

theorem map_fresh_tasksAfter (attempts : List (Except Fault Posting)) (arrivals : List Arrival) :
    (tasksAfter attempts arrivals).map Task.fresh = tasksAfter attempts arrivals := by
  apply List.ext_getElem?
  intro host
  rw [List.getElem?_map, getElem?_tasksAfter]
  cases attempts[host]? with
  | none => rfl
  | some attempt => exact congrArg some (Task.fresh_after arrivals host attempt)

/-- An awaited task belongs to a request that was sent and has no reply. -/
theorem awaiting_of_tasksAfter {attempts : List (Except Fault Posting)} {arrivals : List Arrival} {host : Nat}
    {p : Posting} (h : (tasksAfter attempts arrivals)[host]? = some (.awaiting p)) :
    attempts[host]? = some (.ok p) ∧ arrivals.find? (·.host == host) = none := by
  rw [getElem?_tasksAfter] at h
  obtain ⟨attempt, hattempt, htask⟩ := Option.map_eq_some_iff.mp h
  rw [Task.after] at htask
  cases attempt with
  | error fault => cases htask
  | ok q =>
      rw [completionOf] at htask
      cases hfound : arrivals.find? (·.host == host) with
      | none =>
          rw [hfound] at htask
          cases htask
          exact ⟨hattempt, rfl⟩
      | some a =>
          rw [hfound] at htask
          cases htask

/-- A reply to a request that was sent changes the task of its host and no other one. -/
theorem tasksAfter_concat {attempts : List (Except Fault Posting)} {arrivals : List Arrival} {a : Arrival}
    {p : Posting} (h : (tasksAfter attempts arrivals)[a.host]? = some (.awaiting p)) :
    tasksAfter attempts (arrivals ++ [a]) =
      (tasksAfter attempts arrivals).set a.host (.done (receive p a.reply)) := by
  obtain ⟨hattempt, hfound⟩ := awaiting_of_tasksAfter h
  apply List.ext_getElem?
  intro host
  by_cases hhost : a.host = host
  · subst hhost
    have hlength : a.host < (tasksAfter attempts arrivals).length := by
      rw [List.getElem?_eq_some_iff] at h
      exact h.choose
    have hfirst : (arrivals ++ [a]).find? (·.host == a.host) = some a := by simp [hfound]
    rw [List.getElem?_set_self hlength, getElem?_tasksAfter, hattempt, Option.map_some, Task.after, completionOf,
      hfirst]
    rfl
  · have hsame : (arrivals ++ [a]).find? (·.host == host) = arrivals.find? (·.host == host) := by
      simp [List.find?_cons_of_neg, hhost]
    rw [List.getElem?_set_ne hhost, getElem?_tasksAfter, getElem?_tasksAfter]
    cases attempts[host]? with
    | none => rfl
    | some attempt =>
        cases attempt with
        | ok q => rw [Option.map_some, Option.map_some, Task.after, Task.after, completionOf, completionOf, hsame]
        | error fault => rfl

theorem completions_concat {attempts : List (Except Fault Posting)} (arrivals : List Arrival) {a : Arrival}
    {p : Posting} (h : attempts[a.host]? = some (.ok p)) :
    completions attempts (arrivals ++ [a]) = completions attempts arrivals ++ [(a.host, receive p a.reply)] := by
  have hasked := lookup_sent attempts 0 a.host
  rw [Nat.zero_add, h] at hasked
  simp [completions, answered, hasked, Except.toOption]

theorem firstFault_singleton (host : Nat) (result : Except Fault Response) :
    firstFault [(host, result)] = faultOf result := by
  cases result <;> rfl

theorem result_of_faultOf {result : Except Fault Response} {fault : Fault} (h : faultOf result = some fault) :
    result = .error fault := by
  cases result with
  | ok response => cases h
  | error found => rw [Option.some.inj h]

/-! ### Runs -/

/-- The failure reached the call at one step of a run, and no reply has counted since. -/
def IsWoken (attempts : List (Except Fault Posting)) (steps : List Step) (fault : Fault) : Prop :=
  ∃ before after woken, steps = before ++ .wake :: after ∧ run (start attempts) before = some woken ∧
    woken.phase = .gathering ∧ woken.failure = some fault ∧ arrivals steps = arrivals before

/-- What is so after the steps of a run. -/
structure Reached (attempts : List (Except Fault Posting)) (steps : List Step) (s : State) : Prop where
  tasks : s.tasks.map Task.fresh = tasksAfter attempts (arrivals steps)
  failure : s.failure = firstFault (completions attempts (arrivals steps))
  failed : ∀ fault, s.failure = some fault → .done (.error fault) ∈ s.tasks
  gathering : s.phase = .gathering → s.tasks = tasksAfter attempts (arrivals steps)
  unwinding : ∀ fault, s.phase = .unwinding fault →
    IsWoken attempts steps fault ∧ ∀ task ∈ s.tasks, task.awaitedHost? = none
  returned : ∀ batch, s.phase = .left (.ok batch) → s.tasks = batch.map fun response => .done (.ok response)
  raised : ∀ fault, s.phase = .left (.error fault) →
    IsWoken attempts steps fault ∧ ∀ task ∈ s.tasks, task.isInFlight = false

theorem mem_of_firstFault_unsent {attempts : List (Except Fault Posting)} {first : Nat} {fault : Fault}
    (h : firstFault (unsent first attempts) = some fault) : .error fault ∈ attempts := by
  induction attempts generalizing first with
  | nil => cases h
  | cons attempt rest ih =>
      cases attempt with
      | ok p => exact List.mem_cons_of_mem _ (ih h)
      | error found =>
          obtain rfl : found = fault := Option.some.inj h
          exact List.mem_cons_self

/-- A task that is done stays where it is when another one changes. -/
theorem done_mem_set {tasks : List Task} {host : Nat} {result : Except Fault Response} {old new : Task}
    (hold : tasks[host]? = some old) (hne : old ≠ .done result) (h : .done result ∈ tasks) :
    .done result ∈ tasks.set host new := by
  obtain ⟨place, hplace⟩ := List.mem_iff_getElem?.mp h
  have hother : host ≠ place := by
    rintro rfl
    rw [hold] at hplace
    exact hne (Option.some.inj hplace)
  refine List.mem_of_getElem? (i := place) ?_
  rw [List.getElem?_set_ne hother, hplace]

theorem reached_start (attempts : List (Except Fault Posting)) : Reached attempts [] (start attempts) := by
  have htasks : (start attempts).tasks = tasksAfter attempts [] := (tasksAfter_nil attempts).symm
  refine ⟨?_, ?_, ?_, fun _ => htasks, nofun, nofun, nofun⟩
  · rw [htasks]
    exact map_fresh_tasksAfter attempts []
  · simp [start, completions, answered, arrivals]
  · intro fault hfault
    exact List.mem_map_of_mem (f := Task.ofAttempt) (mem_of_firstFault_unsent hfault)

/-- A failure that reached the call earlier has still reached it. -/
theorem IsWoken.concat {attempts : List (Except Fault Posting)} {steps : List Step} {fault : Fault} {x : Step}
    (h : IsWoken attempts steps fault) (hx : ∀ a, x ≠ .reply a) : IsWoken attempts (steps ++ [x]) fault := by
  obtain ⟨before, after, woken, rfl, hrun, hphase, hfailure, harrivals⟩ := h
  refine ⟨before, after ++ [x], woken, by simp, hrun, hphase, hfailure, ?_⟩
  rw [arrivals_concat _ hx, harrivals]

theorem mapM_response?_eq_some {tasks : List Task} {batch : List Response}
    (h : tasks.mapM Task.response? = some batch) : tasks = batch.map fun response => .done (.ok response) := by
  induction tasks generalizing batch with
  | nil =>
      cases h
      rfl
  | cons task rest ih =>
      rw [List.mapM_cons] at h
      obtain ⟨response, hresponse, h⟩ := Option.bind_eq_some_iff.mp h
      obtain ⟨more, hmore, h⟩ := Option.bind_eq_some_iff.mp h
      cases h
      rw [List.map_cons, ← ih hmore]
      cases task with
      | done result =>
          cases result with
          | ok held =>
              cases hresponse
              rfl
          | error fault => cases hresponse
      | _ => cases hresponse

theorem map_fresh_set {tasks : List Task} {host : Nat} {p : Posting}
    (h : tasks[host]? = some (.stopping p)) : (tasks.set host (.stopped p)).map Task.fresh = tasks.map Task.fresh := by
  apply List.ext_getElem?
  intro place
  rw [List.map_set, List.getElem?_set]
  by_cases hplace : host = place
  · subst hplace
    have hlength : host < tasks.length := (List.getElem?_eq_some_iff.mp h).choose
    rw [if_pos rfl, if_pos (by rwa [List.length_map]), List.getElem?_map, h]
    rfl
  · rw [if_neg hplace, List.getElem?_map]

section

variable {attempts : List (Except Fault Posting)} {steps : List Step} {s s' : State}

theorem reached_reply {a : Arrival} (h : Reached attempts steps s) (hstep : step s (.reply a) = some s') :
    Reached attempts (steps ++ [.reply a]) s' := by
  -- a reply counts while the call gathers, and then the tasks are those after the replies so far
  obtain ⟨hphase, p, htask, rfl⟩ := step_reply hstep
  have htasks := h.gathering hphase
  have hawaited : (tasksAfter attempts (arrivals steps))[a.host]? = some (.awaiting p) := by
    rw [← htasks, htask]
  have hgrown : s.tasks.set a.host (.done (receive p a.reply)) =
      tasksAfter attempts (arrivals (steps ++ [.reply a])) := by
    rw [arrivals_concat_reply, tasksAfter_concat hawaited, htasks]
  refine ⟨?_, ?_, ?_, fun _ => hgrown, ?_, ?_, ?_⟩
  · rw [hgrown, map_fresh_tasksAfter]
  · rw [arrivals_concat_reply, completions_concat _ (awaiting_of_tasksAfter hawaited).1, firstFault_append,
      firstFault_singleton, h.failure]
  · intro fault hfault
    rcases Option.or_eq_some_iff.mp hfault with hold | ⟨-, hnew⟩
    · exact done_mem_set htask nofun (h.failed fault hold)
    · rw [result_of_faultOf hnew]
      exact List.mem_set (List.getElem?_eq_some_iff.mp htask).choose _
  all_goals
    intro outcome hphase'
    rw [hphase] at hphase'
    cases hphase'

theorem reached_wake (hrun : run (start attempts) steps = some s) (h : Reached attempts steps s)
    (hstep : step s .wake = some s') : Reached attempts (steps ++ [.wake]) s' := by
  -- this state is the one that `IsWoken` keeps for the rest of the run
  obtain ⟨hphase, fault, hfailure, rfl⟩ := step_wake hstep
  have harrivals : arrivals (steps ++ [.wake]) = arrivals steps := arrivals_concat steps (by simp)
  refine ⟨?_, ?_, ?_, nofun, ?_, nofun, nofun⟩
  · rw [harrivals, List.map_map, ← h.tasks]
    exact List.map_congr_left fun task _ => Task.fresh_cancel task
  · rw [harrivals]
    exact h.failure
  · intro failure hmem
    exact List.mem_map_of_mem (f := Task.cancel) (h.failed failure hmem)
  · rintro _ ⟨⟩
    refine ⟨⟨steps, [], s, rfl, hrun, hphase, hfailure, harrivals⟩, List.forall_mem_map.mpr ?_⟩
    intro task _
    cases task <;> rfl

theorem reached_halt {host : Nat} (h : Reached attempts steps s) (hstep : step s (.halt host) = some s') :
    Reached attempts (steps ++ [.halt host]) s' := by
  obtain ⟨fault, p, hphase, htask, rfl⟩ := step_halt hstep
  have harrivals : arrivals (steps ++ [.halt host]) = arrivals steps := arrivals_concat steps (by simp)
  refine ⟨?_, ?_, ?_, ?_, ?_, ?_, ?_⟩
  · rw [harrivals, ← h.tasks]
    exact map_fresh_set htask
  · rw [harrivals]
    exact h.failure
  · intro failure hmem
    exact done_mem_set htask nofun (h.failed failure hmem)
  · intro hgathering
    rw [hphase] at hgathering
    cases hgathering
  · intro failure hfailure
    obtain ⟨hwoken, hnone⟩ := h.unwinding failure hfailure
    refine ⟨hwoken.concat (by simp), fun task htask => ?_⟩
    rcases List.mem_or_eq_of_mem_set htask with hold | rfl
    · exact hnone task hold
    · rfl
  all_goals
    intro outcome hphase'
    rw [hphase] at hphase'
    cases hphase'

theorem reached_leave (h : Reached attempts steps s) (hstep : step s .leave = some s') :
    Reached attempts (steps ++ [.leave]) s' := by
  have harrivals : arrivals (steps ++ [.leave]) = arrivals steps := arrivals_concat steps (by simp)
  rcases step_leave hstep with ⟨hphase, batch, hbatch, rfl⟩ | ⟨fault, hphase, hflight, rfl⟩
  · refine ⟨?_, ?_, h.failed, nofun, nofun, ?_, nofun⟩
    · rw [harrivals]
      exact h.tasks
    · rw [harrivals]
      exact h.failure
    · rintro _ ⟨⟩
      exact mapM_response?_eq_some hbatch
  · refine ⟨?_, ?_, h.failed, nofun, nofun, nofun, ?_⟩
    · rw [harrivals]
      exact h.tasks
    · rw [harrivals]
      exact h.failure
    · rintro _ ⟨⟩
      refine ⟨(h.unwinding fault hphase).1.concat (by simp), ?_⟩
      simpa using hflight

/-- Each step keeps what is so after the steps before it. -/
theorem reached_step {x : Step} (hrun : run (start attempts) steps = some s) (h : Reached attempts steps s)
    (hstep : step s x = some s') : Reached attempts (steps ++ [x]) s' := by
  cases x with
  | reply a => exact reached_reply h hstep
  | wake => exact reached_wake hrun h hstep
  | halt host => exact reached_halt h hstep
  | leave => exact reached_leave h hstep

end

/-- Every run keeps it. -/
theorem reached_run {attempts : List (Except Fault Posting)} {steps : List Step} {s : State}
    (h : run (start attempts) steps = some s) : Reached attempts steps s := by
  induction steps using List.reverseRecOn generalizing s with
  | nil =>
      obtain rfl : start attempts = s := Option.some.inj h
      exact reached_start attempts
  | append_singleton steps x ih =>
      rw [run_concat] at h
      obtain ⟨middle, hmiddle, hstep⟩ := Option.bind_eq_some_iff.mp h
      exact reached_step hmiddle (ih hmiddle) hstep

/-! ### The replies of a run -/

/-- The replies of a run are to requests that were sent, one to each at most. -/
theorem arrivals_of_run {attempts : List (Except Fault Posting)} {steps : List Step} {s : State}
    (h : run (start attempts) steps = some s) :
    ((arrivals steps).map (·.host)).Nodup ∧ ∀ a ∈ arrivals steps, ∃ p, attempts[a.host]? = some (.ok p) := by
  induction steps using List.reverseRecOn generalizing s with
  | nil => exact ⟨List.nodup_nil, nofun⟩
  | append_singleton steps x ih =>
      rw [run_concat] at h
      obtain ⟨middle, hmiddle, hstep⟩ := Option.bind_eq_some_iff.mp h
      obtain ⟨hdistinct, hsent⟩ := ih hmiddle
      cases x with
      | reply a =>
          -- only a task that is awaited takes a reply, and its host has none yet
          obtain ⟨hphase, p, htask, -⟩ := step_reply hstep
          rw [(reached_run hmiddle).gathering hphase] at htask
          obtain ⟨hattempt, hfirst⟩ := awaiting_of_tasksAfter htask
          rw [arrivals_concat_reply, List.map_append, List.nodup_append]
          refine ⟨⟨hdistinct, List.nodup_singleton _, ?_⟩, ?_⟩
          · intro host hhost other hother
            obtain ⟨b, hb, rfl⟩ := List.mem_map.mp hhost
            obtain rfl := List.mem_singleton.mp hother
            simpa using List.find?_eq_none.mp hfirst b hb
          · intro b hb
            rcases List.mem_append.mp hb with hold | hnew
            · exact hsent b hold
            · obtain rfl := List.mem_singleton.mp hnew
              exact ⟨p, hattempt⟩
      | _ =>
          rw [arrivals_concat steps (by simp)]
          exact ⟨hdistinct, hsent⟩

/-! ### The length of a run -/

/-- A task that is done is done with what its host completed with. -/
theorem completionOf_of_done {arrivals : List Arrival} {host : Nat} {attempt : Except Fault Posting}
    {result : Except Fault Response} (h : Task.after arrivals host attempt = .done result) :
    completionOf arrivals host attempt = some result := by
  rw [Task.after] at h
  cases hcompletion : completionOf arrivals host attempt with
  | some found =>
      rw [hcompletion] at h
      cases h
      rfl
  | none =>
      rw [hcompletion] at h
      cases attempt with
      | ok p => cases h
      | error fault => cases hcompletion

/-- Where no completion is a fault, a task that is not awaited has succeeded. -/
theorem succeeded_of_tasksAfter {attempts : List (Except Fault Posting)} {arrivals : List Arrival}
    (hfault : firstFault (completions attempts arrivals) = none) {task : Task}
    (htask : task ∈ tasksAfter attempts arrivals) (hawaited : task.awaitedHost? = none) :
    ∃ response, task = .done (.ok response) := by
  obtain ⟨host, hhost⟩ := List.mem_iff_getElem?.mp htask
  rw [getElem?_tasksAfter] at hhost
  obtain ⟨attempt, hattempt, rfl⟩ := Option.map_eq_some_iff.mp hhost
  cases hafter : Task.after arrivals host attempt with
  | done result =>
      have hlookup := lookup_completions attempts arrivals host
      rw [hattempt, Option.bind_some, completionOf_of_done hafter] at hlookup
      obtain ⟨before, after, hcompletions, -⟩ := List.lookup_eq_some_iff.mp hlookup
      have hmem : (host, result) ∈ completions attempts arrivals := by simp [hcompletions]
      obtain ⟨response, hresponse⟩ := firstFault_eq_none_iff.mp hfault _ hmem
      exact ⟨response, congrArg Task.done hresponse⟩
  | awaiting p =>
      rw [hafter] at hawaited
      cases hawaited
  | _ =>
      have hfresh := Task.fresh_after arrivals host attempt
      rw [hafter] at hfresh
      cases hfresh

theorem mapM_response?_of_succeeded {tasks : List Task}
    (h : ∀ task ∈ tasks, ∃ response, task = .done (.ok response)) :
    ∃ batch, tasks.mapM Task.response? = some batch := by
  induction tasks with
  | nil => exact ⟨[], rfl⟩
  | cons task rest ih =>
      obtain ⟨response, rfl⟩ := h task List.mem_cons_self
      obtain ⟨batch, hbatch⟩ := ih fun t ht => h t (List.mem_cons_of_mem _ ht)
      exact ⟨response :: batch, by rw [List.mapM_cons, hbatch]; rfl⟩

/-- A run that has not left the call can go on. -/
theorem exists_step {attempts : List (Except Fault Posting)} {steps : List Step} {s : State}
    (h : Reached attempts steps s) (hleft : ∀ result, s.phase ≠ .left result) : ∃ x, (step s x).isSome = true := by
  cases hphase : s.phase with
  | gathering =>
      cases hfailure : s.failure with
      | some fault => exact ⟨.wake, by rw [step, hphase, hfailure]; rfl⟩
      | none =>
          by_cases hawaited : ∃ task ∈ s.tasks, task.awaitedHost? ≠ none
          · obtain ⟨task, htask, hne⟩ := hawaited
            obtain ⟨host, hhost⟩ := List.mem_iff_getElem?.mp htask
            cases task with
            | awaiting p =>
                refine ⟨.reply ⟨host, .answered 200 (.document .null)⟩, ?_⟩
                rw [step, hphase, hhost]
                rfl
            | _ => exact absurd rfl hne
          · -- nothing is awaited and no failure is kept, so that every task has succeeded
            rw [h.gathering hphase] at hawaited
            have hfault := h.failure.symm.trans hfailure
            obtain ⟨batch, hbatch⟩ := mapM_response?_of_succeeded fun task htask =>
              succeeded_of_tasksAfter hfault htask (by_contra fun hne => hawaited ⟨task, htask, hne⟩)
            refine ⟨.leave, ?_⟩
            rw [step, hphase, h.gathering hphase]
            simp only [hbatch]
            rfl
  | unwinding fault =>
      by_cases hflight : s.tasks.any Task.isInFlight = true
      · obtain ⟨task, htask, hflies⟩ := List.any_eq_true.mp hflight
        have hnone := (h.unwinding fault hphase).2 task htask
        obtain ⟨host, hhost⟩ := List.mem_iff_getElem?.mp htask
        cases task with
        | stopping p => exact ⟨.halt host, by rw [step, hphase, hhost]; rfl⟩
        | awaiting p => cases hnone
        | _ => cases hflies
      · exact ⟨.leave, by rw [step, hphase]; simp only [if_neg hflight]; rfl⟩
  | left result => exact absurd hphase (hleft result)

end SeriesCatalog.FanOut
