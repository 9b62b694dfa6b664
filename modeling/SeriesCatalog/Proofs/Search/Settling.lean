import SeriesCatalog.Search.FanOut

/-! How a search settles, told host by host. The completions are in the order in which they happen, those of
requests that cannot be sent before any reply. What a host completed with can be looked up among them, and
the search has the responses of all hosts in the order of the hosts, or else the fault of the first
completion that is one. -/

namespace SeriesCatalog.Cluster

/-- The completions of a search in their order: requests that cannot be sent, then the replies. -/
def completions (attempts : List (Except Fault Posting)) (arrivals : List Arrival) : List Completion :=
  unsent 0 attempts ++ (answered (sent 0 attempts) arrivals).map fun (p, a) => (a.host, receive p a.reply)

/-- What the host of a place completed with, if it did. -/
def completionOf (arrivals : List Arrival) (host : Nat) : Except Fault Posting → Option (Except Fault Response)
  | .ok p => (arrivals.find? (·.host == host)).map fun a => receive p a.reply
  | .error fault => some (.error fault)

/-! ### Looking up a host -/

theorem mem_and_host_of_find? {arrivals : List Arrival} {host : Nat} {a : Arrival}
    (h : arrivals.find? (·.host == host) = some a) : a ∈ arrivals ∧ a.host = host :=
  ⟨List.mem_of_find?_eq_some h, beq_iff_eq.mp (List.find?_some (p := fun b : Arrival => b.host == host) h)⟩

theorem lookup_sent_below {attempts : List (Except Fault Posting)} {first host : Nat} (h : host < first) :
    (sent first attempts).lookup host = none := by
  induction attempts generalizing first with
  | nil => rfl
  | cons attempt rest ih =>
      cases attempt with
      | ok p => rw [sent, List.lookup_cons, beq_eq_false_iff_ne.mpr (by omega), ih (by omega)]
      | error fault => exact ih (by omega)

theorem lookup_unsent_below {attempts : List (Except Fault Posting)} {first host : Nat} (h : host < first) :
    (unsent first attempts).lookup host = none := by
  induction attempts generalizing first with
  | nil => rfl
  | cons attempt rest ih =>
      cases attempt with
      | ok p => exact ih (by omega)
      | error fault => rw [unsent, List.lookup_cons, beq_eq_false_iff_ne.mpr (by omega), ih (by omega)]

theorem lookup_sent (attempts : List (Except Fault Posting)) (first host : Nat) :
    (sent first attempts).lookup (first + host) = attempts[host]?.bind Except.toOption := by
  induction attempts generalizing first host with
  | nil => rfl
  | cons attempt rest ih =>
      cases host with
      | zero =>
          cases attempt with
          | ok p => simp [sent, Except.toOption]
          | error fault => simpa [sent, Except.toOption] using lookup_sent_below (Nat.lt_succ_self first)
      | succ host =>
          have hnext : first + (host + 1) = first + 1 + host := by omega
          rw [List.getElem?_cons_succ, ← ih (first + 1) host, hnext]
          cases attempt with
          | ok p => rw [sent, List.lookup_cons, beq_eq_false_iff_ne.mpr (by omega)]
          | error fault => rfl

/-- The fault of a request that could not be sent. -/
def refusalOf : Except Fault Posting → Option (Except Fault Response)
  | .ok _ => none
  | .error fault => some (.error fault)

theorem lookup_unsent (attempts : List (Except Fault Posting)) (first host : Nat) :
    (unsent first attempts).lookup (first + host) = attempts[host]?.bind refusalOf := by
  induction attempts generalizing first host with
  | nil => rfl
  | cons attempt rest ih =>
      cases host with
      | zero =>
          cases attempt with
          | ok p => simpa [unsent, refusalOf] using lookup_unsent_below (Nat.lt_succ_self first)
          | error fault => simp [unsent, refusalOf]
      | succ host =>
          have hnext : first + (host + 1) = first + 1 + host := by omega
          rw [List.getElem?_cons_succ, ← ih (first + 1) host, hnext]
          cases attempt with
          | ok p => rfl
          | error fault => rw [unsent, List.lookup_cons, beq_eq_false_iff_ne.mpr (by omega)]

/-- Of several replies from one host the first counts. -/
theorem lookup_answered (asked : List (Nat × Posting)) (arrivals : List Arrival) (host : Nat) :
    ((answered asked arrivals).map fun (p, a) => (a.host, receive p a.reply)).lookup host =
      (asked.lookup host).bind fun p => (arrivals.find? (·.host == host)).map fun a => receive p a.reply := by
  induction arrivals with
  | nil => cases asked.lookup host <;> rfl
  | cons a rest ih =>
      by_cases hhost : a.host = host
      · subst hhost
        cases hasked : asked.lookup a.host with
        | none =>
            rw [hasked] at ih
            simpa [answered, hasked] using ih
        | some p => simp [answered, hasked]
      · have hne : (host == a.host) = false := beq_eq_false_iff_ne.mpr (Ne.symm hhost)
        rw [List.find?_cons_of_neg (by simpa using hhost), ← ih]
        cases hasked : asked.lookup a.host with
        | none => simp [answered, hasked]
        | some p => simp [answered, hasked, List.lookup_cons, hne]

/-- What can be looked up among the completions is what the host of the place completed with. -/
theorem lookup_completions (attempts : List (Except Fault Posting)) (arrivals : List Arrival) (host : Nat) :
    (completions attempts arrivals).lookup host = attempts[host]?.bind (completionOf arrivals host) := by
  have hsent := lookup_sent attempts 0 host
  have hunsent := lookup_unsent attempts 0 host
  rw [Nat.zero_add] at hsent hunsent
  rw [completions, List.lookup_append, lookup_answered, hsent, hunsent]
  cases attempts[host]? with
  | none => rfl
  | some attempt => cases attempt <;> rfl

/-! ### The first fault -/

theorem firstFault_append (before after : List Completion) :
    firstFault (before ++ after) = (firstFault before).or (firstFault after) := by
  induction before with
  | nil => rfl
  | cons completion rest ih =>
      obtain ⟨host, result⟩ := completion
      cases result with
      | ok response => exact ih
      | error fault => rfl

theorem firstFault_eq_none_iff {completions : List Completion} :
    firstFault completions = none ↔ ∀ done ∈ completions, ∃ response, done.2 = .ok response := by
  induction completions with
  | nil => simp [firstFault]
  | cons completion rest ih =>
      obtain ⟨host, result⟩ := completion
      cases result with
      | ok response => simp [firstFault, ih]
      | error fault => simp [firstFault]

/-- The first fault stands behind completions that are all successes. -/
theorem eq_append_of_firstFault {completions : List Completion} {fault : Fault}
    (h : firstFault completions = some fault) :
    ∃ earlier host later, completions = earlier ++ (host, .error fault) :: later ∧
      ∀ done ∈ earlier, ∃ response, done.2 = .ok response := by
  induction completions with
  | nil => cases h
  | cons completion rest ih =>
      obtain ⟨place, result⟩ := completion
      cases result with
      | error first =>
          obtain rfl : first = fault := Option.some.inj h
          exact ⟨[], place, rest, rfl, by simp⟩
      | ok response =>
          obtain ⟨earlier, host, later, rfl, hearlier⟩ := ih h
          exact ⟨(place, .ok response) :: earlier, host, later, rfl,
            List.forall_mem_cons.mpr ⟨⟨response, rfl⟩, hearlier⟩⟩

/-! ### Settling -/

theorem mapM_range {α : Type} {f : Nat → Option α} {xs : List α}
    (h : ∀ i, i < xs.length → f i = xs[i]?) : (List.range xs.length).mapM f = some xs := by
  induction xs generalizing f with
  | nil => rfl
  | cons x rest ih =>
      have hrest : (List.range rest.length).mapM (f ∘ Nat.succ) = some rest :=
        ih fun i hi => h (i + 1) (Nat.succ_lt_succ hi)
      rw [List.length_cons, List.range_succ_eq_map, List.mapM_cons, List.mapM_map, hrest,
        h 0 (Nat.zero_lt_succ _)]
      rfl

theorem responseOf_completions {attempts : List (Except Fault Posting)} {arrivals : List Arrival} {host : Nat}
    {attempt : Except Fault Posting} {response : Response} (hattempt : attempts[host]? = some attempt)
    (h : completionOf arrivals host attempt = some (.ok response)) :
    responseOf (completions attempts arrivals) host = some response := by
  rw [responseOf, lookup_completions, hattempt, Option.bind_some, h]

/-- Without a fault the responses are in the order of the hosts, whatever the order of the completions. -/
theorem settle_of_responses {attempts : List (Except Fault Posting)} {arrivals : List Arrival}
    {batch : List Response} (hfault : firstFault (completions attempts arrivals) = none)
    (hlength : batch.length = attempts.length)
    (h : ∀ host attempt, attempts[host]? = some attempt → ∃ response, batch[host]? = some response ∧
      completionOf arrivals host attempt = some (.ok response)) :
    settle attempts.length (completions attempts arrivals) = some (.ok batch) := by
  have hresponses : (List.range batch.length).mapM (responseOf (completions attempts arrivals)) = some batch := by
    apply mapM_range
    intro host hhost
    obtain ⟨attempt, hattempt⟩ : ∃ attempt, attempts[host]? = some attempt :=
      ⟨_, List.getElem?_eq_getElem (hlength ▸ hhost)⟩
    obtain ⟨response, hresponse, hcompletion⟩ := h host attempt hattempt
    rw [hresponse, responseOf_completions hattempt hcompletion]
  rw [settle, hfault, ← hlength]
  simp only [hresponses, Option.map_some]

theorem settle_of_firstFault {completions : List Completion} {fault : Fault} (hosts : Nat)
    (h : firstFault completions = some fault) : settle hosts completions = some (.error fault) := by
  rw [settle, h]

theorem unsent_eq_nil {attempts : List (Except Fault Posting)} (first : Nat)
    (h : ∀ attempt ∈ attempts, ∃ p, attempt = .ok p) : unsent first attempts = [] := by
  induction attempts generalizing first with
  | nil => rfl
  | cons attempt rest ih =>
      obtain ⟨p, rfl⟩ := h attempt List.mem_cons_self
      exact ih (first + 1) fun a ha => h a (List.mem_cons_of_mem _ ha)

/-- Where every request can be sent, every completion is that of a reply. -/
theorem reply_of_mem_completions {attempts : List (Except Fault Posting)} {arrivals : List Arrival}
    {done : Completion} (hattempts : ∀ attempt ∈ attempts, ∃ p, attempt = .ok p)
    (h : done ∈ completions attempts arrivals) :
    ∃ a ∈ arrivals, ∃ p, attempts[a.host]? = some (.ok p) ∧ done = (a.host, receive p a.reply) := by
  rw [completions, unsent_eq_nil 0 hattempts, List.nil_append] at h
  obtain ⟨⟨p, a⟩, hanswered, rfl⟩ := List.mem_map.mp h
  obtain ⟨b, hb, hasked⟩ := List.mem_filterMap.mp hanswered
  obtain ⟨q, hq, hpair⟩ := Option.map_eq_some_iff.mp hasked
  cases hpair
  have hlookup := lookup_sent attempts 0 a.host
  rw [Nat.zero_add, hq] at hlookup
  obtain ⟨attempt, hattempt, hsome⟩ := Option.bind_eq_some_iff.mp hlookup.symm
  obtain ⟨r, rfl⟩ := hattempts attempt (List.mem_of_getElem? hattempt)
  cases hsome
  exact ⟨a, hb, p, hattempt, rfl⟩

/-- A reply to a request that was sent completes its host. -/
theorem mem_completions {attempts : List (Except Fault Posting)} {replies : List Arrival} {a : Arrival} {p : Posting}
    (ha : a ∈ replies) (hp : attempts[a.host]? = some (.ok p)) :
    (a.host, receive p a.reply) ∈ completions attempts replies := by
  have hasked := lookup_sent attempts 0 a.host
  rw [Nat.zero_add, hp] at hasked
  refine List.mem_append_right _ (List.mem_map.mpr ⟨(p, a), ?_, rfl⟩)
  exact List.mem_filterMap.mpr ⟨a, ha, by rw [hasked]; rfl⟩

/-- The requests that are sent are those that can be, in the order of the hosts. -/
theorem map_sent (attempts : List (Except Fault Posting)) (first : Nat) :
    (sent first attempts).map (·.2) = attempts.filterMap Except.toOption := by
  induction attempts generalizing first with
  | nil => rfl
  | cons attempt rest ih =>
      cases attempt with
      | ok p => exact congrArg (p :: ·) (ih (first + 1))
      | error fault => exact ih (first + 1)

/-! ### The answer -/

section

variable {c : Cluster} {request : Request} {body : List (Json × Json)} (target : String) (arrivals : List Arrival)

theorem search_result (h : request.toBody = .ok body) :
    (c.search request target arrivals).result =
      settle c.hosts.length (completions (c.attempts target body) arrivals) := by
  simp only [search, h]
  rfl

theorem search_requests (h : request.toBody = .ok body) :
    (c.search request target arrivals).requests = (c.attempts target body).filterMap Except.toOption := by
  rw [← map_sent _ 0]
  simp only [search, h]
  rfl

end

end SeriesCatalog.Cluster
