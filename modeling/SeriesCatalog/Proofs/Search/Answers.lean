import Mathlib.Data.List.Forall2
import SeriesCatalog.Proofs.Response.RoundTrip
import SeriesCatalog.Proofs.Search.Settling

/-! A search whose hosts all answer. When the body of each answer spells a response as a cluster writes it,
the search has exactly these responses in the order of the hosts, in whatever order the answers come in. -/

namespace SeriesCatalog

/-- A body that spells a response as a cluster writes it, with its total stated in one of the two ways. -/
def Body.Spells (b : Body) (r : Response) : Prop := ∃ form, b.read = .ok (r.write form)

namespace Cluster

/-- Every host can be asked, at an address that is absolute. -/
def reaches (c : Cluster) (request : Request) (target : String) : Bool :=
  match request.toBody with
  | .ok body => (c.attempts target body).all fun
    | .ok p => p.address.isAbsolute
    | .error _ => false
  | .error _ => false

/-- An answer with the status 200 from each host, in the order of the hosts. -/
def answersOf (bodies : List Body) : List Arrival :=
  bodies.mapIdx fun host body => ⟨host, .answered 200 body⟩

theorem attempts_of_reaches {c : Cluster} {request : Request} {target : String}
    (h : c.reaches request target = true) :
    ∃ body, request.toBody = .ok body ∧
      ∀ attempt ∈ c.attempts target body, ∃ p, attempt = .ok p ∧ p.address.isAbsolute = true := by
  rw [reaches] at h
  cases hbody : request.toBody with
  | error fault =>
      rw [hbody] at h
      cases h
  | ok body =>
      rw [hbody] at h
      refine ⟨body, rfl, fun attempt hattempt => ?_⟩
      have haddress := List.all_eq_true.mp h attempt hattempt
      cases attempt with
      | ok p => exact ⟨p, rfl, haddress⟩
      | error fault => cases haddress

theorem receive_spelled {p : Posting} {body : Body} {r : Response} (haddress : p.address.isAbsolute = true)
    (hspells : body.Spells r) (hencodable : r.isEncodable = true) : receive p (.answered 200 body) = .ok r := by
  obtain ⟨form, hread⟩ := hspells
  have hresponse : body.read.bind Response.read = .ok r := by
    rw [hread]
    exact Response.read_of_denotes (Response.denotes_write form hencodable)
  rw [receive, haddress, hresponse]
  rfl

/-- An arrival among the answers is the one of its place. -/
theorem eq_of_mem_answersOf {bodies : List Body} {a : Arrival} (h : a ∈ answersOf bodies) :
    ∃ body, bodies[a.host]? = some body ∧ a.reply = .answered 200 body := by
  obtain ⟨host, hhost, rfl⟩ := List.mem_mapIdx.mp h
  exact ⟨bodies[host], List.getElem?_eq_getElem hhost, rfl⟩

theorem mem_answersOf {bodies : List Body} {host : Nat} {body : Body} (h : bodies[host]? = some body) :
    ⟨host, .answered 200 body⟩ ∈ answersOf bodies := by
  obtain ⟨hhost, rfl⟩ := List.getElem?_eq_some_iff.mp h
  exact List.mem_mapIdx.mpr ⟨host, hhost, rfl⟩

/-- The first answer of a host is its only one. -/
theorem find?_answersOf {bodies : List Body} {arrivals : List Arrival} (h : arrivals.Perm (answersOf bodies))
    {host : Nat} {body : Body} (hbody : bodies[host]? = some body) :
    ∃ a, arrivals.find? (·.host == host) = some a ∧ a.reply = .answered 200 body := by
  have hmem := h.mem_iff.mpr (mem_answersOf hbody)
  cases hfound : arrivals.find? (·.host == host) with
  | none => exact absurd (beq_self_eq_true host) (List.find?_eq_none.mp hfound _ hmem)
  | some a =>
      obtain ⟨harrived, hhost⟩ := mem_and_host_of_find? hfound
      obtain ⟨found, hat, hreply⟩ := eq_of_mem_answersOf (h.mem_iff.mp harrived)
      rw [hhost, hbody] at hat
      exact ⟨a, rfl, hreply.trans (by rw [Option.some.inj hat])⟩

/-- A search all of whose hosts answer has their responses, in the order of the hosts. -/
theorem search_of_answers {c : Cluster} {request : Request} {target : String} {bodies : List Body}
    {responses : List Response} {arrivals : List Arrival} (hreach : c.reaches request target = true)
    (hlength : responses.length = c.hosts.length) (hencodable : ∀ r ∈ responses, r.isEncodable = true)
    (hspells : List.Forall₂ Body.Spells bodies responses) (harrivals : arrivals.Perm (answersOf bodies)) :
    (c.search request target arrivals).result = some (.ok responses) := by
  obtain ⟨body, hbody, hattempts⟩ := attempts_of_reaches hreach
  have hsize : (c.attempts target body).length = c.hosts.length := List.length_map _
  have hreceived : ∀ (host : Nat) (p : Posting) (b : Body), (c.attempts target body)[host]? = some (.ok p) →
      bodies[host]? = some b → ∃ r, responses[host]? = some r ∧ receive p (.answered 200 b) = .ok r := by
    intro host p b hp hb
    obtain ⟨hhost, rfl⟩ := List.getElem?_eq_some_iff.mp hb
    have hhost' : host < responses.length := hspells.length_eq ▸ hhost
    obtain ⟨q, hq, haddress⟩ := hattempts _ (List.mem_of_getElem? hp)
    cases hq
    refine ⟨responses[host], List.getElem?_eq_getElem hhost', ?_⟩
    exact receive_spelled haddress (hspells.get hhost hhost') (hencodable _ (List.getElem_mem hhost'))
  have hfault : firstFault (completions (c.attempts target body) arrivals) = none := by
    apply firstFault_eq_none_iff.mpr
    intro done hdone
    obtain ⟨a, ha, p, hp, rfl⟩ := reply_of_mem_completions
      (fun attempt hmem => (hattempts attempt hmem).imp fun _ hp => hp.1) hdone
    obtain ⟨answer, hanswer, hreply⟩ := eq_of_mem_answersOf (harrivals.mem_iff.mp ha)
    obtain ⟨r, -, hr⟩ := hreceived a.host p answer hp hanswer
    rw [hreply]
    exact ⟨r, hr⟩
  rw [search_result target arrivals hbody, ← hsize]
  refine settle_of_responses hfault (hlength.trans hsize.symm) fun host attempt hattempt => ?_
  obtain ⟨p, rfl, -⟩ := hattempts attempt (List.mem_of_getElem? hattempt)
  have hhost : host < bodies.length := by
    rw [hspells.length_eq, hlength, ← hsize]
    exact (List.getElem?_eq_some_iff.mp hattempt).choose
  obtain ⟨a, hfound, hreply⟩ := find?_answersOf harrivals (List.getElem?_eq_getElem hhost)
  obtain ⟨r, hr, hreceive⟩ := hreceived host p _ hattempt (List.getElem?_eq_getElem hhost)
  refine ⟨r, hr, ?_⟩
  rw [completionOf, hfound, Option.map_some, hreply, hreceive]

end Cluster

end SeriesCatalog
