import SeriesCatalog.Proofs.Catalog.Interleaving
import SeriesCatalog.Proofs.Catalog.Scope

/-! What a dispatch posts. Every host has the body of the builder with the size that the dispatch asks for, and with the
timeout of the configuration or of the request where one of them has one; everything else is as the builder made it.
The body is written anew for this, so that the one of the builder stays as it is. -/

namespace SeriesCatalog

/-! ### Sizes -/

theorem Number.lt_int (a b : Int) : Number.lt (.int a) (.int b) = decide (a < b) := by
  simp [Number.lt, Number.toJson, Json.place?, Double.Place.lt]

namespace Query

/-- A page between two integers is one from the first to the last of them, and these are in order. -/
theorem bounds_of_build {kind : QueryKind} {ns : Json} {filter : Filter} {first last : Int} {q : Query}
    (h : build kind ns filter (.int first) (.int last) = .ok q) :
    q.first = .int first ∧ q.last = .int last ∧ first ≤ last := by
  obtain ⟨name, -, h⟩ := Fallible.bind_eq_ok.mp h
  obtain ⟨lower, hlower, h⟩ := Fallible.bind_eq_ok.mp h
  obtain ⟨upper, hupper, h⟩ := Fallible.bind_eq_ok.mp h
  have hbound : ∀ {n : Int} {bound : Number}, readBound (.int n) = .ok bound → bound = .int n := by
    intro n bound h
    rw [readBound, Number.ofJson?] at h
    simp only at h
    split at h
    · cases h
    · exact (Except.ok.inj h).symm
  obtain rfl := hbound hlower
  obtain rfl := hbound hupper
  rw [Number.lt_int] at h
  split at h
  · cases h
  · next horder =>
      cases h
      exact ⟨rfl, rfl, not_lt.mp (by simpa using horder)⟩

end Query

/-- What is asked makes a query and a size for its request: a page between two integers has their difference, and a
source has the size of the configuration. -/
inductive Ask.Makes (c : Catalog) : Ask → Query → Json → Prop
  | page {kind : QueryKind} {ns : Json} {filter : Filter} {first last : Int} {q : Query}
    (h : Query.build kind ns filter (.int first) (.int last) = .ok q) : Makes c (.query q) q (.int (last - first))
  | source {context : Json → Except Fault Filter} {s : Source} {name : MetricName} {q : Query}
    (h : Catalog.sourceQuery context s = .ok (name, q)) : Makes c (.source context s) q c.config.maxResults

/-- A page does not end before it starts. -/
theorem Ask.Makes.nonnegative {c : Catalog} {asked q : Query} {size : Json} (h : Ask.Makes c (.query asked) q size) :
    ∃ n : Int, size = .int n ∧ 0 ≤ n := by
  cases h with
  | page hbuild =>
      obtain ⟨-, -, horder⟩ := Query.bounds_of_build hbuild
      exact ⟨_, rfl, by omega⟩

theorem Ask.Makes.prepare {c : Catalog} {build : RequestBuilder} {ask : Ask} {q : Query} {size : Json} {r : Request}
    (h : ask.Makes c q size) (hbuild : build q = .ok r) (trace : Json) :
    ∃ p, c.prepare build trace ask = .ok p ∧ p.submission.request = c.envelope size r := by
  cases h with
  | @page kind ns filter first last q hquery =>
      obtain ⟨hfirst, hlast, -⟩ := Query.bounds_of_build hquery
      have hprepare : c.prepare build trace (.query q) = c.prepareQuery build q (.int (last - first)) trace :=
        congrArg (· >>= _) (Query.size_of_int hfirst hlast)
      rw [hprepare, Catalog.prepareQuery, hbuild]
      exact ⟨_, rfl, rfl⟩
  | @source context s name q hquery =>
      have hprepare : c.prepare build trace (.source context s) = c.prepareSource build name q trace :=
        congrArg (· >>= _) hquery
      rw [hprepare, Catalog.prepareSource, hbuild]
      exact ⟨_, rfl, rfl⟩

/-! ### Bodies -/

/-- A body is that of the builder but for two names. The size is the one asked for; the timeout is the configured one,
else that of the request, else the one that the body has. -/
structure IsEnveloped (ofConfig ofRequest size : Json) (members posted : Members) : Prop where
  sized : size.isNull = false → posted.lookup "size" = some size
  unsized : size.isNull = true → posted.lookup "size" = members.lookup "size"
  configured : ofConfig.isBlank = false → posted.lookup "timeout" = some ofConfig
  requested : ofConfig.isBlank = true → ofRequest.isBlank = false → posted.lookup "timeout" = some ofRequest
  untimed : ofConfig.isBlank = true → ofRequest.isBlank = true → posted.lookup "timeout" = members.lookup "timeout"
  others : posted.filter (fun entry => entry.1 ≠ "size" && entry.1 ≠ "timeout") =
    members.filter (fun entry => entry.1 ≠ "size" && entry.1 ≠ "timeout")
  once : (posted.map (·.1)).Nodup

theorem Catalog.isEnveloped_sentBody (c : Catalog) (size : Json) (r : Request) {members : Members}
    (hnames : (members.map (·.1)).Nodup) :
    IsEnveloped c.config.queryTimeout r.timeout size members ((c.envelope size r).sentBody members) where
  sized hsize := by
    rw [Request.lookup_sentBody]
    simp [hsize]
  unsized hsize := by
    rw [Request.lookup_sentBody]
    simp [hsize]
  configured hconfigured := by
    rw [Request.lookup_sentBody]
    simp [Json.orElse, hconfigured]
  requested hconfigured hrequested := by
    rw [Request.lookup_sentBody]
    simp [Json.orElse, hconfigured, hrequested]
  untimed hconfigured hrequested := by
    rw [Request.lookup_sentBody]
    simp [Json.orElse, hconfigured, hrequested]
  others := Request.filter_sentBody (p := fun name => name ≠ "size" && name ≠ "timeout") (by decide) (by decide)
  once := Request.nodup_sentBody hnames

namespace Cluster

/-- What is posted of an object is its body as it is sent. -/
theorem body_of_mem_requests {cluster : Cluster} {request : Request} {target : String} {arrivals : List Arrival}
    {members : Members} {p : Posting} (hobject : request.body = .obj members) (hnames : (members.map (·.1)).Nodup)
    (h : p ∈ (cluster.search request target arrivals).requests) : p.body = request.sentBody members := by
  rw [search_requests _ _ (Request.toBody_of_object hobject)] at h
  rw [(FanOut.alike_of_mem_sent h).2.2, Request.named_sentBody hnames]

/-- An open cluster posts to a host that has an address. -/
theorem posting_of_isWritable {cluster : Cluster} {index host : String} {body : List (Json × Json)}
    {address : Address} (hopen : cluster.isOpen = true) (hwritable : Request.isWritable body = true)
    (haddress : Address.read (addressOf host index).toList = .ok address) :
    cluster.posting index body host = .ok ⟨host, index, address, Json.named body⟩ := by
  rw [posting, haddress, hwritable, hopen]
  rfl

/-- An open cluster posts a body that can be written to all hosts, if each of them has an address. -/
theorem map_host_requests {cluster : Cluster} {request : Request} {members : Members} {target : String}
    (arrivals : List Arrival) (hobject : request.body = .obj members) (hopen : cluster.isOpen = true)
    (hmembers : ∀ entry ∈ members, entry.2.isWritable = true) (hsize : request.size.isWritable = true)
    (htimeout : request.timeout.isWritable = true)
    (haddress : ∀ host ∈ cluster.hosts,
      ∃ address, Address.read (addressOf host (cluster.indexFor target)).toList = .ok address) :
    (cluster.search request target arrivals).requests.map (·.host) = cluster.hosts := by
  rw [search_requests _ _ (Request.toBody_of_object hobject)]
  apply FanOut.map_host_sent
  intro host hhost
  obtain ⟨address, hread⟩ := haddress host hhost
  exact ⟨_, posting_of_isWritable hopen (Request.isWritable_sentBody hmembers hsize htimeout) hread⟩

end Cluster

/-! ### Objects -/

/-- The body of an object that the builder does not fill in is never written to, whatever dispatches submit it. -/
theorem Session.body_of_run {n : Nat} {session : Session n} {metrics : Metrics} {turns : List (Session.Turn n)}
    {s : Session.State n} (h : session.run (session.start metrics) turns = some s) {object : Nat}
    (hunfilled : session.pool.body? object = none) : (s.objects object).body = (session.pool.made object).body := by
  obtain ⟨ticks, htogether⟩ := Session.together_run h
  exact htogether.kept.body object hunfilled

namespace Catalog

/-- One request is submitted, with the body of the builder, and every posting has that body in the envelope of the
dispatch. It goes to all hosts that have an address, if its values can be written. An object that the builder hands out
with this body has it still after any dispatches. -/
theorem dispatch_envelope (c : Catalog) (cluster : Cluster) (build : RequestBuilder)
    (arrivals : Submission → List Arrival) (elapsed : Elapsed) (trace : Json) {ask : Ask} {q : Query} {size : Json}
    {r : Request} {members : Members} (hmakes : ask.Makes c q size) (hbuild : build q = .ok r)
    (hobject : r.body = .obj members) (hnames : (members.map (·.1)).Nodup) :
    let search (s : Submission) : Answer := cluster.search s.request s.target (arrivals s)
    (∀ asked, ask = .query asked → ∃ n : Int, size = .int n ∧ 0 ≤ n) ∧
    (∃ s, (c.dispatch build search elapsed trace ask).submissions = [s] ∧ s.request.body = r.body ∧
      (∀ p ∈ (search s).requests, IsEnveloped c.config.queryTimeout r.timeout size members p.body) ∧
      (cluster.isOpen = true →
        (∀ v ∈ size :: r.timeout :: c.config.queryTimeout :: members.map (·.2), v.isWritable = true) →
        (∀ host ∈ cluster.hosts,
          ∃ address, Address.read (Cluster.addressOf host (cluster.indexFor s.target)).toList = .ok address) →
        (search s).requests.map (·.host) = cluster.hosts)) ∧
    ∀ {n : Nat} (session : Session n) (metrics : Metrics) (turns : List (Session.Turn n)) (s : Session.State n)
      (object : Nat), session.run (session.start metrics) turns = some s → session.pool.body? object = none →
      session.pool.made object = r → (s.objects object).body = r.body := by
  intro search
  refine ⟨?_, ?_, ?_⟩
  · rintro asked rfl
    exact hmakes.nonnegative
  · obtain ⟨p, hprepare, hrequest⟩ := hmakes.prepare hbuild trace
    have hbody : p.submission.request.body = .obj members := by
      rw [hrequest, envelope_body, hobject]
    refine ⟨p.submission, ?_, ?_, ?_, ?_⟩
    · rw [dispatch_of_prepared search elapsed hprepare, submissions_submit]
    · rw [hbody, hobject]
    · intro posting hposting
      rw [Cluster.body_of_mem_requests hbody hnames hposting, hrequest]
      exact c.isEnveloped_sentBody size r hnames
    · intro hopen hwritable haddress
      simp only [List.forall_mem_cons, List.forall_mem_map] at hwritable
      obtain ⟨hsize, htimeout, hconfigured, hmembers⟩ := hwritable
      have hchosen : p.submission.request.timeout.isWritable = true := by
        rw [hrequest, envelope_timeout, Json.orElse]
        split
        · exact htimeout
        · exact hconfigured
      exact Cluster.map_host_requests _ hbody hopen hmembers (by rwa [hrequest, envelope_size]) hchosen haddress
  · rintro n session metrics turns s object hrun hunfilled rfl
    exact Session.body_of_run hrun hunfilled

/-- An empty page for a request that has sizes and timeouts of its own, under a configuration without a timeout: both
hosts have the size 0 and the timeout of the request. -/
theorem dispatch_envelope_of_preset :
    let c : Catalog := ⟨.null, { queryTimeout := .str "" }, Series.canonical⟩
    let cluster : Cluster := ⟨["http://a:9200", "http://b:9200"], "-meta", "everything", true⟩
    let q : Query := ⟨.metrics, Text.lower "Sys", .absent, .int 5, .int 5⟩
    let members : Members := [("size", .int 99), ("query", .obj []), ("timeout", .str "1m")]
    let r : Request := ⟨.obj members, .int 7, .str "2s"⟩
    let search (s : Submission) : Answer := cluster.search s.request s.target []
    Ask.Makes c (.query q) q (.int 0) ∧ r.body = .obj members ∧ (members.map (·.1)).Nodup ∧
      ∃ s, (c.dispatch (fun _ => .ok r) search {} .null (.query q)).submissions = [s] ∧ s.request.body = .obj members ∧
        (search s).requests.map (·.host) = cluster.hosts ∧
        ∀ p ∈ (search s).requests,
          p.body.lookup "size" = some (.int 0) ∧ p.body.lookup "timeout" = some (.str "2s") := by
  intro c cluster q members r search
  have hquery : Query.build .metrics (.str "Sys") .absent (.int 5) (.int 5) = .ok q := by
    rw [Query.build, readNamespace_str]
    rfl
  have hmakes : Ask.Makes c (.query q) q (.int 0) := .page hquery
  have hnames : (members.map (·.1)).Nodup := by decide
  obtain ⟨-, ⟨s, hsubmitted, hbody, hposted, heverywhere⟩, -⟩ :=
    dispatch_envelope c cluster (fun _ => .ok r) (fun _ => []) {} .null hmakes rfl rfl hnames
  refine ⟨hmakes, rfl, hnames, s, hsubmitted, hbody, ?_, ?_⟩
  · have hprepare : c.prepare (fun _ => .ok r) .null (.query q) =
        .ok ⟨q, ⟨c.envelope (.int 0) r, targetOf q, .null⟩, .querySubmitted .metrics (targetOf q) (.int 0)⟩ := rfl
    rw [dispatch_of_prepared search {} hprepare, submissions_submit, List.singleton_inj] at hsubmitted
    have hread : ∀ host ∈ cluster.hosts,
        (Address.read (Cluster.addressOf host (cluster.indexFor (targetOf q))).toList).toOption.isSome = true := by
      decide +kernel
    apply heverywhere rfl
    · decide +kernel
    · intro host hhost
      obtain ⟨address, haddress⟩ := Option.isSome_iff_exists.mp (hread host hhost)
      rw [← hsubmitted]
      exact ⟨address, Fallible.eq_ok_of_toOption haddress⟩
  · intro p hp
    exact ⟨(hposted p hp).sized rfl, (hposted p hp).requested rfl rfl⟩

end Catalog

end SeriesCatalog
