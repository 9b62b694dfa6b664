import SeriesCatalog.Proofs.Catalog.Routing
import SeriesCatalog.Proofs.Search.Address
import SeriesCatalog.Proofs.Search.FanOut
import SeriesCatalog.Proofs.Text.Lower

/-! Which index a catalog asks. Every host is asked for the index of the namespace, its lower case with the suffix, and
a list of namespaces is asked of the index of all of them. That index has no channel of its own: the target that stands
for it is a text like any namespace, so that whatever is asked about the namespace of that name goes there as well. -/

namespace SeriesCatalog

namespace Ask

/-- A query that lists namespaces. -/
def Lists : Ask → Prop
  | .query q => q.kind = .namespaces
  | .source _ _ => False

/-- What is asked is about the namespace that the caller spells so: a query is built with it, and the metric of a
source has it before its first dot. -/
def IsFor (ns : String) : Ask → Prop
  | .query q => ∃ kind filter first last, Query.build kind (.str ns) filter first last = .ok q
  | .source _ s => ∃ metric, s.metric = .str (ns ++ "." ++ metric) ∧ '.' ∉ ns.toList ∧ ns ≠ "" ∧ metric ≠ ""

end Ask

theorem Query.namespaceName_of_build {kind : QueryKind} {ns : String} {filter : Filter} {first last : Json} {q : Query}
    (h : Query.build kind (.str ns) filter first last = .ok q) : q.namespaceName = Text.lower ns := by
  obtain ⟨name, hname, h⟩ := Fallible.bind_eq_ok.mp h
  obtain ⟨lower, -, h⟩ := Fallible.bind_eq_ok.mp h
  obtain ⟨upper, -, h⟩ := Fallible.bind_eq_ok.mp h
  rw [Catalog.readNamespace_str] at hname
  cases hname
  split at h
  · cases h
  · cases h
    rfl

theorem MetricName.ofText?_dotted {ns metric : String} (hdot : '.' ∉ ns.toList) (hns : ns ≠ "")
    (hmetric : metric ≠ "") :
    MetricName.ofText? (ns ++ "." ++ metric) = some ⟨Text.lower ns, Text.lower metric⟩ := by
  have hsplit : Text.splitFirst? '.' (ns ++ "." ++ metric) = some (ns, metric) := by
    have hchars : (ns ++ "." ++ metric).toList = ns.toList ++ '.' :: metric.toList := by simp
    rw [Text.splitFirst?, hchars, Text.cut?_append _ hdot]
    simp
  rw [ofText?, hsplit]
  simp [hns, hmetric]

namespace Catalog

variable {c : Catalog} {build : RequestBuilder} {trace : Json} {ask : Ask} {ns : String}

/-- The target of what is asked about a namespace. -/
theorem target_of_prepare {p : Prepared} (h : c.prepare build trace ask = .ok p) (hfor : ask.IsFor ns) :
    p.submission.target = allNamespaces ∧ ask.Lists ∨ p.submission.target = Text.lower ns ∧ ¬ask.Lists := by
  cases ask with
  | query q =>
      obtain ⟨kind, filter, first, last, hbuild⟩ := hfor
      obtain ⟨size, request, -, -, rfl⟩ := prepare_query_eq_ok h
      show targetOf q = _ ∧ q.kind = _ ∨ targetOf q = _ ∧ ¬q.kind = _
      unfold targetOf
      by_cases hlists : q.kind = .namespaces
      · exact .inl ⟨if_pos hlists, hlists⟩
      · refine .inr ⟨?_, hlists⟩
        rw [if_neg hlists, Query.namespaceName_of_build hbuild, Text.lower_lower]
  | source context s =>
      obtain ⟨metric, hmetric, hdot, hns, hsome⟩ := hfor
      obtain ⟨name, q, request, hquery, -, rfl⟩ := prepare_source_eq_ok h
      have hname : MetricName.read s.metric = .ok name := by
        rw [sourceQuery_eq] at hquery
        obtain ⟨read, hread, hquery⟩ := Fallible.bind_eq_ok.mp hquery
        obtain ⟨filter, -, hquery⟩ := Fallible.bind_eq_ok.mp hquery
        cases hquery
        exact hread
      rw [hmetric, read_of_ofText? (MetricName.ofText?_dotted hdot hns hsome)] at hname
      cases hname
      exact .inr ⟨rfl, fun h => h⟩

/-- Nothing is submitted but what is prepared. -/
theorem prepare_of_mem_submissions {search : Submission → Answer} {elapsed : Elapsed} {s : Submission}
    (h : s ∈ (c.dispatch build search elapsed trace ask).submissions) :
    ∃ p, c.prepare build trace ask = .ok p ∧ p.submission = s := by
  cases hprepare : c.prepare build trace ask with
  | error fault =>
      obtain ⟨built, hrefused⟩ := dispatch_of_refusal search elapsed hprepare
      rw [hrefused] at h
      cases h
  | ok p =>
      rw [dispatch_of_prepared search elapsed hprepare, submissions_submit] at h
      exact ⟨p, rfl, (List.mem_singleton.mp h).symm⟩

end Catalog

/-! ### Postings -/

/-- Where the postings of a submission go. There is one index for all of them, which stands in the address of each
host; one posting goes to each host if all can be sent. -/
structure IsScoped (cluster : Cluster) (ns : String) (ask : Ask) (s : Submission) (posted : List Posting) : Prop where
  sentinel : s.target = allNamespaces ↔ ask.Lists ∨ Text.lower ns = allNamespaces
  wide : ask.Lists ∨ Text.lower ns = allNamespaces → ∀ p ∈ posted, p.index = cluster.allIndex
  narrow : ¬ask.Lists → Text.lower ns ≠ allNamespaces →
    ∀ p ∈ posted, p.index = Text.lower ns ++ cluster.indexSuffix
  address : ∀ p ∈ posted, p.host ∈ cluster.hosts ∧
    Address.read (Cluster.addressOf p.host p.index).toList = .ok p.address
  path : ∀ p ∈ posted, Address.IsBare p.host → Address.IsSegment p.index → p.address.path = Address.pathOf p.index
  everywhere : ∀ body, s.request.toBody = .ok body →
    (∀ host ∈ cluster.hosts, ∃ p, cluster.posting (cluster.indexFor s.target) body host = .ok p) →
      posted.map (·.host) = cluster.hosts

theorem Cluster.address_of_posting {cluster : Cluster} {index host : String} {body : List (Json × Json)} {p : Posting}
    (h : cluster.posting index body host = .ok p) : Address.read (addressOf p.host p.index).toList = .ok p.address := by
  obtain ⟨hhost, hindex, -⟩ := FanOut.posting_eq_ok h
  obtain ⟨address, haddress, h⟩ := Fallible.bind_eq_ok.mp h
  rw [hhost, hindex, haddress]
  split at h
  · cases h
  · split at h
    · cases h
    · cases h
      rfl

/-- The postings of a search name its index, each at the address of its host. -/
theorem Cluster.of_mem_requests {cluster : Cluster} {request : Request} {target : String} {arrivals : List Arrival}
    {p : Posting} (h : p ∈ (cluster.search request target arrivals).requests) :
    p.host ∈ cluster.hosts ∧ p.index = cluster.indexFor target ∧
      Address.read (addressOf p.host p.index).toList = .ok p.address := by
  cases hbody : request.toBody with
  | error fault =>
      simp only [search, hbody] at h
      cases h
  | ok body =>
      rw [search_requests target arrivals hbody] at h
      obtain ⟨attempt, hattempt, hsome⟩ := List.mem_filterMap.mp h
      obtain ⟨host, hhost, rfl⟩ := List.mem_map.mp hattempt
      have hposting := Fallible.eq_ok_of_toOption hsome
      obtain ⟨rfl, hindex, -⟩ := FanOut.posting_eq_ok hposting
      exact ⟨hhost, hindex, address_of_posting hposting⟩

theorem Cluster.indexFor_sentinel (cluster : Cluster) : cluster.indexFor allNamespaces = cluster.allIndex :=
  if_pos rfl

theorem Cluster.indexFor_of_ne {cluster : Cluster} {target : String} (h : target ≠ allNamespaces) :
    cluster.indexFor target = target ++ cluster.indexSuffix :=
  if_neg h

namespace Catalog

variable {c : Catalog} {build : RequestBuilder} {trace : Json} {ask : Ask} {ns : String}

theorem isScoped_of_prepare {p : Prepared} (cluster : Cluster) (arrivals : List Arrival)
    (hprepare : c.prepare build trace ask = .ok p) (hfor : ask.IsFor ns) :
    IsScoped cluster ns ask p.submission
      (cluster.search p.submission.request p.submission.target arrivals).requests := by
  have hsentinel : p.submission.target = allNamespaces ↔ ask.Lists ∨ Text.lower ns = allNamespaces := by
    rcases target_of_prepare hprepare hfor with ⟨htarget, hlists⟩ | ⟨htarget, hlists⟩
    · simp [htarget, hlists]
    · simp [htarget, hlists]
  exact {
    sentinel := hsentinel
    wide := by
      intro hwide posting hposting
      rw [(Cluster.of_mem_requests hposting).2.1, hsentinel.mpr hwide]
      exact cluster.indexFor_sentinel
    narrow := by
      intro hlists hname posting hposting
      rcases target_of_prepare hprepare hfor with ⟨-, hlists'⟩ | ⟨htarget, -⟩
      · exact absurd hlists' hlists
      · rw [(Cluster.of_mem_requests hposting).2.1, htarget]
        exact Cluster.indexFor_of_ne hname
    address := by
      intro posting hposting
      obtain ⟨hhost, -, haddress⟩ := Cluster.of_mem_requests hposting
      exact ⟨hhost, haddress⟩
    path := by
      intro posting hposting hbare hsegment
      exact Address.path_of_isSegment hbare hsegment (Cluster.of_mem_requests hposting).2.2
    everywhere := by
      intro body hbody hsent
      rw [Cluster.search_requests _ _ hbody]
      exact FanOut.map_host_sent hsent }

/-- Whatever is submitted for a namespace is posted where it belongs. -/
theorem isScoped_of_mem_submissions (cluster : Cluster) (arrivals : List Arrival) {search : Submission → Answer}
    {elapsed : Elapsed} {s : Submission} (h : s ∈ (c.dispatch build search elapsed trace ask).submissions)
    (hfor : ask.IsFor ns) :
    IsScoped cluster ns ask s (cluster.search s.request s.target arrivals).requests := by
  obtain ⟨p, hprepare, rfl⟩ := prepare_of_mem_submissions h
  exact isScoped_of_prepare cluster arrivals hprepare hfor

/-- A catalog over a cluster asks the index of the namespace, unless it lists namespaces or the namespace is named like
the target of all of them. So the indexes of two namespaces are the same if the namespaces are, or if one of them is
named so and the other one has the index of all of them for its own. -/
theorem dispatch_scope (c : Catalog) (cluster : Cluster) (build build' : RequestBuilder)
    (arrivals arrivals' : Submission → List Arrival) (elapsed elapsed' : Elapsed) (trace trace' : Json)
    {ask ask' : Ask} {ns ns' : String} (hfor : ask.IsFor ns) (hfor' : ask'.IsFor ns') :
    let search (arrivals : Submission → List Arrival) (s : Submission) : Answer :=
      cluster.search s.request s.target (arrivals s)
    let submitted := (c.dispatch build (search arrivals) elapsed trace ask).submissions
    let submitted' := (c.dispatch build' (search arrivals') elapsed' trace' ask').submissions
    (∀ s ∈ submitted, IsScoped cluster ns ask s (search arrivals s).requests) ∧
      (¬ask.Lists → ¬ask'.Lists → ∀ s ∈ submitted, ∀ s' ∈ submitted',
        ∀ p ∈ (search arrivals s).requests, ∀ p' ∈ (search arrivals' s').requests,
          (p.index = p'.index ↔
            Text.lower ns = Text.lower ns' ∨
              Text.lower ns = allNamespaces ∧ Text.lower ns' ++ cluster.indexSuffix = cluster.allIndex ∨
              Text.lower ns' = allNamespaces ∧ Text.lower ns ++ cluster.indexSuffix = cluster.allIndex)) := by
  intro search submitted submitted'
  refine ⟨fun s hs => isScoped_of_mem_submissions cluster _ hs hfor, ?_⟩
  intro hlists hlists' s hs s' hs' p hp p' hp'
  have hfirst := isScoped_of_mem_submissions cluster (arrivals s) hs hfor
  have hsecond := isScoped_of_mem_submissions cluster (arrivals' s') hs' hfor'
  by_cases hname : Text.lower ns = allNamespaces
  · rw [hfirst.wide (.inr hname) p hp]
    by_cases hname' : Text.lower ns' = allNamespaces
    · rw [hsecond.wide (.inr hname') p' hp']
      simp [hname, hname']
    · rw [hsecond.narrow hlists' hname' p' hp']
      simp [hname, hname', Ne.symm hname', eq_comm]
  · rw [hfirst.narrow hlists hname p hp]
    by_cases hname' : Text.lower ns' = allNamespaces
    · rw [hsecond.wide (.inr hname') p' hp']
      simp [hname, hname']
    · rw [hsecond.narrow hlists' hname' p' hp']
      simp [hname, hname']

/-- A namespace in two spellings, once for a query and once for a source, and a namespace that is named like the target
of all of them: the first two go to one index, which stands in the address; the last one goes to that of all. -/
theorem dispatch_scope_of_three :
    let c : Catalog := ⟨.null, {}, Series.canonical⟩
    let cluster : Cluster := ⟨["http://a:9200"], "-meta", "everything", true⟩
    let build : RequestBuilder := fun _ => .ok {}
    let metrics (ns : String) : Ask := .query ⟨.metrics, Text.lower ns, .absent, .int 0, .int 10⟩
    let source : Ask := .source (fun _ => .ok .absent) { metric := .str "SYS.cpu" }
    let search (s : Submission) : Answer := cluster.search s.request s.target []
    let posted (ask : Ask) : List Posting :=
      (c.dispatch build search {} .null ask).submissions.flatMap fun s => (search s).requests
    (posted (metrics "Sys")).length = 1 ∧ (posted source).length = 1 ∧ (posted (metrics "All_Namespace")).length = 1 ∧
      (∀ p ∈ posted (metrics "Sys"), p.index = "sys-meta" ∧ p.address.path = "/sys-meta/_search".toList) ∧
      (∀ p ∈ posted (metrics "All_Namespace"), p.index = "everything") ∧
      (∀ p ∈ posted (metrics "Sys"), ∀ p' ∈ posted source, p.index = p'.index) ∧
      (∀ p ∈ posted (metrics "Sys"), ∀ p' ∈ posted (metrics "All_Namespace"), p.index ≠ p'.index) := by
  have hbare : Address.IsBare "http://a:9200" :=
    ⟨"http".toList, "a:9200".toList, rfl, by decide, by decide, by decide⟩
  have hsegment : Address.IsSegment "sys-meta" := ⟨by decide +kernel, by decide +kernel⟩
  intro c cluster build metrics source search posted
  have hlower : Text.lower "Sys" = "sys" := by decide +kernel
  have hmetrics : ∀ ns, ns ≠ "" → (metrics ns).IsFor ns := by
    intro ns hns
    refine ⟨.metrics, .absent, .int 0, .int 10, ?_⟩
    rw [Query.build, readNamespace_str]
    rfl
  have hsource : source.IsFor "SYS" := ⟨"cpu", rfl, by decide, by decide, by decide⟩
  have hlaw := dispatch_scope c cluster build build (fun _ => []) (fun _ => []) {} {} .null .null
    (hmetrics "Sys" (by decide)) hsource
  have hother := dispatch_scope c cluster build build (fun _ => []) (fun _ => []) {} {} .null .null
    (hmetrics "All_Namespace" (by decide)) (hmetrics "Sys" (by decide))
  refine ⟨by decide +kernel, by decide +kernel, by decide +kernel, ?_, ?_, ?_, ?_⟩
  · intro p hp
    obtain ⟨s, hs, hp⟩ := List.mem_flatMap.mp hp
    have hindex : p.index = "sys-meta" := by
      rw [(hlaw.1 s hs).narrow nofun (by decide +kernel) p hp, hlower]
      rfl
    have hhost : p.host = "http://a:9200" := List.mem_singleton.mp ((hlaw.1 s hs).address p hp).1
    refine ⟨hindex, ?_⟩
    rw [(hlaw.1 s hs).path p hp (hhost ▸ hbare) (hindex ▸ hsegment), hindex]
    decide +kernel
  · intro p hp
    obtain ⟨s, hs, hp⟩ := List.mem_flatMap.mp hp
    exact (hother.1 s hs).wide (.inr (by decide +kernel)) p hp
  · intro p hp p' hp'
    obtain ⟨s, hs, hp⟩ := List.mem_flatMap.mp hp
    obtain ⟨s', hs', hp'⟩ := List.mem_flatMap.mp hp'
    exact (hlaw.2 nofun (fun h => h) s hs s' hs' p hp p' hp').mpr (.inl (by decide +kernel))
  · intro p hp p' hp' hsame
    obtain ⟨s, hs, hp⟩ := List.mem_flatMap.mp hp
    obtain ⟨s', hs', hp'⟩ := List.mem_flatMap.mp hp'
    rcases (hother.2 nofun nofun s' hs' s hs p' hp' p hp).mp hsame.symm with hname | ⟨-, hindex⟩ | ⟨hname, -⟩
    · exact absurd hname (by decide +kernel)
    · exact absurd hindex (by decide +kernel)
    · exact absurd hname (by decide +kernel)

/-- Metrics of a namespace are asked of the index of all namespaces. -/
theorem not_forall_narrow :
    ¬∀ (c : Catalog) (cluster : Cluster) (build : RequestBuilder) (arrivals : Submission → List Arrival)
        (elapsed : Elapsed) (trace : Json) (ask : Ask) (ns : String), ask.IsFor ns → ¬ask.Lists →
      ∀ s ∈ (c.dispatch build (fun s => cluster.search s.request s.target (arrivals s)) elapsed trace ask).submissions,
        ∀ p ∈ (cluster.search s.request s.target (arrivals s)).requests,
          p.index = Text.lower ns ++ cluster.indexSuffix := by
  intro h
  let c : Catalog := ⟨.null, {}, Series.canonical⟩
  let cluster : Cluster := ⟨["http://a"], "-meta", "everything", true⟩
  let build : RequestBuilder := fun _ => .ok {}
  let ask : Ask := .query ⟨.metrics, Text.lower "all_namespace", .absent, .int 0, .int 10⟩
  let search (s : Submission) : Answer := cluster.search s.request s.target []
  have hfor : ask.IsFor "all_namespace" := by
    refine ⟨.metrics, .absent, .int 0, .int 10, ?_⟩
    rw [Query.build, readNamespace_str]
    rfl
  have hlists : ¬ask.Lists := by
    intro hlists
    cases hlists
  have hindexes : ((c.dispatch build search {} .null ask).submissions.flatMap fun s =>
      (search s).requests.map (·.index)) = ["everything"] := by decide +kernel
  have hmem : "everything" ∈ (c.dispatch build search {} .null ask).submissions.flatMap fun s =>
      (search s).requests.map (·.index) := by
    rw [hindexes]
    exact List.mem_singleton_self _
  obtain ⟨s, hs, hindex⟩ := List.mem_flatMap.mp hmem
  obtain ⟨p, hp, heverything⟩ := List.mem_map.mp hindex
  have hnarrow := h c cluster build (fun _ => []) {} .null ask "all_namespace" hfor hlists s hs p hp
  rw [heverything] at hnarrow
  exact absurd hnarrow (by decide +kernel)

end Catalog

end SeriesCatalog
