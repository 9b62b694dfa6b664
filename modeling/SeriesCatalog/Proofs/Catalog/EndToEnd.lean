import SeriesCatalog.Catalog.Basic
import SeriesCatalog.Proofs.Interpreter.Holdings
import SeriesCatalog.Proofs.Response.Totals
import SeriesCatalog.Proofs.Search.Answers

/-! A query from the replies of all hosts to its outcome. Nothing that the responses hold is lost, repeated or
moved: the payload is what they hold, response after response, the total is their greatest, and the order in
which the hosts answer does not show. -/

namespace SeriesCatalog

/-- A page between two integers has a size. -/
theorem Query.size_of_int {q : Query} {first last : Int} (hfirst : q.first = .int first)
    (hlast : q.last = .int last) : q.size = .ok (.int (last - first)) := by
  rw [size, hfirst, hlast]
  rfl

namespace Interpreter

/-- A batch that is read without a fault makes an outcome of all entries, or none if there is no entry. -/
theorem readBatch_complete {builder : SeriesBuilder} {q : Query} {batch : List Response}
    (h : ∀ r ∈ batch, (readResponse builder q.kind r).fault = none) :
    readBatch builder q batch =
      .ok (if (batch.flatMap fun r => (readResponse builder q.kind r).entries) = [] then none
        else some (.ofEntries q (batch.flatMap fun r => (readResponse builder q.kind r).entries))) := by
  have hconcat : Reading.concat (batch.map (readResponse builder q.kind)) =
      .ofList (batch.flatMap fun r => (readResponse builder q.kind r).entries) := by
    rw [Reading.concat_of_complete (List.forall_mem_map.mpr h), List.flatMap_map]
  rw [readBatch, hconcat, Outcome.absorb_none_ofList]

/-- The entries of a batch are of the sort that the query asks for. -/
theorem belongsTo_of_complete {builder : SeriesBuilder} {kind : QueryKind} {batch : List Response}
    (h : ∀ r ∈ batch, (readResponse builder kind r).fault = none) :
    ∀ e ∈ batch.flatMap (fun r => (readResponse builder kind r).entries), e.belongsTo kind = true := by
  intro e he
  obtain ⟨r, hr, hentry⟩ := List.mem_flatMap.mp he
  exact belongsTo_of_holds (readResponse_holds (h r hr)) e hentry

end Interpreter

namespace Catalog

/-- The outcome that entries and a total make: of kind `data` if there is an entry. -/
def outcomeOf (q : Query) (entries : List Entry) (total : Int) : Outcome :=
  if entries = [] then { Outcome.start .noData (some q) none with total }
  else { Outcome.ofEntries q entries with total }

theorem payload_outcomeOf {q : Query} {entries : List Entry} (total : Int)
    (h : ∀ e ∈ entries, e.belongsTo q.kind = true) : (outcomeOf q entries total).payload = entries := by
  by_cases hempty : entries = []
  · rw [outcomeOf, if_pos hempty, hempty]
    rfl
  · rw [outcomeOf, if_neg hempty, Outcome.payload_total, Outcome.payload_ofEntries q h]

theorem head_outcomeOf (q : Query) (entries : List Entry) (total : Int) :
    (outcomeOf q entries total).head = (if entries = [] then .noData else .data, some q, none, total) := by
  by_cases hempty : entries = []
  · rw [outcomeOf, if_pos hempty, if_pos hempty]
    rfl
  · have hhead := Outcome.head_ofEntries q entries
    simp only [Outcome.head, Prod.mk.injEq] at hhead
    rw [outcomeOf, if_neg hempty, if_neg hempty]
    simp only [Outcome.head, hhead]

theorem kind_outcomeOf (q : Query) (entries : List Entry) (total : Int) :
    ((outcomeOf q entries total).kind = .data ↔ entries ≠ []) ∧
      ((outcomeOf q entries total).kind = .noData ↔ entries = []) := by
  have hkind : (outcomeOf q entries total).kind = if entries = [] then .noData else .data :=
    congrArg Prod.fst (head_outcomeOf q entries total)
  rw [hkind]
  by_cases hempty : entries = []
  · simp [hempty]
  · simp [hempty]

/-- A batch that is read without a fault makes the outcome of its entries. -/
theorem concludeQuery_of_complete {c : Catalog} {q : Query} {batch : List Response} (elapsed : Elapsed)
    (hcomplete : ∀ r ∈ batch, (Interpreter.readResponse c.builder q.kind r).fault = none) :
    (c.concludeQuery elapsed q (.ok batch)).result =
      .ok (outcomeOf q (batch.flatMap fun r => (Interpreter.readResponse c.builder q.kind r).entries)
        (greatestTotal batch)) := by
  simp only [concludeQuery, Interpreter.readBatch_complete hcomplete, outcomeOf]
  by_cases hempty : (batch.flatMap fun r => (Interpreter.readResponse c.builder q.kind r).entries) = []
  · rw [if_pos hempty, if_pos hempty]
    rfl
  · rw [if_neg hempty, if_neg hempty]
    rfl

/-- A query whose search has a batch that is read without a fault has the outcome of its entries. -/
theorem runQuery_of_batch {c : Catalog} {build : RequestBuilder} {search : Submission → Answer} {q : Query}
    {size : Number} {request : Request} {batch : List Response} (elapsed : Elapsed) (trace : Json)
    (hsize : q.size = .ok size) (hbuild : build q = .ok request)
    (hsearch : (search ⟨c.envelope size.toJson request, targetOf q, trace⟩).result = some (.ok batch))
    (hcomplete : ∀ r ∈ batch, (Interpreter.readResponse c.builder q.kind r).fault = none) :
    (c.runQuery build search elapsed q trace).result =
      some (.ok (outcomeOf q (batch.flatMap fun r => (Interpreter.readResponse c.builder q.kind r).entries)
        (greatestTotal batch))) := by
  have hprepare : c.prepareQuery build q size trace = .ok ⟨q, ⟨c.envelope size.toJson request, targetOf q, trace⟩,
      .querySubmitted q.kind (targetOf q) (c.envelope size.toJson request).size⟩ := by
    rw [prepareQuery, hbuild]
    rfl
  rw [runQuery, hsize]
  simp only [hprepare, submit, hsearch, concludeQuery_of_complete elapsed hcomplete]

/-- The entries of a batch are those its responses hold, one response after the other. -/
theorem holds_batch {builder : SeriesBuilder} {kind : QueryKind} {batch : List Response}
    (h : ∀ r ∈ batch, (Interpreter.readResponse builder kind r).fault = none) :
    List.Forall₂ (fun r entries => Interpreter.Holds builder r kind entries) batch
      (batch.map fun r => (Interpreter.readResponse builder kind r).entries) := by
  rw [List.forall₂_map_right_iff, List.forall₂_same]
  exact fun r hr => Interpreter.readResponse_holds (h r hr)

/-- The outcome of a query that all hosts answer is made of what their responses hold, in the order of the
hosts, and does not depend on the order of the answers. -/
theorem runQuery_endToEnd {c : Catalog} {cluster : Cluster} {build : RequestBuilder} {q : Query} {size : Number}
    {request : Request} {responses : List Response} (elapsed : Elapsed) (trace : Json)
    (hsize : q.size = .ok size) (hbuild : build q = .ok request)
    (hreach : cluster.reaches (c.envelope size.toJson request) (targetOf q) = true)
    (hlength : responses.length = cluster.hosts.length)
    (hencodable : ∀ r ∈ responses, r.isEncodable = true)
    (hcomplete : ∀ r ∈ responses, (Interpreter.readResponse c.builder q.kind r).fault = none) :
    ∃ o parts,
      (∀ bodies arrivals, List.Forall₂ Body.Spells bodies responses →
        arrivals.Perm (Cluster.answersOf bodies) →
        (c.runQuery build (fun s => cluster.search s.request s.target arrivals) elapsed q trace).result =
          some (.ok o)) ∧
      List.Forall₂ (fun r entries => Interpreter.Holds c.builder r q.kind entries) responses parts ∧
      o.payload = parts.flatten ∧ IsGreatestTotal responses o.total ∧
      (o.kind = .data ↔ o.payload ≠ []) ∧ (o.kind = .noData ↔ o.payload = []) ∧
      o.query = some q ∧ o.exception = none := by
  have hholds := holds_batch hcomplete
  have hpayload := payload_outcomeOf (greatestTotal responses) (Interpreter.belongsTo_of_complete hcomplete)
  have hhead := head_outcomeOf q
    (responses.flatMap fun r => (Interpreter.readResponse c.builder q.kind r).entries) (greatestTotal responses)
  simp only [Outcome.head, Prod.mk.injEq] at hhead
  obtain ⟨-, hquery, hexception, htotal⟩ := hhead
  obtain ⟨hdata, hnoData⟩ := kind_outcomeOf q
    (responses.flatMap fun r => (Interpreter.readResponse c.builder q.kind r).entries) (greatestTotal responses)
  -- the outcome is fixed before the answers are: no order of them enters it
  refine ⟨_, _, fun bodies arrivals hspells harrivals => ?_, hholds, ?_, ?_, ?_, ?_, hquery, hexception⟩
  · have hsearch := Cluster.search_of_answers hreach hlength hencodable hspells harrivals
    exact runQuery_of_batch elapsed trace hsize hbuild hsearch hcomplete
  · rw [hpayload, List.flatMap_def]
  · rw [htotal]
    exact isGreatestTotal_greatestTotal responses
  · rw [hpayload]
    exact hdata
  · rw [hpayload]
    exact hnoData

/-- Two hosts hold the same metric and answer in the other order; the outcome has both, in the order of the
hosts. -/
theorem runQuery_endToEnd_of_two :
    let c : Catalog := ⟨.null, {}, Series.canonical⟩
    let build : RequestBuilder := fun _ => .ok {}
    let cluster : Cluster := ⟨["http://a", "http://b"], "_meta", "all", true⟩
    let q : Query := ⟨.metrics, "sys", .absent, .int 0, .int 10⟩
    let response (count total : Int) : Response :=
      ⟨total, some [("metric_agg", .nested count [("unique_metrics", .terms [.mk "cpu" count []])])], [], .null⟩
    let arrivals : List Arrival :=
      [⟨1, .answered 200 (.document ((response 5 7).write .valued))⟩,
        ⟨0, .answered 200 (.document ((response 3 9).write .plain))⟩]
    ∃ o, (c.runQuery build (fun s => cluster.search s.request s.target arrivals) {} q .null).result =
        some (.ok o) ∧
      o.payload = [.metric (.str "cpu", .int 3), .metric (.str "cpu", .int 5)] ∧ o.total = 9 ∧ o.kind = .data := by
  intro c build cluster q response arrivals
  have hreach : cluster.reaches (c.envelope (.int 10) {}) (targetOf q) = true := by decide +kernel
  have hcomplete : ∀ r ∈ [response 3 9, response 5 7],
      (Interpreter.readResponse c.builder q.kind r).fault = none :=
    List.forall_mem_cons.mpr ⟨rfl, List.forall_mem_cons.mpr ⟨rfl, nofun⟩⟩
  have hsize : q.size = .ok (.int (10 - 0)) := Query.size_of_int rfl rfl
  have hbuild : build q = .ok {} := rfl
  obtain ⟨o, parts, hrun, hparts, hpayload, htotal, hdata, -⟩ :=
    runQuery_endToEnd {} .null hsize hbuild hreach rfl (by decide) hcomplete
  have hmetrics : o.payload = [.metric (.str "cpu", .int 3), .metric (.str "cpu", .int 5)] := by
    obtain ⟨first, rest, hfirst, hrest, rfl⟩ := List.forall₂_cons_left_iff.mp hparts
    obtain ⟨second, last, hsecond, hlast, rfl⟩ := List.forall₂_cons_left_iff.mp hrest
    obtain rfl := List.forall₂_nil_left_iff.mp hlast
    obtain rfl : first = Interpreter.treeEntries .metrics _ := hfirst
    obtain rfl : second = Interpreter.treeEntries .metrics _ := hsecond
    exact hpayload
  refine ⟨o, hrun [.document ((response 3 9).write .plain), .document ((response 5 7).write .valued)] arrivals ?_ ?_,
    hmetrics, ?_, hdata.mpr ?_⟩
  · exact .cons ⟨.plain, rfl⟩ (.cons ⟨.valued, rfl⟩ .nil)
  · exact List.Perm.swap _ _ _
  · exact htotal.unique (isGreatestTotal_greatestTotal _)
  · rw [hmetrics]
    exact List.cons_ne_nil _ _

end Catalog

end SeriesCatalog
