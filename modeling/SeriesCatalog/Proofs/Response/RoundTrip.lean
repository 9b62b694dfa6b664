import SeriesCatalog.Proofs.Aggregation.RoundTrip
import SeriesCatalog.Proofs.Fallible
import SeriesCatalog.Response.Writer

/-! Reading a response from whatever denotes it gives the response. What a typed reply says of a response is told
without a reader: a total stated in one of the two ways, one object for each document, and aggregations that are
null, absent or a tree, which may be empty. Each way to write a response denotes it. -/

namespace SeriesCatalog.Response

open Aggregation

/-- A response that a typed reply can hold: its tree can be written, and its documents are objects. -/
def isEncodable (r : Response) : Bool :=
  (match r.aggregations with
    | some subs => Aggregation.hasDistinctNames subs && Aggregation.areEncodable subs
    | none => true) && r.hits.all (·.source.isObject)

/-- A total is stated plainly or as the value of an object. -/
inductive DenotesTotal : Json → Int → Prop
  | plain (total : Int) : DenotesTotal (.int total) total
  | valued {members : Members} {total : Int} (hdistinct : AreDistinct members)
      (hvalue : members.lookup "value" = some (.int total)) : DenotesTotal (.obj members) total

/-- An object with a source denotes a document. Without an id, the id is null. -/
inductive DenotesHit : Json → Hit → Prop
  | mk {members source : Members} (hdistinct : AreDistinct members)
      (hsource : members.lookup "_source" = some (.obj source)) :
      DenotesHit (.obj members) ⟨.obj source, (members.lookup "_id").getD .null⟩

/-- A member that is absent or null denotes no aggregations, and an object denotes a tree. -/
inductive DenotesAggregations : Option Json → Option Aggregations → Prop
  | absent : DenotesAggregations none none
  | null : DenotesAggregations (some .null) none
  | tree {members : Members} {subs : Aggregations} (h : DenotesTree members subs) :
      DenotesAggregations (some (.obj members)) (some subs)

/-- The document of a reply denotes a response. Members that it holds beside these say nothing. -/
inductive Denotes : Json → Response → Prop
  | reply {members hits : Members} {items : List Json} {stated : Json} {r : Response}
      (hdistinct : AreDistinct members) (hhits : members.lookup "hits" = some (.obj hits))
      (hinner : AreDistinct hits) (hstated : hits.lookup "total" = some stated)
      (htotal : DenotesTotal stated r.total) (hitems : hits.lookup "hits" = some (.arr items))
      (hfound : List.Forall₂ DenotesHit items r.hits)
      (haggregations : DenotesAggregations (members.lookup "aggregations") r.aggregations)
      (htook : (members.lookup "took").getD .null = r.took) : Denotes (.obj members) r

/-! ### Reading -/

theorem orElse_int (n : Int) : (Json.int n).orElse (.int 0) = .int n := by
  by_cases h : n = 0 <;> simp [Json.orElse, Json.isBlank, h]

theorem items_orElse (items : List Json) : ((Json.arr items).orElse (.arr [])).items = .ok items := by
  cases items <;> rfl

theorem orElse_obj (members : Members) : (Json.obj members).orElse (.obj []) = .obj members := by
  cases members <;> rfl

theorem readTotal_of_denotes {hits : Members} {stated : Json} {total : Int}
    (hstated : hits.lookup "total" = some stated) (h : DenotesTotal stated total) :
    readTotal (.obj hits) = .ok total := by
  cases h with
  | plain => simp [readTotal, hstated, bind, Except.bind, orElse_int, Json.integer]
  | valued _ hvalue => simp [readTotal, hstated, hvalue, bind, Except.bind, orElse_int, Json.integer]

theorem readHit_of_denotes {item : Json} {hit : Hit} (h : DenotesHit item hit) : readHit item = .ok hit := by
  cases h with
  | mk _ hsource =>
      rw [readHit, Json.member_obj, Json.member_obj, hsource]
      simp only [bind, Except.bind, Option.getD_some, orElse_obj]

theorem readAggregations_of_denotes {raw : Option Json} {subs : Option Aggregations}
    (h : DenotesAggregations raw subs) : readAggregations (raw.getD .null) = .ok subs := by
  cases h with
  | absent => rfl
  | null => rfl
  | tree h =>
      rw [Option.getD_some, readAggregations, read_of_denotes h]
      · rfl
      · simp

theorem read_of_denotes {payload : Json} {r : Response} (h : Denotes payload r) : read payload = .ok r := by
  cases h with
  | reply _ hhits _ hstated htotal hitems hfound haggregations htook =>
      have hread := Fallible.mapM_eq_ok.mpr (hfound.imp fun _ _ => readHit_of_denotes)
      rw [read, Json.member_obj, hhits, Json.member_obj, Json.member_obj, htook]
      simp only [bind, Except.bind, Option.getD_some, orElse_obj, readTotal_of_denotes hstated htotal,
        readAggregations_of_denotes haggregations, Json.member_obj, hitems, items_orElse, hread]

/-! ### Writing -/

theorem denotesTotal_writeTotal (total : Int) (form : TotalForm) : DenotesTotal (writeTotal total form) total := by
  cases form with
  | plain => exact .plain total
  | valued => exact .valued (List.pairwise_singleton _ "value") rfl

theorem denotesHit_writeHit {hit : Hit} (h : hit.source.isObject = true) : DenotesHit (writeHit hit) hit := by
  obtain ⟨source, id⟩ := hit
  cases source with
  | obj members =>
      have hdistinct : AreDistinct [("_id", id), ("_source", .obj members)] := by simp [AreDistinct]
      exact .mk hdistinct rfl
  | _ => cases h

theorem denotesAggregations_writeAggregations {subs : Option Aggregations}
    (h : ∀ tree ∈ subs, hasDistinctNames tree = true ∧ areEncodable tree = true) :
    DenotesAggregations (some (writeAggregations subs)) subs := by
  cases subs with
  | none => exact .null
  | some tree => exact .tree (denotesTree_writeMembers (h tree rfl).1 (h tree rfl).2)

theorem denotes_write {r : Response} (form : TotalForm) (h : r.isEncodable = true) : Denotes (write form r) r := by
  obtain ⟨total, aggregations, hits, took⟩ := r
  simp only [isEncodable, Bool.and_eq_true, List.all_eq_true] at h
  have hfound : List.Forall₂ DenotesHit (hits.map writeHit) hits :=
    List.forall₂_map_left_iff.mpr (List.forall₂_same.mpr fun hit hhit => denotesHit_writeHit (h.2 hit hhit))
  have htree : ∀ tree ∈ aggregations, hasDistinctNames tree = true ∧ areEncodable tree = true := by
    intro tree htree
    cases htree
    simpa using h.1
  exact .reply (by simp [AreDistinct]) rfl (by simp [AreDistinct]) rfl (denotesTotal_writeTotal total form) rfl hfound
    (denotesAggregations_writeAggregations htree) rfl

/-- A response that a typed reply can hold is given back by every reply that denotes it, those that are written
among them: the same tree with its counts and the order of its buckets, the same documents and total, and null
apart from an empty tree. -/
theorem read_exact (r : Response) :
    (r.isEncodable = true → ∀ form, Denotes (write form r) r ∧ read (write form r) = .ok r) ∧
      ∀ payload, Denotes payload r → read payload = .ok r := by
  refine ⟨fun h form => ?_, fun payload => read_of_denotes⟩
  have hdenotes := denotes_write form h
  exact ⟨hdenotes, read_of_denotes hdenotes⟩

/-- A tree with separators in its bare names is given back from the types and the places that it is written with,
and from other ones. -/
theorem read_exact_of_separators :
    let subs : Aggregations :=
      [("tags#agg", .nested 3 [("#", .terms [.mk "a#b" 2 [("", .filter 0 [])]])]), ("size", .unknown "avg" [])]
    let r : Response := ⟨7, some subs, [⟨.obj [], .null⟩], .int 4⟩
    let bucket : Members :=
      [(Aggregation.typedName "filter" "", .obj [("doc_count", .int 0)]), ("doc_count", .int 2), ("key", .str "a#b")]
    let terms : Members := [("sum_other_doc_count", .int 0), ("buckets", .arr [.obj bucket])]
    let wrapper : Members := [(Aggregation.typedName "umterms" "#", .obj terms), ("doc_count", .int 3)]
    let tree : Members :=
      [(Aggregation.typedName "reverse_nested" "tags#agg", .obj wrapper), (Aggregation.typedName "avg" "size", .obj [])]
    let hits : Members :=
      [("total", .obj [("relation", .str "eq"), ("value", .int 7)]), ("hits", .arr [.obj [("_source", .obj [])]])]
    let payload : Json :=
      .obj [("aggregations", .obj tree), ("timed_out", .bool false), ("took", .int 4), ("hits", .obj hits)]
    r.isEncodable = true ∧ read (write .plain r) = .ok r ∧ Denotes payload r ∧ read payload = .ok r := by
  intro subs r bucket terms wrapper tree hits payload
  have hencodable : r.isEncodable = true := by decide
  have hfilter : DenotesBody [("doc_count", .int 0)] 0 [] :=
    .mk (by decide) rfl (by decide) (.untyped (by decide) .nil)
  have hbucket : DenotesBody bucket 2 [("", .filter 0 [])] :=
    .mk (by decide) rfl (by decide)
      (.typed (by decide) (.filter (by decide) hfilter) (.untyped (by decide) (.untyped (by decide) .nil)))
  have hterms : DenotesNode "umterms" terms (.terms [.mk "a#b" 2 [("", .filter 0 [])]]) :=
    .terms (by decide) (by decide) rfl (.cons rfl hbucket .nil)
  have hwrapper : DenotesNode "reverse_nested" wrapper (.nested 3 [("#", .terms [.mk "a#b" 2 [("", .filter 0 [])]])]) :=
    .nested (by decide) (.mk (by decide) rfl (by decide) (.typed (by decide) hterms (.untyped (by decide) .nil)))
  have hsize : DenotesNode "avg" [] (.unknown "avg" []) := .unknown (by decide)
  have htree : DenotesTree tree subs :=
    ⟨by decide, by decide, by decide, .typed (by decide) hwrapper (.typed (by decide) hsize .nil)⟩
  have hfound : List.Forall₂ DenotesHit [.obj [("_source", .obj [])]] r.hits :=
    .cons (.mk (by decide) rfl) .nil
  have hdenotes : Denotes payload r :=
    .reply (by decide) rfl (by decide) rfl (.valued (by decide) rfl) rfl hfound (.tree htree) rfl
  exact ⟨hencodable, ((read_exact r).1 hencodable .plain).2, hdenotes, (read_exact r).2 payload hdenotes⟩

end SeriesCatalog.Response
