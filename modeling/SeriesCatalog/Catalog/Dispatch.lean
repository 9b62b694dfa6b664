import SeriesCatalog.Catalog.Basic

/-! The two ways in which a catalog is asked, as one. Each has a half before its search and a half after it. -/

namespace SeriesCatalog

/-- What a catalog is asked: a query, or the series of a source. -/
inductive Ask where
  | query (q : Query)
  | source (context : Json → Except Fault Filter) (s : Source)

namespace Catalog

def dispatch (c : Catalog) (build : RequestBuilder) (search : Submission → Answer) (elapsed : Elapsed)
    (trace : Json) : Ask → Dispatch
  | .query q => c.runQuery build search elapsed q trace
  | .source context s => c.runSource build search elapsed context s trace

def prepare (c : Catalog) (build : RequestBuilder) (trace : Json) : Ask → Except Fault Prepared
  | .query q => do c.prepareQuery build q (← q.size) trace
  | .source context s => do
    let (name, q) ← sourceQuery context s
    c.prepareSource build name q trace

def conclude (c : Catalog) (elapsed : Elapsed) (q : Query) : Ask → Except Fault (List Response) → Conclusion
  | .query _, settled => c.concludeQuery elapsed q settled
  | .source _ s, settled => c.concludeSource elapsed q s.metric settled

end Catalog

end SeriesCatalog
