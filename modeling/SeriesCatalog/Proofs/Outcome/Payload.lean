import Mathlib.Data.List.Basic
import SeriesCatalog.Outcome.Basic

/-! The payload of an outcome. A query fills one collection only, so that its payload grows by appending:
entries taken one after the other stand in it in their order, and nothing else of the outcome changes. -/

namespace SeriesCatalog

/-- An entry of the sort that a kind of query asks for. -/
def Entry.belongsTo : QueryKind → Entry → Bool
  | .namespaces, .namespaceName _ => true
  | .metrics, .metric _ => true
  | .tagKeys, .tagKeyOrValue _ => true
  | .tagValues, .tagKeyOrValue _ => true
  | .tagKeysAndValues, .tag _ => true
  | .timeSeries, .series _ => true
  | _, _ => false

/-! ### Collections as parts of a payload -/

namespace Entry

@[simp] def namespaceName? : Entry → Option Json
  | .namespaceName name => some name
  | _ => none

@[simp] def metric? : Entry → Option NameCount
  | .metric counted => some counted
  | _ => none

@[simp] def tagKeyOrValue? : Entry → Option NameCount
  | .tagKeyOrValue counted => some counted
  | _ => none

@[simp] def tag? : Entry → Option TagEntry
  | .tag described => some described
  | _ => none

@[simp] def series? : Entry → Option Series
  | .series built => some built
  | _ => none

end Entry

/-- The entries that go to each collection. -/
def collectionsOf (entries : List Entry) :
    List Json × List NameCount × List NameCount × List TagEntry × List Series :=
  (entries.filterMap Entry.namespaceName?, entries.filterMap Entry.metric?, entries.filterMap Entry.tagKeyOrValue?,
    entries.filterMap Entry.tag?, entries.filterMap Entry.series?)

namespace Outcome

/-- The collections of an outcome, in the order in which its payload has them. -/
def collections (o : Outcome) :
    List Json × List NameCount × List NameCount × List TagEntry × List Series :=
  (o.namespaces, o.metrics, o.tagKeysOrValues, o.tags, o.series)

/-- All entries of an outcome, collection by collection. -/
def payload (o : Outcome) : List Entry :=
  o.namespaces.map .namespaceName ++ o.metrics.map .metric ++ o.tagKeysOrValues.map .tagKeyOrValue ++
    o.tags.map .tag ++ o.series.map .series

/-- A payload keeps the collections apart. -/
theorem collectionsOf_payload (o : Outcome) : collectionsOf o.payload = o.collections := by
  simp [collectionsOf, collections, payload, List.filterMap_append, List.filterMap_map, Function.comp_def]

/-- What an outcome says beside its payload. -/
def head (o : Outcome) : OutcomeKind × Option Query × Option Fault × Int :=
  (o.kind, o.query, o.exception, o.total)

@[simp] theorem head_start (kind : OutcomeKind) (q : Option Query) (exception : Option Fault) :
    (start kind q exception).head = (kind, q, exception, 0) := rfl

@[simp] theorem payload_start (kind : OutcomeKind) (q : Option Query) (exception : Option Fault) :
    (start kind q exception).payload = [] := rfl

@[simp] theorem payload_total (o : Outcome) (total : Int) : { o with total }.payload = o.payload := rfl

theorem head_push (o : Outcome) (entry : Entry) : (o.push entry).head = o.head := by
  cases entry <;> rfl

theorem head_foldl_push (o : Outcome) (entries : List Entry) :
    (entries.foldl push o).head = o.head := by
  induction entries generalizing o with
  | nil => rfl
  | cons entry rest ih => rw [List.foldl_cons, ih, head_push]

/-- An entry of the sort that is there already goes to the end. -/
theorem payload_push {kind : QueryKind} {o : Outcome} {entry : Entry}
    (ho : ∀ e ∈ o.payload, e.belongsTo kind = true) (hentry : entry.belongsTo kind = true) :
    (o.push entry).payload = o.payload ++ [entry] := by
  simp only [payload, List.mem_append, or_imp, forall_and, List.forall_mem_map] at ho
  obtain ⟨⟨⟨⟨hnamespaces, hmetrics⟩, hkeys⟩, htags⟩, hseries⟩ := ho
  cases entry <;> cases kind <;> simp only [Entry.belongsTo, Bool.false_eq_true] at hentry
  all_goals
    simp only [Entry.belongsTo, Bool.false_eq_true, imp_false, ← List.eq_nil_iff_forall_not_mem] at *
  all_goals simp [payload, push, *]

theorem payload_foldl_push {kind : QueryKind} {o : Outcome} {entries : List Entry}
    (ho : ∀ e ∈ o.payload, e.belongsTo kind = true) (hentries : ∀ e ∈ entries, e.belongsTo kind = true) :
    (entries.foldl push o).payload = o.payload ++ entries := by
  induction entries generalizing o with
  | nil => simp
  | cons entry rest ih =>
      have hpush := payload_push ho (hentries entry List.mem_cons_self)
      have hgrown : ∀ e ∈ (o.push entry).payload, e.belongsTo kind = true := by
        rw [hpush]
        intro e he
        rcases List.mem_append.mp he with hold | hnew
        · exact ho e hold
        · rw [List.mem_singleton.mp hnew]
          exact hentries entry List.mem_cons_self
      rw [List.foldl_cons, ih hgrown fun e he => hentries e (List.mem_cons_of_mem entry he), hpush,
        List.append_assoc, List.singleton_append]

theorem foldl_push_series (o : Outcome) (series : List Series) :
    (series.map Entry.series).foldl push o = { o with series := o.series ++ series } := by
  induction series generalizing o with
  | nil => simp
  | cons s rest ih =>
      rw [List.map_cons, List.foldl_cons, ih, push, List.append_assoc, List.singleton_append]

/-! ### Taking over a complete reading -/

/-- An outcome of kind `data` takes all entries. -/
theorem addAll_of_data {o : Outcome} (h : o.kind = .data) (entries : List Entry) :
    o.addAll entries = (entries.foldl push o, none) := by
  induction entries generalizing o with
  | nil => rfl
  | cons entry rest ih =>
      have hgrown : (o.push entry).kind = .data := by
        rw [← h]
        exact congrArg Prod.fst (head_push o entry)
      rw [addAll, add, if_pos h]
      exact ih hgrown

/-- The outcome that entries make. -/
def ofEntries (q : Query) (entries : List Entry) : Outcome :=
  entries.foldl push (start .data (some q) none)

theorem head_ofEntries (q : Query) (entries : List Entry) :
    (ofEntries q entries).head = (.data, some q, none, 0) := head_foldl_push _ _

theorem payload_ofEntries {kind : QueryKind} (q : Query) {entries : List Entry}
    (h : ∀ e ∈ entries, e.belongsTo kind = true) : (ofEntries q entries).payload = entries := by
  rw [ofEntries, payload_foldl_push (by simp) h, payload_start, List.nil_append]

/-- Without an entry there is no outcome yet. -/
theorem absorb_none_ofList (q : Query) (entries : List Entry) :
    absorb q (.ofList entries) none = (if entries = [] then none else some (ofEntries q entries), none) := by
  cases entries with
  | nil => rfl
  | cons entry rest =>
      have htaken := addAll_of_data (rfl : (start .data (some q) none).kind = .data) (entry :: rest)
      simp only [absorb, Reading.ofList, htaken, if_neg (List.cons_ne_nil entry rest), ofEntries]

/-- An outcome that is there takes the entries before a fault as well. -/
theorem absorb_some (q : Query) (reading : Reading Entry) {o : Outcome} (h : o.kind = .data) :
    absorb q reading (some o) = (some (reading.entries.foldl push o), reading.fault) := by
  simp only [absorb, addAll_of_data h]

end Outcome

end SeriesCatalog
