import Mathlib.Data.List.Nodup
import SeriesCatalog.Outcome.Accumulator
import SeriesCatalog.Proofs.Outcome.Payload

/-! What an outcome shows after a history of calls. The invariant is one of separation: the slots of the caller are
all different, and none of them stands in a tag. So nothing that the caller does to its lists changes a view, and the
views are those of an outcome that takes its entries by value, each as it was when it was offered. -/

namespace SeriesCatalog

namespace Memory

theorem lists_write (m : Memory) (slot : Slot) (values : List NameCount) :
    (m.write slot values).lists = Function.update m.lists slot values :=
  funext fun other => (Function.update_apply m.lists slot values other).symm

theorem lists_write_of_ne (m : Memory) (values : List NameCount) {slot other : Slot} (h : other ≠ slot) :
    (m.write slot values).lists other = m.lists other := if_neg h

theorem lists_make_of_ne (m : Memory) (values : List NameCount) {slot : Slot} (h : slot ≠ m.next) :
    (m.make values).lists slot = m.lists slot := m.lists_write_of_ne values h

theorem lists_make_next (m : Memory) (values : List NameCount) : (m.make values).lists m.next = values := if_pos rfl

end Memory

/-! ### Entries one after the other -/

/-- Each collection grows by the entries of its sort, in their order. -/
theorem Outcome.foldl_push (o : Outcome) (entries : List Entry) :
    entries.foldl push o =
      { o with
        namespaces := o.namespaces ++ entries.filterMap Entry.namespaceName?
        metrics := o.metrics ++ entries.filterMap Entry.metric?
        tagKeysOrValues := o.tagKeysOrValues ++ entries.filterMap Entry.tagKeyOrValue?
        tags := o.tags ++ entries.filterMap Entry.tag?
        series := o.series ++ entries.filterMap Entry.series? } := by
  induction entries generalizing o with
  | nil => simp
  | cons entry rest ih =>
      rw [List.foldl_cons, ih]
      cases entry <;> simp [push, List.filterMap_cons]

theorem Outcome.foldl_push_total (o : Outcome) (total : Int) (entries : List Entry) :
    entries.foldl push { o with total } = { entries.foldl push o with total } := by rw [foldl_push, foldl_push]

namespace Accumulator

/-! ### What a history offers -/

namespace Action

/-- The lists of the caller after an action, given those before. Nothing else than the caller changes them. -/
def listsAfter (lists : List (List NameCount)) : Action → List (List NameCount)
  | .make values => lists ++ [values]
  | .change n values => lists.set n values
  | _ => lists

/-- The entry that an action offers, given what the lists of the caller are at the moment. -/
def offer? (lists : List (List NameCount)) : Action → Option Entry
  | .add entry => some entry
  | .addTag key n => lists[n]?.map fun values => .tag (key, some values)
  | _ => none

/-- The total that an action assigns, if what it assigns denotes an integer. -/
def total? : Action → Option Int
  | .assignTotal v => v.integer.toOption
  | _ => none

end Action

/-- The entry that an action offers, unless it is answered with a fault. -/
def takenOf (lists : List (List NameCount)) (action : Action) (answer : Answer) : List Entry :=
  if answer.isOk then (action.offer? lists).toList else []

/-- The entries whose offers were answered without a fault, each with its values as they were when it was offered. -/
def taken (lists : List (List NameCount)) : List (Action × Answer) → List Entry
  | [] => []
  | (action, answer) :: rest => takenOf lists action answer ++ taken (action.listsAfter lists) rest

/-- The total that is assigned last. -/
def lastTotal (total : Int) (history : List Action) : Int := (history.filterMap Action.total?).getLastD total

/-- The lists of the caller after a history. -/
def listsAfter (lists : List (List NameCount)) (history : List Action) : List (List NameCount) :=
  history.foldl Action.listsAfter lists

/-! ### Separation -/

/-- The slots that the tags hold. -/
def tagged (a : Accumulator) : List Slot := a.tags.filterMap (·.2)

/-- The caller has the given lists. All slots that are held are different ones, so that those of the caller are not
those of the tags, and all come before the next one. -/
structure IsSeparate (lists : List (List NameCount)) (a : Accumulator) : Prop where
  lists : a.callers.map a.memory.lists = lists
  nodup : (a.callers ++ a.tagged).Nodup
  before : ∀ slot ∈ a.callers ++ a.tagged, slot < a.memory.next

theorem isSeparate_start (kind : OutcomeKind) (query : Option Query) (exception : Option Fault) :
    IsSeparate [] { kind, query, exception } where
  lists := rfl
  nodup := List.nodup_nil
  before _ h := absurd h List.not_mem_nil

theorem mem_tagged {a : Accumulator} {tag : NameCount × Option Slot} (htag : tag ∈ a.tags) {slot : Slot}
    (hslot : tag.2 = some slot) : slot ∈ a.tagged := List.mem_filterMap.mpr ⟨tag, htag, hslot⟩

/-- A view depends on the memory at the slots of the tags alone. -/
theorem view_memory (a : Accumulator) {m : Memory} (callers : List Slot)
    (h : ∀ slot ∈ a.tagged, m.lists slot = a.memory.lists slot) :
    { a with memory := m, callers }.view = a.view := by
  have htags : a.tags.map (fun tag => (tag.1, tag.2.map m.lists)) =
      a.tags.map fun tag => (tag.1, tag.2.map a.memory.lists) := by
    refine List.map_congr_left fun tag htag => congrArg (Prod.mk tag.1) ?_
    cases hslot : tag.2 with
    | none => rfl
    | some slot => exact congrArg some (h slot (mem_tagged htag hslot))
  simp only [view, htags]

namespace IsSeparate

variable {lists : List (List NameCount)} {a : Accumulator}

theorem getElem? (h : IsSeparate lists a) (n : Nat) : lists[n]? = a.callers[n]?.map a.memory.lists := by
  rw [← h.lists, List.getElem?_map]

theorem ne_next (h : IsSeparate lists a) {slot : Slot} (hmem : slot ∈ a.callers ++ a.tagged) :
    slot ≠ a.memory.next := Nat.ne_of_lt (h.before slot hmem)

/-- One slot more is held, the next one. -/
theorem with_next (h : IsSeparate lists a) {held : List Slot}
    (hheld : held.Perm (a.memory.next :: (a.callers ++ a.tagged))) :
    held.Nodup ∧ ∀ slot ∈ held, slot < a.memory.next + 1 := by
  refine ⟨hheld.nodup_iff.mpr (List.nodup_cons.mpr ⟨fun hmem => h.ne_next hmem rfl, h.nodup⟩), fun slot hmem => ?_⟩
  rcases List.mem_cons.mp (hheld.mem_iff.mp hmem) with rfl | hold
  · exact Nat.lt_succ_self _
  · exact Nat.lt_succ_of_lt (h.before slot hold)

theorem lists_make (h : IsSeparate lists a) (values : List NameCount) :
    a.callers.map (a.memory.make values).lists = lists := by
  rw [← h.lists]
  exact List.map_congr_left fun slot hmem =>
    a.memory.lists_make_of_ne values (h.ne_next (List.mem_append_left _ hmem))

/-- At a new slot the caller has one list more, and no view changes. -/
theorem make (h : IsSeparate lists a) (values : List NameCount) :
    IsSeparate (lists ++ [values])
      { a with memory := a.memory.make values, callers := a.callers ++ [a.memory.next] } := by
  have hheld : ((a.callers ++ [a.memory.next]) ++ a.tagged).Perm (a.memory.next :: (a.callers ++ a.tagged)) := by
    rw [List.append_assoc]
    exact List.perm_middle
  refine ⟨?_, (h.with_next hheld).1, (h.with_next hheld).2⟩
  rw [List.map_append, h.lists_make, List.map_singleton, Memory.lists_make_next]

theorem view_make (h : IsSeparate lists a) (values : List NameCount) (callers : List Slot) :
    { a with memory := a.memory.make values, callers }.view = a.view :=
  view_memory a callers fun _ hmem => a.memory.lists_make_of_ne values (h.ne_next (List.mem_append_right _ hmem))

/-- At one of its slots the caller changes one of its lists. -/
theorem write (h : IsSeparate lists a) {n : Nat} {slot : Slot} (hn : a.callers[n]? = some slot)
    (values : List NameCount) :
    IsSeparate (lists.set n values) { a with memory := a.memory.write slot values } where
  lists := by
    obtain ⟨hlt, rfl⟩ := List.getElem?_eq_some_iff.mp hn
    have hnodup : a.callers.Nodup := (List.nodup_append.mp h.nodup).1
    rw [Memory.lists_write, hnodup.map_update, if_pos (List.getElem_mem hlt), hnodup.idxOf_getElem n hlt, h.lists]
  nodup := h.nodup
  before := h.before

theorem view_write (h : IsSeparate lists a) {slot : Slot} (hmem : slot ∈ a.callers)
    (values : List NameCount) : { a with memory := a.memory.write slot values }.view = a.view :=
  view_memory a a.callers fun other hother =>
    a.memory.lists_write_of_ne values fun heq => (List.nodup_append.mp h.nodup).2.2 slot hmem other hother heq.symm

/-- What the outcome takes stands at a new slot, if it stands in memory at all. -/
theorem append (h : IsSeparate lists a) (entry : Entry) : IsSeparate lists (a.append entry) := by
  match entry with
  | .tag (key, some values) =>
    have htagged : (a.append (.tag (key, some values))).tagged = a.tagged ++ [a.memory.next] := by
      simp [tagged, Accumulator.append]
    have hheld : (a.callers ++ (a.append (.tag (key, some values))).tagged).Perm
        (a.memory.next :: (a.callers ++ a.tagged)) := by
      rw [htagged, ← List.append_assoc]
      exact List.perm_append_singleton _ _
    exact ⟨h.lists_make values, (h.with_next hheld).1, (h.with_next hheld).2⟩
  | .tag (key, none) =>
    have htagged : (a.append (.tag (key, none))).tagged = a.tagged := by simp [tagged, Accumulator.append]
    exact ⟨h.lists, htagged ▸ h.nodup, htagged ▸ h.before⟩
  | .namespaceName _ | .metric _ | .tagKeyOrValue _ | .series _ => exact ⟨h.lists, h.nodup, h.before⟩

theorem view_append (h : IsSeparate lists a) (entry : Entry) : (a.append entry).view = a.view.push entry := by
  match entry with
  | .tag (key, some values) =>
    have hview := h.view_make values a.callers
    calc (a.append (.tag (key, some values))).view
        = { { a with memory := a.memory.make values }.view with
            tags := { a with memory := a.memory.make values }.view.tags ++ [(key, some values)] } := by
          simp [Accumulator.append, view, Memory.lists_make_next]
      _ = a.view.push (.tag (key, some values)) := by rw [hview, Outcome.push]
  | .tag (key, none) => simp [Accumulator.append, view, Outcome.push]
  | .namespaceName _ | .metric _ | .tagKeyOrValue _ | .series _ => rfl

end IsSeparate

/-! ### One action -/

/-- What an action can come to, given the lists of the caller. An outcome of kind `data` takes what it is offered; any
other one refuses, and is left as it was, as it is by a total that cannot be assigned. What the caller does to its
lists shows in no view. -/
inductive IsAnswered (lists : List (List NameCount)) (a : Accumulator) : Action → Answer → Accumulator → Prop
  | made {values : List NameCount} {next : Accumulator} (hview : next.view = a.view) :
      IsAnswered lists a (.make values) (.ok none) next
  | changed {n : Nat} {values : List NameCount} {next : Accumulator} (hview : next.view = a.view) :
      IsAnswered lists a (.change n values) (.ok none) next
  | absent {key : NameCount} {n : Nat} (hlist : lists[n]? = none) : IsAnswered lists a (.addTag key n) (.ok none) a
  | taken {action : Action} {entry : Entry} {next : Accumulator} (hoffer : action.offer? lists = some entry)
      (hkind : a.kind = .data) (hview : next.view = a.view.push entry) : IsAnswered lists a action (.ok none) next
  | refused {action : Action} {entry : Entry} (hoffer : action.offer? lists = some entry) (hkind : a.kind ≠ .data) :
      IsAnswered lists a action (.error (.payloadRefused a.kind)) a
  | assigned {v : Json} {total : Int} (hinteger : v.integer = .ok total) :
      IsAnswered lists a (.assignTotal v) (.ok none) { a with total }
  | unassigned {v : Json} {fault : Fault} (hinteger : v.integer = .error fault) :
      IsAnswered lists a (.assignTotal v) (.error fault) a
  | looked : IsAnswered lists a .look (.ok (some a.view)) a

theorem add_of_data {a : Accumulator} (h : a.kind = .data) (entry : Entry) : a.add entry = (.ok (), a.append entry) := by
  rw [add, requireData, if_pos h]

theorem add_of_not_data {a : Accumulator} (h : a.kind ≠ .data) (entry : Entry) :
    a.add entry = (.error (.payloadRefused a.kind), a) := by
  rw [add, requireData, if_neg h]

/-- The views take an entry as an outcome by value does. -/
theorem IsSeparate.view_add {lists : List (List NameCount)} {a : Accumulator} (h : IsSeparate lists a) (entry : Entry) :
    ((a.add entry).1.map fun () => (a.add entry).2.view) = a.view.add entry := by
  by_cases hkind : a.view.kind = .data
  · rw [add_of_data hkind, Outcome.add, if_pos hkind, ← h.view_append]
    rfl
  · rw [add_of_not_data hkind, Outcome.add, if_neg hkind]
    rfl

theorem view_assignTotal (a : Accumulator) (v : Json) :
    ((a.assignTotal v).1.map fun () => (a.assignTotal v).2.view) = a.view.setTotal v := by
  rw [assignTotal, Outcome.setTotal]
  cases v.integer <;> rfl

/-- An offer is answered as the outcome takes or refuses the entry. -/
theorem IsSeparate.isAnswered_add {lists : List (List NameCount)} {a : Accumulator} (h : IsSeparate lists a)
    {action : Action} {entry : Entry} (hoffer : action.offer? lists = some entry) :
    IsSeparate lists (a.add entry).2 ∧
      IsAnswered lists a action (silent (a.add entry)).1 (silent (a.add entry)).2 := by
  by_cases hkind : a.kind = .data
  · rw [add_of_data hkind]
    exact ⟨h.append entry, .taken hoffer hkind (h.view_append entry)⟩
  · rw [add_of_not_data hkind]
    exact ⟨h, .refused hoffer hkind⟩

theorem IsSeparate.perform {lists : List (List NameCount)} {a : Accumulator} (h : IsSeparate lists a)
    (action : Action) :
    IsSeparate (action.listsAfter lists) (a.perform action).2 ∧
      IsAnswered lists a action (a.perform action).1 (a.perform action).2 := by
  cases action with
  | make values => exact ⟨h.make values, .made (h.view_make values _)⟩
  | change n values =>
      cases hn : a.callers[n]? with
      | none =>
          have hset : lists.set n values = lists := List.set_eq_of_length_le (by
            rw [← h.lists, List.length_map]
            exact List.getElem?_eq_none_iff.mp hn)
          rw [Action.listsAfter, hset, Accumulator.perform, hn]
          exact ⟨h, .changed rfl⟩
      | some slot =>
          rw [Accumulator.perform, hn]
          exact ⟨h.write hn values, .changed (h.view_write (List.mem_of_getElem? hn) values)⟩
  | add entry => exact h.isAnswered_add rfl
  | addTag key n =>
      have hlist := h.getElem? n
      cases hn : a.callers[n]? with
      | none =>
          rw [Accumulator.perform, hn]
          exact ⟨h, .absent (by rw [hlist, hn, Option.map_none])⟩
      | some slot =>
          rw [Accumulator.perform, hn]
          exact h.isAnswered_add (by rw [Action.offer?, hlist, hn, Option.map_some, Option.map_some])
  | assignTotal v =>
      cases hinteger : v.integer with
      | error fault =>
          rw [Accumulator.perform, assignTotal, hinteger]
          exact ⟨h, .unassigned hinteger⟩
      | ok total =>
          rw [Accumulator.perform, assignTotal, hinteger]
          exact ⟨⟨h.lists, h.nodup, h.before⟩, .assigned hinteger⟩
  | look => exact ⟨h, .looked⟩

/-! ### Runs -/

theorem total?_of_offer? {lists : List (List NameCount)} {action : Action} {entry : Entry}
    (h : action.offer? lists = some entry) : action.total? = none := by
  cases action <;> first | rfl | cases h

theorem lastTotal_cons (total : Int) (action : Action) (rest : List Action) :
    lastTotal total (action :: rest) = lastTotal (action.total?.getD total) rest := by
  rw [lastTotal, List.filterMap_cons]
  cases action.total? with
  | none => rfl
  | some _ => exact List.getLastD_cons

/-- What one action does to the views. -/
theorem IsAnswered.view_next {lists : List (List NameCount)} {a next : Accumulator} {action : Action} {answer : Answer}
    (h : IsAnswered lists a action answer next) :
    next.view = { (takenOf lists action answer).foldl Outcome.push a.view with
      total := action.total?.getD a.total } := by
  cases h with
  | made hview | changed hview => exact hview
  | absent hlist => rw [takenOf, Action.offer?, hlist]; rfl
  | @taken _ entry _ hoffer hkind hview =>
      have htotal : (a.view.push entry).total = a.total := congrArg (·.2.2.2) (Outcome.head_push a.view entry)
      rw [hview, takenOf, hoffer, total?_of_offer? hoffer, Option.getD_none, ← htotal]
      rfl
  | refused hoffer hkind => rw [total?_of_offer? hoffer]; rfl
  | assigned hinteger => rw [Action.total?, hinteger]; rfl
  | unassigned hinteger => rw [Action.total?, hinteger]; rfl
  | looked => rfl

theorem run_concat (a : Accumulator) (history : List Action) (action : Action) :
    a.run (history ++ [action]) =
      ((a.run history).1 ++ [(action, ((a.run history).2.perform action).1)],
        ((a.run history).2.perform action).2) := by
  induction history generalizing a with
  | nil => rfl
  | cons first rest ih =>
      rw [List.cons_append, run, run]
      simp only [ih, List.cons_append]

/-- What a history leaves: the entries taken are appended, and the total is the one that was assigned last. -/
theorem IsSeparate.run {lists : List (List NameCount)} {a : Accumulator} (h : IsSeparate lists a)
    (history : List Action) :
    IsSeparate (listsAfter lists history) (a.run history).2 ∧
      (a.run history).2.view = { (taken lists (a.run history).1).foldl Outcome.push a.view with
        total := lastTotal a.total history } := by
  induction history generalizing a lists with
  | nil => exact ⟨h, rfl⟩
  | cons action rest ih =>
      obtain ⟨hnext, hanswered⟩ := h.perform action
      obtain ⟨hlast, hview⟩ := ih hnext
      have htotal : (a.perform action).2.total = action.total?.getD a.total :=
        congrArg Outcome.total hanswered.view_next
      refine ⟨hlast, ?_⟩
      rw [Accumulator.run, hview, hanswered.view_next, Outcome.foldl_push_total, htotal, lastTotal_cons, taken,
        List.foldl_append]

theorem IsAnswered.kind_next {lists : List (List NameCount)} {a next : Accumulator} {action : Action}
    {answer : Answer} (h : IsAnswered lists a action answer next) : next.kind = a.kind := by
  show next.view.kind = a.view.kind
  rw [h.view_next, Outcome.foldl_push]

theorem IsAnswered.takenOf_eq_nil {lists : List (List NameCount)} {a next : Accumulator} {action : Action}
    {answer : Answer} (h : IsAnswered lists a action answer next) (hkind : a.kind ≠ .data) :
    takenOf lists action answer = [] := by
  cases h with
  | absent hlist => rw [takenOf, Action.offer?, hlist]; rfl
  | taken _ hdata _ => exact absurd hdata hkind
  | _ => rfl

/-- An outcome that is not of kind `data` takes nothing. -/
theorem IsSeparate.taken_eq_nil {lists : List (List NameCount)} {a : Accumulator} (h : IsSeparate lists a)
    (hkind : a.kind ≠ .data) (history : List Action) : taken lists (a.run history).1 = [] := by
  induction history generalizing a lists with
  | nil => rfl
  | cons action rest ih =>
      obtain ⟨hnext, hanswered⟩ := h.perform action
      rw [Accumulator.run, taken, ih hnext (hanswered.kind_next ▸ hkind), hanswered.takenOf_eq_nil hkind,
        List.append_nil]

theorem map_fst_run (a : Accumulator) (history : List Action) : (a.run history).1.map (·.1) = history := by
  induction history generalizing a with
  | nil => rfl
  | cons action rest ih => exact congrArg (action :: ·) (ih (a.perform action).2)

/-- What the views show after a history that began with an empty outcome: what it was begun with, the total assigned
last, and in each collection the entries taken of its sort, in the order of their calls. An outcome that is not of kind
`data` has taken none. -/
structure IsAccount (kind : OutcomeKind) (query : Option Query) (exception : Option Fault) (history : List Action)
    (record : List (Action × Answer)) (o : Outcome) : Prop where
  actions : record.map (·.1) = history
  empty : kind ≠ .data → o.payload = []
  kind : o.kind = kind
  query : o.query = query
  exception : o.exception = exception
  total : o.total = lastTotal 0 history
  collections : o.collections = collectionsOf (taken [] record)

/-- After every history the views are an account of it, and the next action is answered as `IsAnswered` says. -/
theorem run_keepsAccount (kind : OutcomeKind) (query : Option Query) (exception : Option Fault)
    (history : List Action) (action : Action) :
    ∃ record a answer next, run { kind, query, exception } history = (record, a) ∧
      run { kind, query, exception } (history ++ [action]) = (record ++ [(action, answer)], next) ∧
      IsAccount kind query exception history record a.view ∧
      IsAnswered (listsAfter [] history) a action answer next := by
  have hstart := isSeparate_start kind query exception
  obtain ⟨hseparate, hview⟩ := hstart.run history
  rw [Outcome.foldl_push] at hview
  refine ⟨_, _, _, _, rfl, run_concat _ history action, ?_, (hseparate.perform action).2⟩
  rw [hview]
  refine ⟨map_fst_run _ history, fun hkind => ?_, rfl, rfl, rfl, rfl, rfl⟩
  rw [hstart.taken_eq_nil hkind history]
  rfl

/-- The values of the first tag stay when the list that was passed for them is changed. -/
example (key : NameCount) (one two : List NameCount) :
    (run { kind := .data, query := none, exception := none }
      [.make one, .addTag key 0, .change 0 two, .addTag key 0, .add (.tag (key, none)), .add (.tag (key, some []))]
      ).2.view.tags = [(key, some one), (key, some two), (key, none), (key, some [])] := rfl

end Accumulator

end SeriesCatalog
