import SeriesCatalog.Outcome.Basic

/-! An outcome in the memory that it shares with its caller. The caller holds lists, passes them for the values of
tags, and may change them whenever it likes. The outcome holds lists of its own: what it is passed it copies. -/

namespace SeriesCatalog

/-- Where a list stands in memory. -/
abbrev Slot := Nat

/-- Lists by slot. Nothing stands yet at the next slot or behind it. -/
structure Memory where
  lists : Slot → List NameCount := fun _ => []
  next : Slot := 0

namespace Memory

/-- The memory after the list at a slot is changed. -/
def write (m : Memory) (slot : Slot) (values : List NameCount) : Memory :=
  { m with lists := fun other => if other = slot then values else m.lists other }

/-- The memory with one list more, at the next slot. -/
def make (m : Memory) (values : List NameCount) : Memory := { m.write m.next values with next := m.next + 1 }

end Memory

/-- An outcome whose tags hold the slots of their values, the memory, and the slots that the caller holds. -/
structure Accumulator where
  kind : OutcomeKind
  query : Option Query
  exception : Option Fault
  total : Int := 0
  namespaces : List Json := []
  metrics : List NameCount := []
  tagKeysOrValues : List NameCount := []
  tags : List (NameCount × Option Slot) := []
  series : List Series := []
  memory : Memory := {}
  callers : List Slot := []

namespace Accumulator

/-- What the views show: the values of tags are those that stand in memory at the moment. -/
def view (a : Accumulator) : Outcome where
  kind := a.kind
  query := a.query
  exception := a.exception
  total := a.total
  namespaces := a.namespaces
  metrics := a.metrics
  tagKeysOrValues := a.tagKeysOrValues
  tags := a.tags.map fun tag => (tag.1, tag.2.map a.memory.lists)
  series := a.series

/-- Only an outcome of kind `data` takes entries. -/
def requireData (a : Accumulator) : Except Fault Unit :=
  if a.kind = .data then .ok () else .error (.payloadRefused a.kind)

/-- Appends an entry to the collection of its sort. Values of a tag are copied to a slot of their own. -/
def append (a : Accumulator) : Entry → Accumulator
  | .namespaceName name => { a with namespaces := a.namespaces ++ [name] }
  | .metric metric => { a with metrics := a.metrics ++ [metric] }
  | .tagKeyOrValue tag => { a with tagKeysOrValues := a.tagKeysOrValues ++ [tag] }
  | .tag (key, none) => { a with tags := a.tags ++ [(key, none)] }
  | .tag (key, some values) =>
    { a with memory := a.memory.make values, tags := a.tags ++ [(key, some a.memory.next)] }
  | .series series => { a with series := a.series ++ [series] }

/-- Takes an entry, after the question for its kind. -/
def add (entry : Entry) (a : Accumulator) : Except Fault Unit × Accumulator :=
  match a.requireData with
  | .error fault => (.error fault, a)
  | .ok () => (.ok (), a.append entry)

/-- Sets the total to the integer that a document denotes. -/
def assignTotal (v : Json) (a : Accumulator) : Except Fault Unit × Accumulator :=
  match v.integer with
  | .error fault => (.error fault, a)
  | .ok total => (.ok (), { a with total })

/-! ### Histories -/

/-- What a caller can do: make a list, change the `n`-th one it made, offer an entry, offer a tag with the `n`-th of
its lists for values, assign the total, look at the views. -/
inductive Action where
  | make (values : List NameCount)
  | change (n : Nat) (values : List NameCount)
  | add (entry : Entry)
  | addTag (key : NameCount) (n : Nat)
  | assignTotal (v : Json)
  | look

/-- A fault, or the views if the caller looked. -/
abbrev Answer := Except Fault (Option Outcome)

/-- The answer of a call that returns nothing. -/
def silent (called : Except Fault Unit × Accumulator) : Answer × Accumulator :=
  (called.1.map fun () => none, called.2)

/-- An action with its answer. Where it names a list that was never made, nothing happens. -/
def perform (a : Accumulator) : Action → Answer × Accumulator
  | .make values =>
    (.ok none, { a with memory := a.memory.make values, callers := a.callers ++ [a.memory.next] })
  | .change n values =>
    match a.callers[n]? with
    | some slot => (.ok none, { a with memory := a.memory.write slot values })
    | none => (.ok none, a)
  | .add entry => silent (a.add entry)
  | .addTag key n =>
    match a.callers[n]? with
    | some slot => silent (a.add (.tag (key, some (a.memory.lists slot))))
    | none => (.ok none, a)
  | .assignTotal v => silent (a.assignTotal v)
  | .look => (.ok (some a.view), a)

/-- The actions of a history with their answers, and what they leave. -/
def run : Accumulator → List Action → List (Action × Answer) × Accumulator
  | a, [] => ([], a)
  | a, action :: rest =>
    let (answer, next) := a.perform action
    let (answers, last) := run next rest
    ((action, answer) :: answers, last)

end Accumulator

end SeriesCatalog
