import SeriesCatalog.Settings.Sources

/-! The settings that a process holds. They are built when they are first asked for and kept from then on,
whatever becomes of the surroundings, until they are cleared. Asking with an override builds settings for
that one time. What cannot be built is not kept. -/

namespace SeriesCatalog

/-- A way to build a value from overrides and the surroundings of that moment. -/
abbrev Construction (ε α : Type) := Members → Surroundings → Except ε α

/-- The surroundings of a process and the value it keeps. -/
structure Store (α : Type) where
  surroundings : Surroundings := {}
  kept : Option α := none

namespace Store

variable {ε α : Type}

def setVariable (name value : String) (s : Store α) : Store α :=
  { s with surroundings.environment := Assoc.put (· == ·) name value s.surroundings.environment }

def removeVariable (name : String) (s : Store α) : Store α :=
  { s with surroundings.environment := s.surroundings.environment.filter (·.1 ≠ name) }

/-- The store after the file of variables is written. -/
def writeFile (text : String) (s : Store α) : Store α := { s with surroundings.file := text }

def clear (s : Store α) : Store α := { s with kept := none }

/-- The kept value, built if there is none. -/
def getKept (construct : Construction ε α) (s : Store α) : Except ε α × Store α :=
  match s.kept with
  | some value => (.ok value, s)
  | none =>
    match construct [] s.surroundings with
    | .ok value => (.ok value, { s with kept := some value })
    | .error fault => (.error fault, s)

/-- The kept value, or one with overrides; overrides without content are none. -/
def get (construct : Construction ε α) (overrides : Option Members) (s : Store α) :
    Except ε α × Store α :=
  match overrides with
  | some (first :: rest) => (construct (first :: rest) s.surroundings, s)
  | _ => s.getKept construct

/-! ### Histories -/

/-- What can happen to a store. -/
inductive Action where
  | setVariable (name value : String)
  | removeVariable (name : String)
  | writeFile (text : String)
  | clear
  | get (overrides : Option Members)

/-- The store after an action, and the answer to a question. -/
def perform (construct : Construction ε α) (s : Store α) : Action → Option (Except ε α) × Store α
  | .setVariable name value => (none, s.setVariable name value)
  | .removeVariable name => (none, s.removeVariable name)
  | .writeFile text => (none, s.writeFile text)
  | .clear => (none, s.clear)
  | .get overrides =>
    let (answer, next) := s.get construct overrides
    (some answer, next)

/-- The answers to the questions of a history, and the store after it. -/
def run (construct : Construction ε α) : Store α → List Action → List (Except ε α) × Store α
  | s, [] => ([], s)
  | s, action :: rest =>
    let (answer, next) := s.perform construct action
    let (answers, last) := run construct next rest
    (answer.toList ++ answers, last)

end Store

end SeriesCatalog
