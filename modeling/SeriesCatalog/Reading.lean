import SeriesCatalog.Fault

/-! What is read from a source up to its end or its first fault. Entries read before a fault are kept, so
that a reader can be taken over by whatever collects them. -/

namespace SeriesCatalog

/-- The entries read, in order, and the fault that ended the reading early. -/
structure Reading (α : Type) where
  entries : List α
  fault : Option Fault

namespace Reading

variable {α β : Type}

def empty : Reading α := ⟨[], none⟩

def ofList (entries : List α) : Reading α := ⟨entries, none⟩

def failed (fault : Fault) : Reading α := ⟨[], some fault⟩

/-- The entries put in front of a reading. -/
def prepend (entries : List α) (r : Reading α) : Reading α := ⟨entries ++ r.entries, r.fault⟩

/-- One reading after another; a fault in the first ends both. -/
def append (r s : Reading α) : Reading α :=
  match r.fault with
  | some _ => r
  | none => s.prepend r.entries

/-- Reads one thing after another, each giving entries or a fault. -/
def collect (read : β → Except Fault (List α)) : List β → Reading α
  | [] => empty
  | x :: rest =>
    match read x with
    | .ok entries => (collect read rest).prepend entries
    | .error fault => failed fault

/-- One reading after another for a whole list. -/
def concat : List (Reading α) → Reading α
  | [] => empty
  | r :: rest => r.append (concat rest)

def map (f : α → β) (r : Reading α) : Reading β := ⟨r.entries.map f, r.fault⟩

/-! ### Complete readings -/

theorem eq_ofList {r : Reading α} (h : r.fault = none) : r = ofList r.entries := by
  obtain ⟨entries, fault⟩ := r
  cases h
  rfl

@[simp] theorem ofList_append (entries : List α) (s : Reading α) :
    (ofList entries).append s = s.prepend entries := rfl

@[simp] theorem prepend_ofList (entries more : List α) :
    (ofList more).prepend entries = ofList (entries ++ more) := rfl

/-- Complete readings after one another are a complete reading of all entries in order. -/
theorem concat_of_complete {readings : List (Reading α)} (h : ∀ r ∈ readings, r.fault = none) :
    concat readings = ofList (readings.flatMap (·.entries)) := by
  induction readings with
  | nil => rfl
  | cons r rest ih =>
      rw [concat, eq_ofList (h r List.mem_cons_self), ih fun s hs => h s (List.mem_cons_of_mem r hs)]
      rfl

/-- One reading after another ends with the first fault that one of them ends with. -/
theorem concat_fault (readings : List (Reading α)) : (concat readings).fault = readings.findSome? (·.fault) := by
  induction readings with
  | nil => rfl
  | cons r rest ih =>
      rw [concat, List.findSome?_cons, append]
      cases hfault : r.fault with
      | some fault => exact hfault
      | none => exact ih

/-- A reading is complete when it meets no fault anywhere. -/
theorem collect_fault_eq_none_iff {read : β → Except Fault (List α)} {xs : List β} :
    (collect read xs).fault = none ↔ ∀ x ∈ xs, ∃ entries, read x = .ok entries := by
  induction xs with
  | nil => simp [collect, empty]
  | cons x rest ih =>
      rw [collect, List.forall_mem_cons]
      cases hx : read x with
      | error fault => simp [failed]
      | ok entries => simpa [prepend] using ih

/-- Reading one list and then another is reading both in one go. -/
theorem collect_append (read : β → Except Fault (List α)) (xs ys : List β) :
    collect read (xs ++ ys) = (collect read xs).append (collect read ys) := by
  induction xs with
  | nil => rfl
  | cons x rest ih =>
      rw [List.cons_append, collect, collect]
      cases read x with
      | error fault => rfl
      | ok entries =>
          rw [ih]
          rcases collect read rest with ⟨held, _ | fault⟩
          · simp [append, prepend]
          · rfl

theorem collect_of_ok {read : β → Except Fault (List α)} {entriesOf : β → List α} {xs : List β}
    (h : ∀ x ∈ xs, read x = .ok (entriesOf x)) :
    collect read xs = ofList (xs.flatMap entriesOf) := by
  induction xs with
  | nil => rfl
  | cons x rest ih =>
      rw [collect, h x List.mem_cons_self, ih fun y hy => h y (List.mem_cons_of_mem x hy)]
      rfl

end Reading

end SeriesCatalog
