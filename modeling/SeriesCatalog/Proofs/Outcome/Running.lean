import SeriesCatalog.Proofs.Outcome.Payload

/-! The running outcome of a query: none before the first entry, and one that takes entries after it. What a reading
does to it, a fault or entries at its end, does not depend on what it has taken before. -/

namespace SeriesCatalog

namespace Outcome

/-- The running outcome of a query after a reading, unless that has a fault. -/
def absorbed (q : Query) (running : Option Outcome) (reading : Reading Entry) : Except Fault (Option Outcome) :=
  match absorb q reading running with
  | (_, some fault) => .error fault
  | (grown, none) => .ok grown

/-- Readings are taken over one by one. -/
def absorbEach (q : Query) (running : Option Outcome) (readings : List (Reading Entry)) :
    Except Fault (Option Outcome) :=
  readings.foldlM (absorbed q) running

/-- Entries can be taken: the outcome has not begun, or it is of kind `data`. -/
def IsOpen (running : Option Outcome) : Prop := ∀ o, running = some o → o.kind = .data

/-- The running outcome with entries at its end; the first entry begins it. -/
def grown (q : Query) (running : Option Outcome) (entries : List Entry) : Option Outcome :=
  if entries = [] then running else some (entries.foldl push (running.getD (.start .data (some q) none)))

variable {q : Query} {running : Option Outcome}

theorem isOpen_none : IsOpen none := by
  intro o ho
  cases ho

theorem isOpen_grown (h : IsOpen running) (entries : List Entry) : IsOpen (grown q running entries) := by
  intro o ho
  rw [grown] at ho
  by_cases hempty : entries = []
  · rw [if_pos hempty] at ho
    exact h o ho
  · rw [if_neg hempty] at ho
    obtain rfl := Option.some.inj ho
    have hhead := congrArg Prod.fst (head_foldl_push (running.getD (.start .data (some q) none)) entries)
    refine hhead.trans ?_
    cases running with
    | none => rfl
    | some o => exact h o rfl

theorem grown_grown (running : Option Outcome) (entries more : List Entry) :
    grown q (grown q running entries) more = grown q running (entries ++ more) := by
  by_cases hempty : entries = []
  · simp [grown, hempty]
  · by_cases hmore : more = []
    · simp [grown, hempty, hmore]
    · simp [grown, hempty, hmore]

/-- The entries of a reading without a fault go to the end of what is there. -/
theorem absorb_eq_grown {reading : Reading Entry} (h : IsOpen running) (hfault : reading.fault = none) :
    absorb q reading running = (grown q running reading.entries, none) := by
  rw [Reading.eq_ofList hfault]
  cases running with
  | none => exact absorb_none_ofList q reading.entries
  | some o =>
      rw [absorb_some q _ (h o rfl), grown]
      by_cases hempty : reading.entries = []
      · simp [Reading.ofList, hempty]
      · simp [Reading.ofList, hempty]

/-- What a reading does to the running outcome: its fault, or its entries, whatever was there before. -/
theorem absorbed_eq (h : IsOpen running) (reading : Reading Entry) :
    absorbed q running reading =
      match reading.fault with
      | some fault => .error fault
      | none => .ok (grown q running reading.entries) := by
  cases hfault : reading.fault with
  | none => rw [absorbed, absorb_eq_grown h hfault]
  | some fault =>
      cases running with
      | none => simp only [absorbed, absorb, hfault]
      | some o => simp only [absorbed, absorb_some q _ (h o rfl), hfault]

/-- Readings one by one are one reading after another as a whole. -/
theorem absorbEach_eq (h : IsOpen running) (readings : List (Reading Entry)) :
    absorbEach q running readings = absorbed q running (.concat readings) := by
  induction readings generalizing running with
  | nil =>
      rw [absorbed_eq h]
      rfl
  | cons reading rest ih =>
      rw [absorbEach, List.foldlM_cons, Reading.concat, absorbed_eq h, absorbed_eq h, Reading.append]
      cases hfault : reading.fault with
      | some fault => simp [hfault, bind, Except.bind]
      | none =>
          have hrest := ih (isOpen_grown (q := q) h reading.entries)
          rw [absorbEach, absorbed_eq (isOpen_grown h reading.entries)] at hrest
          simp only [bind, Except.bind, hrest, Reading.prepend, grown_grown]

theorem absorb_fault (h : IsOpen running) (reading : Reading Entry) :
    (absorb q reading running).2 = reading.fault := by
  cases running with
  | some o => rw [absorb_some q reading (h o rfl)]
  | none =>
      obtain ⟨entries, _ | fault⟩ := reading
      · have hnone := absorb_none_ofList q entries
        rw [Reading.ofList] at hnone
        rw [hnone]
      · rfl

end Outcome

end SeriesCatalog
