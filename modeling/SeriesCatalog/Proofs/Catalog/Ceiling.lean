import SeriesCatalog.Proofs.Catalog.SourceQuery

/-! The ceiling over a whole batch. Either every total compares with it or none does, so that whether a batch has a
total above the ceiling, and whether it has none, does not depend on the order of its responses. -/

namespace SeriesCatalog.Catalog

/-- The total of a response compares with the ceiling and is above it. -/
def exceeds (c : Catalog) (r : Response) : Bool :=
  (exceedsCeiling (.int r.total) c.config.maxCardinality).toOption == some true

/-- The total of a response compares with the ceiling and is not above it. -/
def isWithin (c : Catalog) (r : Response) : Bool :=
  (exceedsCeiling (.int r.total) c.config.maxCardinality).toOption == some false

variable {c : Catalog} {batch : List Response}

theorem exceedsCeiling_of_isNumber {ceiling : Json} (h : ceiling.isNumber = true) (total : Int) :
    ∃ above, exceedsCeiling (.int total) ceiling = .ok above := by
  cases ceiling with
  | bool | int | real =>
      simp only [exceedsCeiling, Json.less, Json.lessNumber, Json.isNumber, Bool.and_self, if_true]
      split <;> exact ⟨_, rfl⟩
  | _ => cases h

theorem exceedsCeiling_of_not_isNumber {ceiling : Json} (h : ceiling.isNumber = false) (total : Int) :
    exceedsCeiling (.int total) ceiling = .error .wrongKind := by
  cases ceiling with
  | bool | int | real => cases h
  | _ => rfl

/-- Under a ceiling that is a number a response exceeds it or is within it. -/
theorem isWithin_eq_not_exceeds (h : c.config.maxCardinality.isNumber = true) (r : Response) :
    c.isWithin r = !c.exceeds r := by
  obtain ⟨above, habove⟩ := exceedsCeiling_of_isNumber h r.total
  rw [isWithin, exceeds, habove]
  cases above <;> rfl

theorem exceeds_of_not_isNumber (h : c.config.maxCardinality.isNumber = false) (r : Response) :
    c.exceeds r = false ∧ c.isWithin r = false := by
  rw [exceeds, isWithin, exceedsCeiling_of_not_isNumber h]
  exact ⟨rfl, rfl⟩

/-- The guard finds the first total above the ceiling, if a total can be compared with the ceiling at all. -/
theorem breach?_eq (c : Catalog) (batch : List Response) :
    c.breach? batch =
      if batch = [] ∨ c.config.maxCardinality.isNumber = true then .ok (batch.find? c.exceeds)
      else .error .wrongKind := by
  induction batch with
  | nil => rfl
  | cons r rest ih =>
      rw [breach?]
      cases hnumber : c.config.maxCardinality.isNumber with
      | false =>
          rw [exceedsCeiling_of_not_isNumber hnumber]
          rfl
      | true =>
          obtain ⟨above, habove⟩ := exceedsCeiling_of_isNumber hnumber r.total
          have hexceeds : c.exceeds r = above := by
            rw [exceeds, habove]
            cases above <;> rfl
          rw [habove, ih, hnumber, List.find?_cons, hexceeds]
          cases above <;> simp [bind, Except.bind]

theorem breach?_eq_none_iff : c.breach? batch = .ok none ↔ ∀ r ∈ batch, c.isWithin r = true := by
  rw [breach?_eq]
  cases hnumber : c.config.maxCardinality.isNumber with
  | true => simp [isWithin_eq_not_exceeds hnumber]
  | false =>
      cases batch with
      | nil => simp
      | cons r rest => simp [(exceeds_of_not_isNumber hnumber r).2]

theorem breach?_eq_some_iff : (∃ r, c.breach? batch = .ok (some r)) ↔ ∃ r ∈ batch, c.exceeds r = true := by
  rw [breach?_eq]
  cases hnumber : c.config.maxCardinality.isNumber with
  | true => simp [← Option.isSome_iff_exists]
  | false =>
      cases batch with
      | nil => simp
      | cons r rest => simp [(exceeds_of_not_isNumber hnumber _).1]

theorem breach?_eq_error_iff : (∃ fault, c.breach? batch = .error fault) ↔
    batch ≠ [] ∧ c.config.maxCardinality.isNumber = false := by
  rw [breach?_eq]
  by_cases hnumber : c.config.maxCardinality.isNumber = true
  · simp [hnumber]
  · by_cases hempty : batch = [] <;> simp [hnumber, hempty]

theorem find?_of_breach? {found : Option Response} (h : c.breach? batch = .ok found) :
    batch.find? c.exceeds = found := by
  rw [breach?_eq] at h
  split at h
  · exact Except.ok.inj h
  · cases h

theorem any_exceeds_eq (c : Catalog) (batch : List Response) :
    batch.any c.exceeds =
      match c.breach? batch with
      | .ok (some _) => true
      | _ => false := by
  rw [Bool.eq_iff_iff, List.any_eq_true, ← breach?_eq_some_iff]
  rcases c.breach? batch with fault | _ | r <;> simp

theorem all_isWithin_eq (c : Catalog) (batch : List Response) :
    batch.all c.isWithin =
      match c.breach? batch with
      | .ok none => true
      | _ => false := by
  rw [Bool.eq_iff_iff, List.all_eq_true, ← breach?_eq_none_iff]
  rcases c.breach? batch with fault | _ | r <;> simp

end SeriesCatalog.Catalog
