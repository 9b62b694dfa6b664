/-! Cutting a text at a separator: at its first occurrence, or at each of them. -/

namespace SeriesCatalog.Text

/-- The characters before and after the first separator. -/
def cut? (sep : Char) : List Char → Option (List Char × List Char)
  | [] => none
  | c :: rest =>
    if c = sep then some ([], rest)
    else (cut? sep rest).map fun (before, after) => (c :: before, after)

/-- The parts of a text before and after its first separator. -/
def splitFirst? (sep : Char) (s : String) : Option (String × String) :=
  (cut? sep s.toList).map fun (before, after) => (String.ofList before, String.ofList after)

/-- The pieces between separators; there is one piece more than there are separators. -/
def pieces (sep : Char) : List Char → List (List Char)
  | [] => [[]]
  | c :: rest =>
    if c = sep then [] :: pieces sep rest
    else
      match pieces sep rest with
      | [] => [[c]]
      | piece :: more => (c :: piece) :: more

def splitAll (sep : Char) (s : String) : List String := (pieces sep s.toList).map String.ofList

/-- A text without the separators at its end. -/
def dropTrailing (sep : Char) (s : String) : String :=
  String.ofList (s.toList.reverse.dropWhile (· == sep)).reverse

/-! ### First separator -/

theorem cut?_eq_none_iff {sep : Char} {cs : List Char} : cut? sep cs = none ↔ sep ∉ cs := by
  induction cs with
  | nil => simp [cut?]
  | cons c rest ih =>
    by_cases h : c = sep
    · simp [cut?, h]
    · simp [cut?, h, ih, Ne.symm h]

theorem cut?_append {sep : Char} {before : List Char} (after : List Char) (h : sep ∉ before) :
    cut? sep (before ++ sep :: after) = some (before, after) := by
  induction before with
  | nil => simp [cut?]
  | cons c rest ih =>
    simp only [List.mem_cons, not_or] at h
    simp [cut?, Ne.symm h.1, ih h.2]

theorem eq_append_of_cut? {sep : Char} {cs before after : List Char}
    (h : cut? sep cs = some (before, after)) : cs = before ++ sep :: after ∧ sep ∉ before := by
  induction cs generalizing before with
  | nil => simp [cut?] at h
  | cons c rest ih =>
    by_cases hc : c = sep
    · simp only [cut?, if_pos hc, Option.some.injEq, Prod.mk.injEq] at h
      obtain ⟨rfl, rfl⟩ := h
      simp [hc]
    · simp only [cut?, if_neg hc, Option.map_eq_some_iff, Prod.mk.injEq] at h
      obtain ⟨⟨b, a⟩, hcut, rfl, rfl⟩ := h
      obtain ⟨rfl, hb⟩ := ih hcut
      simp [Ne.symm hc, hb]

theorem splitFirst?_eq_none_iff {sep : Char} {s : String} : splitFirst? sep s = none ↔ sep ∉ s.toList := by
  rw [splitFirst?, Option.map_eq_none_iff, cut?_eq_none_iff]

end SeriesCatalog.Text
