import Mathlib.Data.List.DropRight
import Mathlib.Data.List.TakeWhile
import SeriesCatalog.Text.Blank
import SeriesCatalog.Text.Split

/-! Texts that are cut at separators and trimmed. Each is told by how its result goes back to the text: the pieces are
joined again, the blanks and the separators at the ends are put back. What has been taken away is all that there was,
so each result is the only one of its kind. -/

namespace SeriesCatalog.Text

/-! ### Pieces -/

/-- The pieces of a text: without separators in them they give the text when they are joined by separators. -/
structure CutsInto (sep : Char) (s : String) (parts : List String) : Prop where
  nonempty : parts ≠ []
  plain : ∀ part ∈ parts, sep ∉ part.toList
  joined : (String.singleton sep).intercalate parts = s

theorem pieces_eq_splitOn (sep : Char) (cs : List Char) : pieces sep cs = cs.splitOn sep := by
  induction cs with
  | nil => rfl
  | cons c rest ih =>
      obtain ⟨piece, more, hrest⟩ := List.exists_cons_of_ne_nil (List.splitOn_ne_nil sep rest)
      rw [pieces, List.splitOn_cons_eq_if_modifyHead, ih, hrest]
      by_cases hc : c = sep <;> simp [hc]

theorem pieces_append {sep : Char} {before : List Char} (after : List Char) (h : sep ∉ before) :
    pieces sep (before ++ sep :: after) = before :: pieces sep after := by
  rw [pieces_eq_splitOn, pieces_eq_splitOn, List.splitOn_append_cons_self_of_not_mem h]

theorem notMem_of_mem_pieces {sep : Char} {cs piece : List Char} (h : piece ∈ pieces sep cs) : sep ∉ piece := by
  fun_induction pieces sep cs generalizing piece with
  | case1 =>
      obtain rfl := List.mem_singleton.mp h
      exact List.not_mem_nil
  | case2 rest ih =>
      rcases List.mem_cons.mp h with rfl | h
      · exact List.not_mem_nil
      · exact ih h
  | case3 c rest hc =>
      obtain rfl := List.mem_singleton.mp h
      simpa using Ne.symm hc
  | case4 c rest hc first more hrest ih =>
      rw [hrest] at ih
      rcases List.mem_cons.mp h with rfl | h
      · rw [List.mem_cons, not_or]
        exact ⟨Ne.symm hc, ih List.mem_cons_self⟩
      · exact ih (List.mem_cons_of_mem _ h)

theorem splitAll_eq_iff {sep : Char} {s : String} {parts : List String} :
    splitAll sep s = parts ↔ CutsInto sep s parts := by
  constructor
  · rintro rfl
    refine ⟨?_, ?_, ?_⟩
    · rw [splitAll, pieces_eq_splitOn]
      simp
    · intro part hpart
      obtain ⟨piece, hpiece, rfl⟩ := List.mem_map.mp hpart
      rw [String.toList_ofList]
      exact notMem_of_mem_pieces hpiece
    · apply String.toList_inj.mp
      rw [String.toList_intercalate, String.toList_singleton, splitAll, pieces_eq_splitOn]
      simp
  · rintro ⟨hnonempty, hplain, rfl⟩
    have hlists : ∀ part ∈ parts.map String.toList, sep ∉ part := by simpa using hplain
    rw [splitAll, pieces_eq_splitOn, String.toList_intercalate, String.toList_singleton,
      List.splitOn_intercalate sep hlists (by simpa using hnonempty)]
    simp

/-! ### Ends -/

section Ends

variable {α : Type} {p : α → Bool} {before xs after : List α}

/-- A list without elements that satisfy `p` at its ends. -/
structure IsTight (p : α → Bool) (xs : List α) : Prop where
  front : ∀ a ∈ xs.head?, p a = false
  back : ∀ a ∈ xs.getLast?, p a = false

theorem trimBy_eq_rdropWhile (p : α → Bool) (xs : List α) : trimBy p xs = (xs.dropWhile p).rdropWhile p := rfl

theorem not_of_mem_getLast?_rdropWhile {a : α} (h : a ∈ (xs.rdropWhile p).getLast?) : p a = false := by
  have hne : xs.rdropWhile p ≠ [] := List.ne_nil_of_mem (List.mem_of_mem_getLast? h)
  have hlast := List.rdropWhile_last_not p xs hne
  rw [Option.mem_def, List.getLast?_eq_some_getLast hne] at h
  rwa [Option.some.inj h, Bool.not_eq_true] at hlast

theorem rdropWhile_append_of_all (hback : ∀ a ∈ xs.getLast?, p a = false) (hafter : ∀ a ∈ after, p a = true) :
    (xs ++ after).rdropWhile p = xs := by
  have hreverse : ∀ a ∈ after.reverse, p a = true := fun a ha => hafter a (List.mem_reverse.mp ha)
  rw [List.rdropWhile, List.reverse_append, List.dropWhile_append_of_pos hreverse]
  apply List.rdropWhile_eq_self_iff.mpr
  intro hne
  simpa using hback _ (List.getLast?_eq_some_getLast hne)

theorem isTight_trimBy (p : α → Bool) (xs : List α) : IsTight p (trimBy p xs) := by
  rw [trimBy_eq_rdropWhile]
  refine ⟨?_, fun a => not_of_mem_getLast?_rdropWhile⟩
  intro a ha
  obtain ⟨after, hafter⟩ := List.rdropWhile_prefix p (xs.dropWhile p)
  have hfirst := List.head?_dropWhile_not p xs
  rwa [← hafter, List.head?_append, Option.mem_def.mp ha, Option.some_or] at hfirst

/-- A list is what trimming leaves of it between elements that all satisfy `p`. -/
theorem exists_eq_append_trimBy (p : α → Bool) (xs : List α) :
    ∃ before after, xs = before ++ trimBy p xs ++ after ∧ (∀ a ∈ before, p a = true) ∧ ∀ a ∈ after, p a = true := by
  refine ⟨xs.takeWhile p, (xs.dropWhile p).rtakeWhile p, ?_, fun a => List.mem_takeWhile_imp,
    fun a => List.mem_rtakeWhile_imp⟩
  rw [trimBy_eq_rdropWhile, List.append_assoc, List.rdropWhile_append_rtakeWhile, List.takeWhile_append_dropWhile]

theorem trimBy_append (hbefore : ∀ a ∈ before, p a = true) (hafter : ∀ a ∈ after, p a = true) (hxs : IsTight p xs) :
    trimBy p (before ++ xs ++ after) = xs := by
  rw [trimBy_eq_rdropWhile, List.append_assoc, List.dropWhile_append_of_pos hbefore]
  cases xs with
  | nil =>
      -- nothing stops the trimming at the front, which takes the elements after the list as well
      rw [List.nil_append, List.dropWhile_eq_nil_iff.mpr hafter]
      rfl
  | cons a rest =>
      have hfirst : ¬p a = true := Bool.not_eq_true _ ▸ hxs.front a rfl
      rw [List.cons_append, List.dropWhile_cons_of_neg hfirst, ← List.cons_append]
      exact rdropWhile_append_of_all hxs.back hafter

end Ends

/-! ### Blanks -/

/-- A text of blanks alone, as the empty one is. -/
def isBlankText (s : String) : Bool := s.toList.all isBlank

/-- The second text is the first one without the blanks around it. -/
structure TrimsTo (s t : String) : Prop where
  padded : ∃ before after, isBlankText before = true ∧ isBlankText after = true ∧ s = before ++ t ++ after
  tight : IsTight isBlank t.toList

theorem trim_eq_iff {s t : String} : trim s = t ↔ TrimsTo s t := by
  constructor
  · rintro rfl
    obtain ⟨before, after, hs, hbefore, hafter⟩ := exists_eq_append_trimBy isBlank s.toList
    refine ⟨⟨String.ofList before, String.ofList after, ?_, ?_, ?_⟩, ?_⟩
    · simpa [isBlankText] using hbefore
    · simpa [isBlankText] using hafter
    · apply String.toList_inj.mp
      simpa [trim] using hs
    · rw [trim, String.toList_ofList]
      exact isTight_trimBy isBlank s.toList
  · rintro ⟨⟨before, after, hbefore, hafter, rfl⟩, htight⟩
    rw [trim, String.toList_append, String.toList_append,
      trimBy_append (List.all_eq_true.mp hbefore) (List.all_eq_true.mp hafter) htight, String.ofList_toList]

theorem trim_eq_empty_iff {s : String} : trim s = "" ↔ isBlankText s = true := by
  rw [trim_eq_iff]
  constructor
  · rintro ⟨⟨before, after, hbefore, hafter, rfl⟩, -⟩
    rw [String.append_empty, isBlankText, String.toList_append, List.all_append, Bool.and_eq_true]
    exact ⟨hbefore, hafter⟩
  · intro h
    exact ⟨⟨s, "", h, rfl, by simp⟩, by simp, by simp⟩

/-! ### Separators at the end -/

/-- The second text is the first one without the separators at its end. -/
structure ShedsTo (sep : Char) (s t : String) : Prop where
  extended : ∃ ending, (∀ c ∈ ending.toList, c = sep) ∧ s = t ++ ending
  bare : sep ∉ t.toList.getLast?

theorem toList_dropTrailing (sep : Char) (s : String) :
    (dropTrailing sep s).toList = s.toList.rdropWhile (· == sep) := by
  rw [dropTrailing, String.toList_ofList]
  rfl

theorem dropTrailing_eq_iff {sep : Char} {s t : String} : dropTrailing sep s = t ↔ ShedsTo sep s t := by
  constructor
  · rintro rfl
    refine ⟨⟨String.ofList (s.toList.rtakeWhile (· == sep)), ?_, ?_⟩, ?_⟩
    · intro c hc
      rw [String.toList_ofList] at hc
      simpa using List.mem_rtakeWhile_imp hc
    · apply String.toList_inj.mp
      rw [String.toList_append, toList_dropTrailing, String.toList_ofList, List.rdropWhile_append_rtakeWhile]
    · intro hlast
      rw [toList_dropTrailing] at hlast
      simpa using not_of_mem_getLast?_rdropWhile hlast
  · rintro ⟨⟨ending, hending, rfl⟩, hbare⟩
    apply String.toList_inj.mp
    rw [toList_dropTrailing, String.toList_append]
    apply rdropWhile_append_of_all
    · intro c hc
      rw [beq_eq_false_iff_ne]
      rintro rfl
      exact hbare hc
    · intro c hc
      rw [hending c hc, beq_self_eq_true]

end SeriesCatalog.Text
