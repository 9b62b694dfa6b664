import Mathlib.Order.MinMax
import SeriesCatalog.Response.Basic

/-! The greatest total of a batch, told by comparison instead of a pass over the batch. It depends on the
totals alone. -/

namespace SeriesCatalog

/-- A total of the batch that no other one exceeds; for an empty batch, zero. -/
def IsGreatestTotal (batch : List Response) (most : Int) : Prop :=
  (batch = [] ∧ most = 0) ∨ (∃ r ∈ batch, r.total = most) ∧ ∀ r ∈ batch, r.total ≤ most

/-- The greatest of a start and the totals of a batch is one of them and not below any. -/
theorem foldl_max_total (batch : List Response) (start : Int) :
    let most := batch.foldl (fun most r => max most r.total) start
    (most = start ∨ ∃ r ∈ batch, r.total = most) ∧ start ≤ most ∧ ∀ r ∈ batch, r.total ≤ most := by
  induction batch generalizing start with
  | nil => simp
  | cons r rest ih =>
      obtain ⟨hreached, hstart, hrest⟩ := ih (max start r.total)
      refine ⟨?_, (le_max_left _ _).trans hstart, ?_⟩
      · rcases hreached with hmax | ⟨s, hs, htotal⟩
        · rcases max_choice start r.total with hfirst | hsecond
          · exact .inl (hmax.trans hfirst)
          · exact .inr ⟨r, List.mem_cons_self, (hmax.trans hsecond).symm⟩
        · exact .inr ⟨s, List.mem_cons_of_mem r hs, htotal⟩
      · rintro s (_ | ⟨_, hs⟩)
        · exact (le_max_right _ _).trans hstart
        · exact hrest s hs

theorem isGreatestTotal_greatestTotal (batch : List Response) :
    IsGreatestTotal batch (greatestTotal batch) := by
  cases batch with
  | nil => exact .inl ⟨rfl, rfl⟩
  | cons r rest =>
      obtain ⟨hreached, hfirst, hrest⟩ := foldl_max_total rest r.total
      refine .inr ⟨?_, List.forall_mem_cons.mpr ⟨hfirst, hrest⟩⟩
      rcases hreached with hmax | ⟨s, hs, htotal⟩
      · exact ⟨r, List.mem_cons_self, hmax.symm⟩
      · exact ⟨s, List.mem_cons_of_mem r hs, htotal⟩

/-- A batch has one greatest total. -/
theorem IsGreatestTotal.unique {batch : List Response} {m n : Int} (hm : IsGreatestTotal batch m)
    (hn : IsGreatestTotal batch n) : m = n := by
  rcases hm with ⟨rfl, rfl⟩ | ⟨⟨r, hr, rfl⟩, hmost⟩ <;> rcases hn with ⟨hempty, rfl⟩ | ⟨⟨s, hs, rfl⟩, hmore⟩
  · rfl
  · cases hs
  · rw [hempty] at hr
    cases hr
  · exact le_antisymm (hmore r hr) (hmost s hs)

theorem greatestTotal_eq {batch : List Response} {m : Int} (h : IsGreatestTotal batch m) :
    greatestTotal batch = m := (isGreatestTotal_greatestTotal batch).unique h

/-- Batches with the same totals have the same greatest total. -/
theorem greatestTotal_congr {batch other : List Response} (h : other.map (·.total) = batch.map (·.total)) :
    greatestTotal other = greatestTotal batch := by
  have hfold : ∀ rest : List Response, ∀ start : Int,
      rest.foldl (fun most r => max most r.total) start = (rest.map (·.total)).foldl max start :=
    fun rest start => (List.foldl_map).symm
  cases batch with
  | nil => rw [List.map_eq_nil_iff.mp h]
  | cons r rest =>
      obtain ⟨s, more, rfl, htotal, hrest⟩ := List.map_eq_cons_iff.mp h
      rw [greatestTotal, greatestTotal, hfold, hfold, htotal, hrest]

end SeriesCatalog
