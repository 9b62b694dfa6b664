import Mathlib.Data.String.Basic
import SeriesCatalog.Series.Identity

/-! Tags in the order of their keys. Texts always compare, so that under distinct texts for keys the sorting of tags
gives the strictly increasing list of the same tags: a run that is there already is taken over, falling or rising, and
every other tag is put into its place by halves. -/

namespace SeriesCatalog.Identity

/-- A tag whose key and value are texts. -/
abbrev TextTag := String × String

/-- Such a tag as a document has it. -/
def ofText (tag : TextTag) : Pair := (.str tag.1, .str tag.2)

def ofTexts (tags : List TextTag) : List Pair := tags.map ofText

@[simp] theorem ofTexts_nil : ofTexts [] = [] := rfl

@[simp] theorem ofTexts_cons (tag : TextTag) (tags : List TextTag) :
    ofTexts (tag :: tags) = ofText tag :: ofTexts tags := rfl

@[simp] theorem ofTexts_append (tags more : List TextTag) : ofTexts (tags ++ more) = ofTexts tags ++ ofTexts more :=
  List.map_append

@[simp] theorem ofTexts_reverse (tags : List TextTag) : ofTexts tags.reverse = (ofTexts tags).reverse :=
  List.map_reverse

@[simp] theorem length_ofTexts (tags : List TextTag) : (ofTexts tags).length = tags.length := List.length_map _

/-- The keys are strictly increasing. -/
def AreSorted (tags : List TextTag) : Prop := tags.Pairwise (·.1 < ·.1)

theorem keyLt_ofText (a b : TextTag) : Json.keyLt (ofText a).1 (ofText b).1 = decide (a.1 < b.1) := by
  rw [ofText, ofText, Json.keyLt, Json.less]

/-! ### One tag -/

/-- A list that is not empty has a tag at its half. -/
theorem exists_middle {α : Type} {xs : List α} (h : xs ≠ []) :
    ∃ lower middle upper, xs = lower ++ middle :: upper ∧ lower.length = xs.length / 2 := by
  have hhalf : xs.length / 2 < xs.length := by
    have hpos := List.length_pos_of_ne_nil h
    omega
  refine ⟨xs.take (xs.length / 2), xs[xs.length / 2], xs.drop (xs.length / 2 + 1), ?_, ?_⟩
  · rw [← List.drop_eq_getElem_cons hhalf, List.take_append_drop]
  · rw [List.length_take]
    omega

/-- A tag is put into the half on its side of the middle. -/
theorem insertByKey_middle (tag : Pair) {lower : List Pair} {middle : Pair} {upper : List Pair}
    (h : lower.length = (lower ++ middle :: upper).length / 2) :
    insertByKey tag (lower ++ middle :: upper) =
      if Json.keyLt tag.1 middle.1 then insertByKey tag lower ++ middle :: upper
      else lower ++ middle :: insertByKey tag upper := by
  have hhalf : lower.length < (lower ++ middle :: upper).length := by simp
  have hmiddle : (lower ++ middle :: upper)[lower.length] = middle := by simp
  have htake : (lower ++ middle :: upper).take (lower.length + 1) = lower ++ [middle] := by
    rw [List.take_length_add_append, List.take_succ_cons, List.take_zero]
  have hdrop : (lower ++ middle :: upper).drop (lower.length + 1) = upper := by
    rw [List.drop_length_add_append, List.drop_succ_cons, List.drop_zero]
  rw [insertByKey]
  simp only [← h, dif_pos hhalf, hmiddle, htake, hdrop, List.take_left, List.drop_left, List.append_assoc,
    List.singleton_append]

/-- A tag goes where no tag before it is above it, and every tag after it is. -/
theorem insertByKey_ofTexts (tag : TextTag) {sorted : List TextTag} (h : AreSorted sorted) :
    ∃ before after, sorted = before ++ after ∧
      insertByKey (ofText tag) (ofTexts sorted) = ofTexts (before ++ tag :: after) ∧
      (∀ b ∈ before, ¬tag.1 < b.1) ∧ ∀ a ∈ after, tag.1 < a.1 := by
  induction hlength : sorted.length using Nat.strong_induction_on generalizing sorted with
  | _ n ih =>
      by_cases hempty : sorted = []
      · subst hempty
        exact ⟨[], [], rfl, by rw [insertByKey]; rfl, by simp, by simp⟩
      · obtain ⟨lower, middle, upper, rfl, hhalf⟩ := exists_middle hempty
        obtain ⟨hlower, hrest, hcross⟩ := List.pairwise_append.mp h
        obtain ⟨hmiddle, hupper⟩ := List.pairwise_cons.mp hrest
        have hlength' : (ofTexts lower).length = (ofTexts lower ++ ofText middle :: ofTexts upper).length / 2 := by
          simpa using hhalf
        rw [ofTexts_append, ofTexts_cons, insertByKey_middle _ hlength', keyLt_ofText]
        simp only [decide_eq_true_eq]
        by_cases hbelow : tag.1 < middle.1
        · obtain ⟨before, after, rfl, hput, hbefore, hafter⟩ := ih lower.length (by simp at hlength; omega) hlower rfl
          have hupper' : ∀ a ∈ upper, tag.1 < a.1 := fun a ha => lt_trans hbelow (hmiddle a ha)
          refine ⟨before, after ++ middle :: upper, by simp, ?_, hbefore,
            List.forall_mem_append.mpr ⟨hafter, List.forall_mem_cons.mpr ⟨hbelow, hupper'⟩⟩⟩
          rw [if_pos hbelow, hput]
          simp
        · obtain ⟨before, after, rfl, hput, hbefore, hafter⟩ := ih upper.length (by simp at hlength; omega) hupper rfl
          have hlower' : ∀ b ∈ lower, ¬tag.1 < b.1 :=
            fun b hb habove => hbelow (lt_trans habove (hcross b hb middle List.mem_cons_self))
          refine ⟨lower ++ middle :: before, after, by simp, ?_,
            List.forall_mem_append.mpr ⟨hlower', List.forall_mem_cons.mpr ⟨hbelow, hbefore⟩⟩, hafter⟩
          rw [if_neg hbelow, hput]
          simp

/-- A tag of a new key among sorted tags. -/
theorem exists_insertByKey (tag : TextTag) {sorted : List TextTag} (h : AreSorted sorted)
    (hnew : tag.1 ∉ sorted.map (·.1)) :
    ∃ result, insertByKey (ofText tag) (ofTexts sorted) = ofTexts result ∧ result.Perm (tag :: sorted) ∧
      AreSorted result := by
  obtain ⟨before, after, rfl, hput, hbefore, hafter⟩ := insertByKey_ofTexts tag h
  obtain ⟨hlower, hupper, hcross⟩ := List.pairwise_append.mp h
  have hbelow : ∀ b ∈ before, b.1 < tag.1 := by
    intro b hb
    have hne : tag.1 ≠ b.1 := fun hkey =>
      hnew (List.mem_map.mpr ⟨b, List.mem_append_left _ hb, hkey.symm⟩)
    exact lt_of_le_of_ne (not_lt.mp (hbefore b hb)) hne.symm
  refine ⟨before ++ tag :: after, hput, List.perm_middle, List.pairwise_append.mpr ⟨hlower, ?_, ?_⟩⟩
  · exact List.pairwise_cons.mpr ⟨hafter, hupper⟩
  · exact fun b hb => List.forall_mem_cons.mpr ⟨hbelow b hb, hcross b hb⟩

/-! ### All tags -/

/-- Tags of new keys are put among sorted tags one after the other. -/
theorem exists_foldl_insertByKey {sorted others : List TextTag} (h : AreSorted sorted)
    (hkeys : ((sorted ++ others).map (·.1)).Nodup) :
    ∃ result, (ofTexts others).foldl (fun sorted tag => insertByKey tag sorted) (ofTexts sorted) = ofTexts result ∧
      result.Perm (sorted ++ others) ∧ AreSorted result := by
  induction others generalizing sorted with
  | nil => exact ⟨sorted, rfl, by simp, h⟩
  | cons tag rest ih =>
      have hnew : tag.1 ∉ sorted.map (·.1) := by
        rw [List.map_append, List.map_cons] at hkeys
        exact fun hmem => (List.nodup_append.mp hkeys).2.2 _ hmem _ List.mem_cons_self rfl
      obtain ⟨grown, hput, hperm, hgrown⟩ := exists_insertByKey tag h hnew
      have hmoved : (grown ++ rest).Perm (sorted ++ tag :: rest) :=
        (hperm.append_right rest).trans List.perm_middle.symm
      obtain ⟨result, hfold, hresult, hsorted⟩ := ih hgrown ((hmoved.map _).nodup_iff.mpr hkeys)
      refine ⟨result, ?_, hresult.trans hmoved, hsorted⟩
      rw [ofTexts_cons, List.foldl_cons, hput, hfold]

/-- The first tag stands before the second one in a run, which may be a falling one. -/
def RunsTo (falling : Bool) (a b : TextTag) : Prop := if falling then b.1 < a.1 else a.1 < b.1

theorem RunsTo.trans {falling : Bool} {a b c : TextTag} (hab : RunsTo falling a b) (hbc : RunsTo falling b c) :
    RunsTo falling a c := by
  cases falling with
  | true => exact lt_trans (b := b.1) hbc hab
  | false => exact lt_trans (b := b.1) hab hbc

/-- The tags of a run go on in its direction, and nothing is lost of the others. -/
theorem splitRun_ofTexts (falling : Bool) (last : TextTag) {tags : List TextTag}
    (hkeys : ((last :: tags).map (·.1)).Nodup) :
    ∃ run others, tags = run ++ others ∧
      splitRun falling (ofText last) (ofTexts tags) = (ofTexts run, ofTexts others) ∧
      (last :: run).Pairwise (RunsTo falling) := by
  induction tags generalizing last with
  | nil => exact ⟨[], [], rfl, rfl, List.pairwise_singleton _ _⟩
  | cons tag rest ih =>
      rw [List.map_cons, List.nodup_cons] at hkeys
      obtain ⟨hlast, hrest⟩ := hkeys
      obtain ⟨run, others, rfl, hsplit, hrun⟩ := ih tag hrest
      rw [ofTexts_cons, splitRun, hsplit, keyLt_ofText]
      by_cases hfollows : decide (tag.1 < last.1) = falling
      · refine ⟨tag :: run, others, rfl, by rw [if_pos hfollows]; rfl, List.pairwise_cons.mpr ⟨?_, hrun⟩⟩
        have hnext : RunsTo falling last tag := by
          subst hfollows
          by_cases hbelow : tag.1 < last.1
          · simp [RunsTo, hbelow]
          · have hne : last.1 ≠ tag.1 := fun hkey => hlast (hkey ▸ List.mem_cons_self)
            simpa [RunsTo, hbelow] using lt_of_le_of_ne (not_lt.mp hbelow) hne
        exact List.forall_mem_cons.mpr ⟨hnext, fun b hb => hnext.trans ((List.pairwise_cons.mp hrun).1 b hb)⟩
      · exact ⟨[], tag :: (run ++ others), rfl, by rw [if_neg hfollows]; rfl, List.pairwise_singleton _ _⟩

/-- A run is in order, if it is turned round where it falls. -/
theorem exists_rising {falling : Bool} {run : List TextTag} (h : run.Pairwise (RunsTo falling)) :
    ∃ rising, (if falling then (ofTexts run).reverse else ofTexts run) = ofTexts rising ∧ rising.Perm run ∧
      AreSorted rising := by
  cases falling with
  | true => exact ⟨run.reverse, (ofTexts_reverse run).symm, List.reverse_perm run, List.pairwise_reverse.mpr h⟩
  | false => exact ⟨run, rfl, .refl _, h⟩

/-- Sorting gives the same tags with their keys in order. -/
theorem exists_sortByKey {tags : List TextTag} (h : (tags.map (·.1)).Nodup) :
    ∃ sorted, sortByKey (ofTexts tags) = ofTexts sorted ∧ sorted.Perm tags ∧ AreSorted sorted := by
  rcases tags with _ | ⟨first, _ | ⟨second, rest⟩⟩
  · exact ⟨[], rfl, .refl _, .nil⟩
  · exact ⟨[first], rfl, .refl _, List.pairwise_singleton _ _⟩
  · obtain ⟨run, others, hsplit, hrun, hpairs⟩ := splitRun_ofTexts (decide (second.1 < first.1)) first h
    obtain ⟨rising, hrising, hperm, hsorted⟩ := exists_rising hpairs
    have hsort : sortByKey (ofTexts (first :: second :: rest)) =
        (ofTexts others).foldl (fun sorted tag => insertByKey tag sorted) (ofTexts rising) := by
      rw [ofTexts_cons, ofTexts_cons, sortByKey, keyLt_ofText, ← ofTexts_cons second, hrun, ← hrising]
      rfl
    rw [hsplit] at h hsort ⊢
    have hmoved : (rising ++ others).Perm (first :: (run ++ others)) := hperm.append_right others
    obtain ⟨sorted, hfold, hresult, hresorted⟩ :=
      exists_foldl_insertByKey hsorted ((hmoved.map _).nodup_iff.mpr h)
    exact ⟨sorted, hsort.trans hfold, hresult.trans hmoved, hresorted⟩

end SeriesCatalog.Identity
