import SeriesCatalog.Text.Lower

/-! Lower case is final: a text in lower case stays as it is. The table of runs leads out of itself. No run has a
character that another one, or itself, leads to; most runs that overlap take every other character and stand on
different parities. -/

namespace SeriesCatalog.Text

/-! ### The table -/

/-- The first character that a run leads to. -/
def LowerRun.target (r : LowerRun) : Nat := ((r.first : Int) + r.shift).toNat

/-- What the first run leads to is not in the second one. Where the two overlap, both take every other character. -/
def LowerRun.leadsOutOf (target : Nat) (r s : LowerRun) : Bool :=
  Nat.blt (target + (r.last - r.first)) s.first || Nat.blt s.last target ||
    (decide (r.step = 2 ∨ r.first = r.last) && decide (s.step = 2) && decide (target % 2 ≠ s.first % 2))

/-- What the run leads to are characters. -/
def LowerRun.isValid (r : LowerRun) : Bool :=
  decide (0 ≤ r.first + r.shift ∧ r.last + r.shift < 0xd800) ||
    decide (0xd800 ≤ r.first + r.shift ∧ 0xdfff < r.first + r.shift ∧ r.last + r.shift < 0x110000)

/-- The dotted capital I, whose lower case is not of one character. -/
def dottedI : LowerRun := ⟨304, 304, 1, 0⟩

theorem all_leadsOutOf : (lowerRuns.all fun r => (dottedI :: lowerRuns).all (r.leadsOutOf r.target)) = true := by
  decide +kernel

theorem forall_isValid : ∀ r ∈ lowerRuns, r.isValid = true := by decide +kernel

theorem LowerRun.target_eq {r : LowerRun} (h : r.isValid = true) : (r.target : Int) = r.first + r.shift := by
  simp only [isValid, Bool.or_eq_true, decide_eq_true_eq] at h
  unfold target
  omega

/-- A character of a run leads to one that the other run has not. -/
theorem LowerRun.not_holds_of_leadsOutOf {r s : LowerRun} {n m : Nat} (hvalid : r.isValid = true)
    (h : r.leadsOutOf r.target s = true) (hn : r.holds n = true) (hm : (m : Int) = n + r.shift) :
    s.holds m = false := by
  rw [← Bool.not_eq_true]
  intro hs
  have htarget := target_eq hvalid
  simp only [leadsOutOf, holds, Bool.or_eq_true, Bool.and_eq_true, decide_eq_true_eq, Nat.blt_eq] at h hn hs
  obtain ⟨⟨hfirst, hlast⟩, hstep⟩ := hn
  obtain ⟨⟨hfirst', hlast'⟩, hstep'⟩ := hs
  rcases h with (hbelow | habove) | ⟨⟨hr, hs⟩, hparity⟩
  · omega
  · omega
  · rw [hs] at hstep'
    rcases hr with hr | hr
    · rw [hr] at hstep
      omega
    · omega

theorem LowerRun.toNat_ofNat {r : LowerRun} {n : Nat} (h : r.isValid = true) (hn : r.holds n = true) :
    ((Char.ofNat ((n : Int) + r.shift).toNat).toNat : Int) = n + r.shift := by
  simp only [isValid, holds, Bool.or_eq_true, Bool.and_eq_true, decide_eq_true_eq] at h hn
  have hvalid : ((n : Int) + r.shift).toNat.isValidChar := by
    unfold Nat.isValidChar
    omega
  rw [Char.ofNat, dif_pos hvalid]
  show (((n : Int) + r.shift).toNat : Int) = n + r.shift
  omega

/-! ### Texts -/

/-- A character that is its own lower case wherever it stands. -/
def IsLowered (c : Char) : Prop := c.toNat ≠ 931 ∧ lowerChar c = [c]

theorem isLowered_of_not_holds {c : Char} (h : ∀ s ∈ dottedI :: lowerRuns, s.holds c.toNat = false) : IsLowered c := by
  have hsigma : c.toNat ≠ 931 := by
    intro hc
    have hrun : lowerRuns.any (·.holds 931) = true := by decide +kernel
    obtain ⟨s, hs, hholds⟩ := List.any_eq_true.mp hrun
    rw [← hc, h s (List.mem_cons_of_mem _ hs)] at hholds
    cases hholds
  have hdotted : c.toNat ≠ 304 := by
    intro hc
    have hrun := h dottedI List.mem_cons_self
    rw [hc] at hrun
    cases hrun
  have hnone : lowerRuns.find? (·.holds c.toNat) = none := by
    apply List.find?_eq_none.mpr
    intro s hs
    simp [h s (List.mem_cons_of_mem _ hs)]
  refine ⟨hsigma, ?_⟩
  rw [lowerChar, if_neg hdotted, hnone]

theorem isLowered_of_mem_lowerChar {c d : Char} (hc : c.toNat ≠ 931) (h : d ∈ lowerChar c) : IsLowered d := by
  unfold lowerChar at h
  by_cases hdotted : c.toNat = 304
  · rw [if_pos hdotted] at h
    simp only [List.mem_cons, List.not_mem_nil, or_false] at h
    rcases h with rfl | rfl
    · exact ⟨by decide, by decide +kernel⟩
    · exact ⟨by decide, by decide +kernel⟩
  · rw [if_neg hdotted] at h
    cases hfind : lowerRuns.find? (·.holds c.toNat) with
    | none =>
        rw [hfind] at h
        obtain rfl := List.mem_singleton.mp h
        refine ⟨hc, ?_⟩
        rw [lowerChar, if_neg hdotted, hfind]
    | some r =>
        rw [hfind] at h
        obtain rfl := List.mem_singleton.mp h
        have hmem : r ∈ lowerRuns := List.mem_of_find?_eq_some hfind
        have hholds : r.holds c.toNat = true := by simpa using List.find?_some hfind
        have hvalid := forall_isValid r hmem
        apply isLowered_of_not_holds
        intro s hs
        have hleads := List.all_eq_true.mp (List.all_eq_true.mp all_leadsOutOf r hmem) s hs
        exact LowerRun.not_holds_of_leadsOutOf hvalid hleads hholds (LowerRun.toNat_ofNat hvalid hholds)

theorem isLowered_of_mem_lowerAfter {before cs : List Char} {d : Char} (h : d ∈ lowerAfter before cs) :
    IsLowered d := by
  induction cs generalizing before with
  | nil => cases h
  | cons c rest ih =>
      rw [lowerAfter] at h
      rcases List.mem_append.mp h with hd | hd
      · by_cases hsigma : c.toNat = 931
        · rw [if_pos hsigma] at hd
          by_cases hfinal : (meetsCased before && !meetsCased rest) = true
          · rw [if_pos hfinal] at hd
            obtain rfl := List.mem_singleton.mp hd
            exact ⟨by decide, by decide +kernel⟩
          · rw [if_neg hfinal] at hd
            obtain rfl := List.mem_singleton.mp hd
            exact ⟨by decide, by decide +kernel⟩
        · rw [if_neg hsigma] at hd
          exact isLowered_of_mem_lowerChar hsigma hd
      · exact ih hd

theorem lowerAfter_of_isLowered {cs : List Char} (h : ∀ c ∈ cs, IsLowered c) (before : List Char) :
    lowerAfter before cs = cs := by
  induction cs generalizing before with
  | nil => rfl
  | cons c rest ih =>
      obtain ⟨⟨hsigma, hlower⟩, hrest⟩ := List.forall_mem_cons.mp h
      rw [lowerAfter, if_neg hsigma, hlower, ih hrest]
      rfl

theorem lower_lower (s : String) : lower (lower s) = lower s := by
  calc lower (lower s) = String.ofList (lowerAfter [] (lowerAfter [] s.toList)) := by
        rw [lower, lower, String.toList_ofList]
    _ = lower s := by
        rw [lowerAfter_of_isLowered fun c hc => isLowered_of_mem_lowerAfter hc]
        rfl

end SeriesCatalog.Text
