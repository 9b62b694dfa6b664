import SeriesCatalog.Json.Access
import SeriesCatalog.Json.Reader
import SeriesCatalog.Proofs.Fallible

/-! The faults of documents. Reading text as a document, and asking a document for a member, its items or its
entries, fails with a fault of its content only; so does asking for an integer, except that an infinity has
none. -/

namespace SeriesCatalog

open Fallible

/-- Whatever fault a computation fails with is one of the content of a reply. -/
abbrev IsContentual {α : Type} (x : Except Fault α) : Prop := FailsWith (fun fault => fault.isMalformed = true) x

namespace Json

/-! ### Reading -/

theorem readUnits_contentual (ps : List Text.Point) : IsContentual (readUnits ps) := by
  fun_induction readUnits ps with
  | case1 => exact .error rfl
  | case2 => exact .ok _
  | case3 => exact .error rfl
  | case4 _ _ _ _ _ _ _ ih => exact .bind ih fun _ _ => .ok _
  | case5 => exact .error rfl
  | case6 _ _ _ _ _ ih => exact .bind ih fun _ _ => .ok _
  | case7 => exact .error rfl
  | case8 _ _ _ _ _ _ ih => exact .bind ih fun _ _ => .ok _

theorem readString_contentual (ps : List Text.Point) : IsContentual (readString ps) := by
  unfold readString
  exact (readUnits_contentual ps).map _

theorem readNumeral_contentual (cs : List Char) : IsContentual (readNumeral cs) := by
  fun_cases readNumeral cs with
  | case1 => exact .error rfl
  | case2 => exact .ok _
  | case3 => exact .error rfl
  | case4 => exact .ok _

theorem readNumber_contentual (ps : List Text.Point) : IsContentual (readNumber ps) := by
  unfold readNumber
  exact (readNumeral_contentual _).map _

section

variable {fuel : Nat}

theorem readValue_contentual (hitems : ∀ ps, IsContentual (readItems fuel ps))
    (hmembers : ∀ ps, IsContentual (readMembers fuel ps)) (ps : List Text.Point) :
    IsContentual (readValue (fuel + 1) ps) := by
  unfold readValue
  split
  · exact .bind (readString_contentual _) fun _ _ => .ok _
  · split
    · exact .ok _
    · exact .bind (hitems _) fun _ _ => .ok _
  · split
    · exact .ok _
    · exact .bind (hmembers _) fun _ _ => .ok _
  · split
    · exact .ok _
    · exact readNumber_contentual _

theorem readItems_contentual (hvalue : ∀ ps, IsContentual (readValue fuel ps))
    (hitems : ∀ ps, IsContentual (readItems fuel ps)) (ps : List Text.Point) :
    IsContentual (readItems (fuel + 1) ps) := by
  unfold readItems
  refine .bind (hvalue _) fun ⟨item, rest⟩ _ => ?_
  simp only
  split
  · exact .ok _
  · exact .bind (hitems _) fun _ _ => .ok _
  · exact .error rfl

theorem readMembers_contentual (hvalue : ∀ ps, IsContentual (readValue fuel ps))
    (hmembers : ∀ ps, IsContentual (readMembers fuel ps)) (ps : List Text.Point) :
    IsContentual (readMembers (fuel + 1) ps) := by
  unfold readMembers
  split
  · refine .bind (readString_contentual _) fun ⟨name, rest⟩ _ => ?_
    simp only
    split
    · refine .bind (hvalue _) fun ⟨value, rest⟩ _ => ?_
      simp only
      split
      · exact .ok _
      · exact .bind (hmembers _) fun _ _ => .ok _
      · exact .error rfl
    · exact .error rfl
  · exact .error rfl

end

theorem read_contentual (fuel : Nat) :
    (∀ ps, IsContentual (readValue fuel ps)) ∧ (∀ ps, IsContentual (readItems fuel ps)) ∧
      ∀ ps, IsContentual (readMembers fuel ps) := by
  induction fuel with
  | zero => exact ⟨fun _ => .error rfl, fun _ => .error rfl, fun _ => .error rfl⟩
  | succ fuel ih =>
      obtain ⟨hvalue, hitems, hmembers⟩ := ih
      exact ⟨readValue_contentual hitems hmembers, readItems_contentual hvalue hitems,
        readMembers_contentual hvalue hmembers⟩

/-- Bytes that spell no document fail with a fault of their content. -/
theorem ofBytes_contentual (bytes : List UInt8) : IsContentual (ofBytes bytes) := by
  rw [ofBytes]
  cases Text.ofBytes? bytes with
  | none => exact .error rfl
  | some ps =>
      refine .bind ((read_contentual _).1 _) fun ⟨v, rest⟩ _ => ?_
      simp only
      split
      · exact .ok _
      · exact .error rfl

/-! ### Asking -/

theorem member?_contentual (name : String) (v : Json) : IsContentual (v.member? name) := by
  cases v with
  | obj members => exact .ok _
  | _ => exact .error rfl

theorem member_contentual (name : String) (v : Json) : IsContentual (v.member name) :=
  (member?_contentual name v).map _

theorem items_contentual (v : Json) : IsContentual v.items := by
  cases v with
  | arr | obj | str => exact .ok _
  | _ => exact .error rfl

theorem keyValue_contentual (parts : List Json) : IsContentual (keyValue parts) := by
  unfold keyValue
  split
  · split
    · exact .ok _
    · exact .error rfl
  · exact .error rfl

theorem keyed_contentual (v : Json) : IsContentual v.keyed := by
  have hwalked : ∀ w : Json, IsContentual (do .ok (Assoc.lastWins same (← (← w.items).mapM entry))) := by
    intro w
    refine .bind (items_contentual w) fun _ _ => .bind ?_ fun _ _ => .ok _
    exact .mapM fun item _ => .bind (items_contentual item) fun parts _ => keyValue_contentual parts
  cases v with
  | obj members => exact .ok _
  | _ => exact hwalked _

theorem entries_contentual (v : Json) : IsContentual v.entries := by
  cases v with
  | obj members => exact .ok _
  | _ =>
      simp only [entries]
      exact (keyed_contentual _).map _

/-- An infinity. -/
def isInfinite : Json → Bool
  | .real (.infinite _) => true
  | _ => false

/-- What has no integer has unusable content, unless it is an infinity. -/
theorem integer_error {v : Json} {fault : Fault} (h : v.integer = .error fault) :
    (fault.isMalformed = true ∧ v.isInfinite = false) ∨ (fault = .outOfRange ∧ v.isInfinite = true) := by
  cases v with
  | real x =>
      cases x with
      | nan =>
          cases h
          exact .inl ⟨rfl, rfl⟩
      | infinite negative =>
          cases h
          exact .inr ⟨rfl, rfl⟩
      | finite negative significand exponent =>
          have hfinite : (Double.finite negative significand exponent).truncate? ≠ none := by
            simp [Double.truncate?, Double.toFraction?]
          rw [integer] at h
          split at h
          · cases h
          · exact absurd ‹_› hfinite
  | str s =>
      rw [integer] at h
      split at h
      · cases h
      · cases h
        exact .inl ⟨rfl, rfl⟩
  | int | bool => cases h
  | _ =>
      cases h
      exact .inl ⟨rfl, rfl⟩

theorem integer_of_isInfinite {v : Json} (h : v.isInfinite = true) : v.integer = .error .outOfRange := by
  cases v with
  | real x =>
      cases x with
      | infinite negative => rfl
      | _ => cases h
  | _ => cases h

end Json

end SeriesCatalog
