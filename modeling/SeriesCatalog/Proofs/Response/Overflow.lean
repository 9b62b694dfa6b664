import SeriesCatalog.Proofs.Aggregation.Overflow
import SeriesCatalog.Response.Basic

/-! Which replies run into an infinite number. The total is read first and the aggregations after it; nothing
else of a reply is taken for an integer. -/

namespace SeriesCatalog.Response

open Fallible

/-- The total is an infinity, stated as a number or as the value of an object. -/
def hasInfiniteTotal : Json → Bool
  | .obj members =>
    match members.lookup "total" with
    | some (.obj inner) => (inner.lookup "value").any Json.isInfinite
    | some total => total.isInfinite
    | none => false
  | _ => false

/-- The first thing in a reply that cannot be read is an infinite total or an infinite count. -/
inductive Overflows : Json → Prop
  | total {payload hits : Json} (hhits : payload.member "hits" = .ok hits)
      (h : hasInfiniteTotal (hits.orElse (.obj [])) = true) : Overflows payload
  | aggregations {payload hits raw : Json} {total : Int} (hhits : payload.member "hits" = .ok hits)
      (htotal : readTotal (hits.orElse (.obj [])) = .ok total) (hraw : payload.member "aggregations" = .ok raw)
      (h : Aggregation.Overflows raw) : Overflows payload

theorem integer_orElse_due (v : Json) : FailsWith (IsDue (v.isInfinite = true)) (v.orElse (.int 0)).integer := by
  rw [Json.orElse]
  split
  · exact .ok _
  · intro fault h
    rcases Json.integer_error h with ⟨hmalformed, -⟩ | hrange
    · exact .inl hmalformed
    · exact .inr hrange

theorem integer_orElse_of_isInfinite {v : Json} (h : v.isInfinite = true) :
    (v.orElse (.int 0)).integer = .error .outOfRange := by
  cases v with
  | real x =>
      cases x with
      | infinite negative => rfl
      | _ => cases h
  | _ => cases h

theorem readTotal_due (hits : Json) : FailsWith (IsDue (hasInfiniteTotal hits = true)) (readTotal hits) := by
  cases hits with
  | obj members =>
      rw [readTotal, Json.member?_obj]
      refine .bind (.ok _) ?_
      rintro _ ⟨⟩
      rw [hasInfiniteTotal]
      cases members.lookup "total" with
      | none => exact .ok _
      | some stated =>
          cases stated with
          | obj inner =>
              simp only [Option.getD_some]
              cases inner.lookup "value" with
              | none => exact .ok _
              | some v => exact integer_orElse_due v
          | _ => exact integer_orElse_due _
  | _ => exact .error (.inl rfl)

theorem readTotal_of_infinite {hits : Json} (h : hasInfiniteTotal hits = true) :
    readTotal hits = .error .outOfRange := by
  cases hits with
  | obj members =>
      rw [hasInfiniteTotal] at h
      rw [readTotal, Json.member?_obj]
      cases htotal : members.lookup "total" with
      | none =>
          rw [htotal] at h
          cases h
      | some stated =>
          rw [htotal] at h
          cases stated with
          | obj inner =>
              cases hvalue : inner.lookup "value" with
              | none =>
                  simp only [hvalue] at h
                  cases h
              | some v =>
                  simp only [hvalue, Option.any_some] at h
                  simp only [bind, Except.bind, Option.getD_some, hvalue]
                  exact integer_orElse_of_isInfinite h
          | _ => exact integer_orElse_of_isInfinite h
  | _ => cases h

theorem readAggregations_due (raw : Json) :
    FailsWith (IsDue (Aggregation.Overflows raw)) (readAggregations raw) := by
  unfold readAggregations
  split
  · exact .ok _
  · exact .map _ (Aggregation.read_due _)

theorem readAggregations_of_overflows {raw : Json} (h : Aggregation.Overflows raw) :
    readAggregations raw = .error .outOfRange := by
  obtain ⟨members, rfl, -⟩ := id h
  rw [readAggregations, Aggregation.read_of_overflows h]
  · rfl
  · simp

theorem readHit_contentual (hit : Json) : IsContentual (readHit hit) := by
  refine .bind (Json.member_contentual _ _) fun _ _ => ?_
  exact .bind (Json.member_contentual _ _) fun _ _ => .ok _

/-- A reply that cannot be read has faulty content, or it overflows. -/
theorem read_due (payload : Json) : FailsWith (IsDue (Overflows payload)) (read payload) := by
  refine .bind (Json.member_contentual _ _).due fun hits hhits => ?_
  refine .bind ((readTotal_due _).mono (IsDue.mono (.total hhits))) fun total htotal => ?_
  refine .bind (Json.member_contentual _ _).due fun raw hraw => ?_
  refine .bind ((readAggregations_due raw).mono (IsDue.mono (.aggregations hhits htotal hraw))) fun _ _ => ?_
  refine .bind (Json.member_contentual _ _).due fun found _ => ?_
  refine .bind (Json.items_contentual _).due fun items _ => ?_
  refine .bind (IsContentual.due (.mapM fun hit _ => readHit_contentual hit)) fun _ _ => ?_
  exact .bind (Json.member_contentual _ _).due fun _ _ => .ok _

theorem read_of_overflows {payload : Json} (h : Overflows payload) : read payload = .error .outOfRange := by
  cases h with
  | total hhits h =>
      rw [read, hhits]
      simp only [bind, Except.bind, readTotal_of_infinite h]
  | aggregations hhits htotal hraw h =>
      rw [read, hhits]
      simp only [bind, Except.bind, htotal, hraw, readAggregations_of_overflows h]

end SeriesCatalog.Response
