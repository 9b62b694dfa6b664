import SeriesCatalog.Proofs.Response.Overflow
import SeriesCatalog.Search.Cluster

/-! What becomes of the body of an answer that is not refused. Either it gives a response or the fault names
the host, with one exception: an infinity where the reply states a total or a count, which passes as it is.
Bodies are of any length and depth; what a reader with a limit to its depth makes of one beyond that limit is
not told here. -/

namespace SeriesCatalog

open Fallible

/-- A response, or a fault of the content of a reply that names its host. -/
def IsAccounted (host : String) (result : Except Fault Response) : Prop :=
  (∃ response, result = .ok response) ∨
    ∃ cause, result = .error (.malformedReply host cause) ∧ cause.isMalformed = true

namespace Body

/-- The document of a body overflows. -/
def Overflows (b : Body) : Prop := ∃ v, b.read = .ok v ∧ Response.Overflows v

/-- The total that a body states is infinite. -/
def hasInfiniteTotal (b : Body) : Bool :=
  b.read.toOption.any fun v =>
    (v.member "hits").toOption.any fun hits => Response.hasInfiniteTotal (hits.orElse (.obj []))

/-- The characters of a text, one byte each. -/
def ofText (text : String) : Body := .bytes (text.toList.map fun c => UInt8.ofNat c.toNat)

theorem read_contentual (b : Body) : IsContentual b.read := by
  cases b with
  | document v => exact .ok v
  | bytes bs => exact Json.ofBytes_contentual bs

theorem overflows_of_hasInfiniteTotal {b : Body} (h : b.hasInfiniteTotal = true) : b.Overflows := by
  obtain ⟨v, hv, h⟩ := (Option.any_eq_true _ _).mp h
  obtain ⟨hits, hhits, h⟩ := (Option.any_eq_true _ _).mp h
  exact ⟨v, Fallible.eq_ok_of_toOption hv, .total (Fallible.eq_ok_of_toOption hhits) h⟩

theorem not_overflows_of_unreadable {b : Body} (h : b.read.toOption = none) : ¬b.Overflows := by
  rintro ⟨v, hv, -⟩
  rw [hv] at h
  cases h

end Body

namespace Cluster

theorem response_due (b : Body) : FailsWith (IsDue b.Overflows) (b.read >>= Response.read) := by
  refine .bind b.read_contentual.due fun v hv => ?_
  exact (Response.read_due v).mono (IsDue.mono fun h => ⟨v, hv, h⟩)

theorem response_of_overflows {b : Body} (h : b.Overflows) : b.read >>= Response.read = .error .outOfRange := by
  obtain ⟨v, hv, h⟩ := h
  rw [hv]
  exact Response.read_of_overflows h

/-- An answer that is not refused is read, and the fault of reading it is reported. -/
theorem receive_answered {p : Posting} {status : Int} (b : Body) (haddress : p.address.isAbsolute = true)
    (hstatus : status < 400) :
    receive p (.answered status b) =
      match b.read >>= Response.read with
      | .ok response => .ok response
      | .error fault => .error (replyFault p.host fault) := by
  have hnotRefused : ¬400 ≤ status := by omega
  rw [receive, haddress]
  simp only [Bool.not_true, Bool.false_eq_true, if_false, if_neg hnotRefused]
  rfl

/-- The body of an answer is accounted for unless it overflows, and then the fault does not name the host. -/
theorem receive_body {p : Posting} {status : Int} (b : Body) (haddress : p.address.isAbsolute = true)
    (hstatus : status < 400) :
    (receive p (.answered status b) = .error .outOfRange ↔ b.Overflows) ∧
      (IsAccounted p.host (receive p (.answered status b)) ↔ ¬b.Overflows) ∧
      ∀ v fault, Response.read v = .error fault →
        fault.isMalformed = true ∨ fault = .outOfRange ∧ Response.Overflows v := by
  have hoverflows : b.Overflows → receive p (.answered status b) = .error .outOfRange := by
    intro h
    rw [receive_answered b haddress hstatus, response_of_overflows h]
    rfl
  have haccounted : ¬b.Overflows → IsAccounted p.host (receive p (.answered status b)) := by
    intro h
    rw [receive_answered b haddress hstatus]
    cases hread : b.read >>= Response.read with
    | ok response => exact .inl ⟨response, rfl⟩
    | error fault =>
        rcases response_due b fault hread with hmalformed | ⟨-, hb⟩
        · refine .inr ⟨fault, ?_, hmalformed⟩
          simp only [replyFault, if_pos hmalformed]
        · exact absurd hb h
  have hapart : receive p (.answered status b) = .error .outOfRange →
      ¬IsAccounted p.host (receive p (.answered status b)) := by
    rintro h (⟨response, hok⟩ | ⟨cause, hcause, -⟩)
    · rw [h] at hok
      cases hok
    · rw [h] at hcause
      cases hcause
  refine ⟨⟨fun h => ?_, hoverflows⟩, ⟨fun h hb => hapart (hoverflows hb) h, haccounted⟩, Response.read_due⟩
  by_contra hb
  exact hapart h (haccounted hb)

theorem exists_posting : ∃ p, posting ⟨["http://a"], "", "all", true⟩ "sys" [] "http://a" = .ok p ∧
    p.address.isAbsolute = true := by
  have h : (posting ⟨["http://a"], "", "all", true⟩ "sys" [] "http://a").toOption.any (·.address.isAbsolute) =
      true := by decide +kernel
  obtain ⟨p, hp, haddress⟩ := (Option.any_eq_true _ _).mp h
  exact ⟨p, Fallible.eq_ok_of_toOption hp, haddress⟩

/-- An infinite total is not accounted for; a reply that is no JSON is. -/
theorem receive_body_of_infinity :
    ∃ p, posting ⟨["http://a"], "", "all", true⟩ "sys" [] "http://a" = .ok p ∧
      receive p (.answered 200 (.ofText "\x7b\"hits\":\x7b\"total\":1e999\x7d\x7d")) = .error .outOfRange ∧
      IsAccounted p.host (receive p (.answered 200 (.ofText "nothing"))) := by
  obtain ⟨p, hp, haddress⟩ := exists_posting
  refine ⟨p, hp, (receive_body _ haddress (by decide)).1.mpr ?_, (receive_body _ haddress (by decide)).2.1.mpr ?_⟩
  · exact Body.overflows_of_hasInfiniteTotal (by decide +kernel)
  · exact Body.not_overflows_of_unreadable (Option.isNone_iff_eq_none.mp (by decide +kernel))

-- two names that differ in a surrogate only do not cover each other, so the infinity under the first is met
example : ((Body.ofText ("\x7b\"aggregations\":\x7b" ++
    "\"sterms#\\ud800\":\x7b\"buckets\":[\x7b\"key\":\"a\",\"doc_count\":1e999\x7d]\x7d," ++
    "\"sterms#\\ud801\":\x7b\"buckets\":[]\x7d\x7d\x7d")).read >>= Response.read) matches .error .outOfRange := by
  decide +kernel

/-- Not every answer is accounted for. -/
theorem not_forall_isAccounted :
    ¬∀ (p : Posting) (status : Int) (b : Body), p.address.isAbsolute = true → 200 ≤ status → status < 300 →
      IsAccounted p.host (receive p (.answered status b)) := by
  intro h
  obtain ⟨p, -, haddress⟩ := exists_posting
  have hbody : (Body.ofText "\x7b\"hits\":\x7b\"total\":1e999\x7d\x7d").Overflows :=
    Body.overflows_of_hasInfiniteTotal (by decide +kernel)
  have hrange : receive p (.answered 200 (.ofText "\x7b\"hits\":\x7b\"total\":1e999\x7d\x7d")) =
      .error .outOfRange := by
    rw [receive_answered _ haddress (by decide), response_of_overflows hbody]
    rfl
  rcases h p 200 _ haddress (by decide) (by decide) with ⟨response, hok⟩ | ⟨cause, hcause, -⟩
  · rw [hrange] at hok
    cases hok
  · rw [hrange] at hcause
    cases hcause

end Cluster

end SeriesCatalog
