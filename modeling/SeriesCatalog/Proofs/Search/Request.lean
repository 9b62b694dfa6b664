import SeriesCatalog.Proofs.Fallible
import SeriesCatalog.Search.Request

/-! The body of a request as it is sent. The envelope writes two fields over what the body has under their names, and
adds them where it has none. -/

namespace SeriesCatalog

namespace Request

/-- The body of an object as it is sent, by its names. -/
def sentBody (r : Request) (members : Members) : Members :=
  let sized := if r.size.isNull then members else Assoc.put (· == ·) "size" r.size members
  if r.timeout.isBlank then sized else Assoc.put (· == ·) "timeout" r.timeout sized

variable {r : Request} {members : Members}

/-- Putting a value under a name of an object is putting it under the key. -/
theorem putName_map (name : String) (value : Json) (members : Members) :
    putName name value (members.map (Prod.map .str id)) =
      (Assoc.put (· == ·) name value members).map (Prod.map .str id) :=
  Assoc.put_map (fun a b => by rw [Json.same]) id name value members

theorem named_map (members : Members) : Json.named (members.map (Prod.map .str id)) = Assoc.byName members := by
  rw [Json.named, List.map_map]
  exact congrArg Assoc.byName (List.map_id members)

/-- An object can be sent, with its names for keys. -/
theorem toBody_of_object (hobject : r.body = .obj members) :
    r.toBody = .ok ((r.sentBody members).map (Prod.map .str id)) := by
  have hkeyed : r.body.keyed = .ok (members.map (Prod.map .str id)) := by
    rw [hobject]
    rfl
  rw [toBody, hkeyed]
  cases hnull : r.size.isNull <;> cases hblank : r.timeout.isBlank <;>
    simp [bind, Except.bind, sentBody, hnull, hblank, putName_map]

theorem nodup_sentBody (h : (members.map (·.1)).Nodup) : ((r.sentBody members).map (·.1)).Nodup := by
  have hsized : ((if r.size.isNull then members else Assoc.put (· == ·) "size" r.size members).map (·.1)).Nodup := by
    split
    · exact h
    · exact Assoc.nodup_put h
  rw [sentBody]
  split
  · exact hsized
  · exact Assoc.nodup_put hsized

theorem named_sentBody (h : (members.map (·.1)).Nodup) :
    Json.named ((r.sentBody members).map (Prod.map .str id)) = r.sentBody members := by
  rw [named_map, Assoc.byName_eq_self (nodup_sentBody h)]

/-- A name that is sent has the value of the envelope, or that of the body where the envelope has none. -/
theorem lookup_sentBody (name : String) :
    (r.sentBody members).lookup name =
      if name = "timeout" ∧ r.timeout.isBlank = false then some r.timeout
      else if name = "size" ∧ r.size.isNull = false then some r.size
      else members.lookup name := by
  cases hnull : r.size.isNull <;> cases hblank : r.timeout.isBlank <;>
    simp [sentBody, hnull, hblank, Assoc.lookup_put]

/-- The body of an object as it is sent has the size of the request under its name. -/
theorem lookup_size {body : List (Json × Json)} (hobject : r.body = .obj members) (hnames : (members.map (·.1)).Nodup)
    (hsize : r.size.isNull = false) (h : r.toBody = .ok body) : (Json.named body).lookup "size" = some r.size := by
  rw [toBody_of_object hobject] at h
  rw [← Except.ok.inj h, named_sentBody hnames, lookup_sentBody,
    if_neg (fun hname => absurd hname.1 (by decide)), if_pos ⟨rfl, hsize⟩]

/-- Whatever is sent under other names stays as it is. -/
theorem filter_sentBody {p : String → Bool} (hsize : p "size" = false) (htimeout : p "timeout" = false) :
    (r.sentBody members).filter (p ·.1) = members.filter (p ·.1) := by
  rw [sentBody]
  split <;> split <;> simp only [Assoc.filter_put hsize, Assoc.filter_put htimeout]

theorem isWritable_sentBody (h : ∀ entry ∈ members, entry.2.isWritable = true) (hsize : r.size.isWritable = true)
    (htimeout : r.timeout.isWritable = true) : isWritable ((r.sentBody members).map (Prod.map .str id)) = true := by
  have hput : ∀ {name : String} {value : Json} {held : Members}, (∀ entry ∈ held, entry.2.isWritable = true) →
      value.isWritable = true → ∀ entry ∈ Assoc.put (· == ·) name value held, entry.2.isWritable = true :=
    Assoc.forall_put (p := fun v : Json => v.isWritable = true)
  have hentries : ∀ entry ∈ r.sentBody members, entry.2.isWritable = true := by
    rw [sentBody]
    split <;> split
    · exact h
    · exact hput h hsize
    · exact hput h htimeout
    · exact hput (hput h hsize) htimeout
  rw [isWritable, List.all_map, List.all_eq_true]
  intro entry hentry
  simp [Json.isWritable, hentries entry hentry]

end Request

end SeriesCatalog
