import SeriesCatalog.Aggregation.Reader
import SeriesCatalog.Proofs.Json.Faults

/-! Which aggregation trees run into an infinite count. A tree is read from its root and from its first member
on, the count of a body before its sub-aggregations; it overflows when the first thing in it that cannot be
read is an infinite count. Any other fault is one of its content. -/

namespace SeriesCatalog

open Fallible

/-- A fault of the content, or that of a document that overflows. -/
def IsDue (overflows : Prop) (fault : Fault) : Prop :=
  fault.isMalformed = true ∨ fault = .outOfRange ∧ overflows

theorem IsDue.mono {P Q : Prop} (h : P → Q) : ∀ fault, IsDue P fault → IsDue Q fault :=
  fun _ hdue => hdue.imp_right fun hrange => ⟨hrange.1, h hrange.2⟩

theorem IsContentual.due {α : Type} {x : Except Fault α} {P : Prop} (h : IsContentual x) :
    FailsWith (IsDue P) x :=
  h.mono fun _ => .inl

namespace Aggregation

/-- The count that a body states is infinite. -/
def hasInfiniteCount (members : Members) : Bool := (members.lookup "doc_count").any Json.isInfinite

mutual

/-- A node overflows in its buckets or in its body. -/
inductive NodeOverflows : String → Json → Prop
  | buckets {type : String} {members : Members} {items : List Json} (hshape : shapeOf type = .terms)
      (hbuckets : members.lookup "buckets" = some (.arr items)) (h : BucketsOverflow items) :
      NodeOverflows type (.obj members)
  | body {type : String} {members : Members} (hshape : shapeOf type = .nested ∨ shapeOf type = .filter)
      (h : BodyOverflows members) : NodeOverflows type (.obj members)

/-- Buckets overflow in the first that cannot be read. -/
inductive BucketsOverflow : List Json → Prop
  | here {members : Members} {rest : List Json} (h : BodyOverflows members) : BucketsOverflow (.obj members :: rest)
  | later {item : Json} {bucket : Bucket} {rest : List Json} (hitem : readBucket item = .ok bucket)
      (h : BucketsOverflow rest) : BucketsOverflow (item :: rest)

/-- A body overflows in its count or in its sub-aggregations. -/
inductive BodyOverflows : Members → Prop
  | count {members : Members} (h : hasInfiniteCount members = true) : BodyOverflows members
  | subs {members : Members} {count : Int} (hcount : readCount members = .ok count) (h : SubsOverflow members) :
      BodyOverflows members

/-- Sub-aggregations overflow in the first that cannot be read. -/
inductive SubsOverflow : Members → Prop
  | here {typed type name : String} {body : Json} {rest : Members}
      (hname : Text.splitFirst? separator typed = some (type, name)) (hbody : body.isObject = true)
      (h : NodeOverflows type body) : SubsOverflow ((typed, body) :: rest)
  | later {member : String × Json} {subs : Aggregations} {rest : Members} (hmember : readSubs [member] = .ok subs)
      (h : SubsOverflow rest) : SubsOverflow (member :: rest)

end

/-! ### Faults of a tree -/

theorem readCount_due (members : Members) :
    FailsWith (IsDue (hasInfiniteCount members = true)) (readCount members) := by
  rw [readCount]
  cases hcount : members.lookup "doc_count" with
  | none => exact .ok _
  | some v =>
      intro fault h
      rcases Json.integer_error h with ⟨hmalformed, -⟩ | ⟨hrange, hinfinite⟩
      · exact .inl hmalformed
      · exact .inr ⟨hrange, by rw [hasInfiniteCount, hcount]; exact hinfinite⟩

/-- The faults of a body are those of its count and of its sub-aggregations. -/
theorem readBody_due {α : Type} {members : Members} (make : Int → Aggregations → Except Fault α)
    (hmake : ∀ count subs, IsContentual (make count subs))
    (hsubs : FailsWith (IsDue (SubsOverflow members)) (readSubs members)) :
    FailsWith (IsDue (BodyOverflows members))
      (readCount members >>= fun count => readSubs members >>= fun subs => make count subs) := by
  refine .bind ((readCount_due members).mono (IsDue.mono .count)) fun count hcount => ?_
  exact .bind (hsubs.mono (IsDue.mono (.subs hcount))) fun subs _ => (hmake count subs).due

theorem readSubs_cons (member : String × Json) (rest : Members) :
    readSubs (member :: rest) = readSubs [member] >>= fun subs => (readSubs rest).map (subs ++ ·) := by
  obtain ⟨typed, body⟩ := member
  rw [readSubs, readSubs]
  cases Text.splitFirst? separator typed with
  | none => cases readSubs rest <;> rfl
  | some split =>
      obtain ⟨type, name⟩ := split
      simp only
      by_cases hbody : body.isObject = true
      · rw [if_pos hbody, if_pos hbody]
        cases readNode type body with
        | error fault => rfl
        | ok node => cases readSubs rest <;> rfl
      · rw [if_neg hbody, if_neg hbody]
        cases readSubs rest <;> rfl

mutual

theorem readNode_due (type : String) (body : Json) :
    FailsWith (IsDue (NodeOverflows type body)) (readNode type body) := by
  cases body with
  | obj members =>
      rw [readNode]
      cases hshape : shapeOf type with
      | terms =>
          refine .map _ ((readBucketsMember_due members).mono (IsDue.mono ?_))
          rintro ⟨items, hbuckets, h⟩
          exact .buckets hshape hbuckets h
      | nested =>
          have hbody := readBody_due (fun count subs => .ok (Aggregation.nested count (Assoc.byName subs)))
            (fun _ _ => .ok _) (readSubs_due members)
          exact hbody.mono (IsDue.mono (.body (.inl hshape)))
      | filter =>
          have hbody := readBody_due (fun count subs => .ok (Aggregation.filter count (Assoc.byName subs)))
            (fun _ _ => .ok _) (readSubs_due members)
          exact hbody.mono (IsDue.mono (.body (.inr hshape)))
      | unknown => exact .ok _
  | _ =>
      simp only [readNode]
      cases shapeOf type with
      | unknown => exact IsContentual.due (.map _ (Json.entries_contentual _))
      | _ => exact .error (.inl rfl)

theorem readBucketsMember_due (members : Members) :
    FailsWith (IsDue (∃ items, members.lookup "buckets" = some (.arr items) ∧ BucketsOverflow items))
      (readBucketsMember members) := by
  cases members with
  | nil => exact .ok _
  | cons member rest =>
      obtain ⟨name, value⟩ := member
      rw [readBucketsMember]
      by_cases hname : name = "buckets"
      · subst hname
        rw [if_pos rfl]
        refine (readBuckets_due value).mono (IsDue.mono ?_)
        rintro ⟨items, rfl, h⟩
        exact ⟨items, rfl, h⟩
      · rw [if_neg hname]
        refine (readBucketsMember_due rest).mono (IsDue.mono ?_)
        rintro ⟨items, hbuckets, h⟩
        have hne : ("buckets" == name) = false := beq_eq_false_iff_ne.mpr (Ne.symm hname)
        exact ⟨items, by rw [List.lookup_cons, hne]; exact hbuckets, h⟩

theorem readBuckets_due (value : Json) :
    FailsWith (IsDue (∃ items, value = .arr items ∧ BucketsOverflow items)) (readBuckets value) := by
  cases value with
  | arr items => exact (readBucketItems_due items).mono (IsDue.mono fun h => ⟨items, rfl, h⟩)
  | obj members =>
      rw [readBuckets]
      split
      · exact .ok _
      · exact .error (.inl rfl)
  | str s =>
      rw [readBuckets]
      split
      · exact .ok _
      · exact .error (.inl rfl)
  | _ => exact .error (.inl rfl)

theorem readBucketItems_due (items : List Json) :
    FailsWith (IsDue (BucketsOverflow items)) (readBucketItems items) := by
  cases items with
  | nil => exact .ok _
  | cons item rest =>
      rw [readBucketItems]
      refine .bind ((readBucket_due item).mono (IsDue.mono ?_)) fun bucket hbucket => ?_
      · rintro ⟨members, rfl, h⟩
        exact .here h
      · exact .bind ((readBucketItems_due rest).mono (IsDue.mono (.later hbucket))) fun _ _ => .ok _

theorem readBucket_due (item : Json) :
    FailsWith (IsDue (∃ members, item = .obj members ∧ BodyOverflows members)) (readBucket item) := by
  cases item with
  | obj members =>
      have hbody := readBody_due
        (fun count subs => .ok (Bucket.mk (readKey members) count (Assoc.byName subs)))
        (fun _ _ => .ok _) (readSubs_due members)
      exact hbody.mono (IsDue.mono fun h => ⟨members, rfl, h⟩)
  | _ => exact .error (.inl rfl)

theorem readSubs_due (members : Members) : FailsWith (IsDue (SubsOverflow members)) (readSubs members) := by
  cases members with
  | nil => exact .ok _
  | cons member rest =>
      obtain ⟨typed, body⟩ := member
      -- a member that is passed over reads as no sub-aggregation, and the fault is that of the rest
      have hrest : ∀ subs, readSubs [(typed, body)] = .ok subs →
          FailsWith (IsDue (SubsOverflow ((typed, body) :: rest))) (readSubs rest) :=
        fun subs hmember => (readSubs_due rest).mono (IsDue.mono (.later hmember))
      cases hname : Text.splitFirst? separator typed with
      | none =>
          rw [readSubs, hname]
          exact hrest [] (by rw [readSubs, hname]; rfl)
      | some split =>
          obtain ⟨type, name⟩ := split
          by_cases hbody : body.isObject = true
          · rw [readSubs, hname]
            simp only [if_pos hbody]
            refine .bind ((readNode_due type body).mono (IsDue.mono (.here hname hbody))) fun node hnode => ?_
            have hmember : readSubs [(typed, body)] = .ok [(name, node)] := by
              rw [readSubs, hname]
              simp only [if_pos hbody, hnode]
              rfl
            exact .bind (hrest _ hmember) fun _ _ => .ok _
          · rw [readSubs, hname]
            simp only [if_neg hbody]
            exact hrest [] (by rw [readSubs, hname]; simp only [if_neg hbody]; rfl)

end

/-! ### Trees that overflow -/

theorem readCount_of_infinite {members : Members} (h : hasInfiniteCount members = true) :
    readCount members = .error .outOfRange := by
  rw [hasInfiniteCount] at h
  rw [readCount]
  cases hcount : members.lookup "doc_count" with
  | none =>
      rw [hcount] at h
      cases h
  | some v =>
      rw [hcount] at h
      exact Json.integer_of_isInfinite h

mutual

theorem readNode_of_overflows : ∀ {type : String} {body : Json}, NodeOverflows type body →
    readNode type body = .error .outOfRange
  | _, _, .buckets hshape hbuckets h => by
      rw [readNode, hshape]
      simp only [readBucketsMember_of_lookup hbuckets, readBuckets, readBucketItems_of_overflow h]
      rfl
  | _, _, .body (.inl hshape) h => by
      rw [readNode, hshape]
      exact readBody_of_overflows h _
  | _, _, .body (.inr hshape) h => by
      rw [readNode, hshape]
      exact readBody_of_overflows h _

theorem readBucketItems_of_overflow : ∀ {items : List Json}, BucketsOverflow items →
    readBucketItems items = .error .outOfRange
  | _, .here h => by
      rw [readBucketItems, readBucket, readBody_of_overflows h]
      rfl
  | _, .later hitem h => by
      rw [readBucketItems, hitem, readBucketItems_of_overflow h]
      rfl

theorem readBody_of_overflows : ∀ {members : Members}, BodyOverflows members →
    ∀ {α : Type} (make : Int → Aggregations → Except Fault α),
      (readCount members >>= fun count => readSubs members >>= fun subs => make count subs) = .error .outOfRange
  | _, .count h, _, _ => by
      rw [readCount_of_infinite h]
      rfl
  | _, .subs hcount h, _, _ => by
      rw [hcount, readSubs_of_overflow h]
      rfl

theorem readSubs_of_overflow : ∀ {members : Members}, SubsOverflow members →
    readSubs members = .error .outOfRange
  | _, .here hname hbody h => by
      rw [readSubs, hname]
      simp only [if_pos hbody, readNode_of_overflows h]
      rfl
  | _, .later hmember h => by
      rw [readSubs_cons, hmember, readSubs_of_overflow h]
      rfl

end

/-! ### The top level -/

/-- The aggregations of a reply overflow in the first that cannot be read. -/
inductive MembersOverflow : Members → Prop
  | here {typed type name : String} {body : Json} {rest : Members}
      (hname : Text.splitFirst? separator typed = some (type, name)) (h : NodeOverflows type body) :
      MembersOverflow ((typed, body) :: rest)
  | later {typed type name : String} {body : Json} {node : Aggregation} {rest : Members}
      (hname : Text.splitFirst? separator typed = some (type, name)) (hnode : readNode type body = .ok node)
      (h : MembersOverflow rest) : MembersOverflow ((typed, body) :: rest)

theorem readMembers_due (members : Members) :
    FailsWith (IsDue (MembersOverflow members)) (readMembers members) := by
  induction members with
  | nil => exact .ok _
  | cons member rest ih =>
      obtain ⟨typed, body⟩ := member
      rw [readMembers]
      cases hname : Text.splitFirst? separator typed with
      | none => exact .error (.inl rfl)
      | some split =>
          obtain ⟨type, name⟩ := split
          refine .bind ((readNode_due type body).mono (IsDue.mono (.here hname))) fun node hnode => ?_
          exact .bind (ih.mono (IsDue.mono (.later hname hnode))) fun _ _ => .ok _

theorem readMembers_of_overflow {members : Members} (h : MembersOverflow members) :
    readMembers members = .error .outOfRange := by
  induction h with
  | here hname h =>
      rw [readMembers, hname]
      simp only [readNode_of_overflows h]
      rfl
  | later hname hnode _ ih =>
      rw [readMembers, hname]
      simp only [hnode, ih]
      rfl

/-- The aggregations of a document overflow. -/
def Overflows (raw : Json) : Prop := ∃ members, raw = .obj members ∧ MembersOverflow members

theorem read_due (raw : Json) : FailsWith (IsDue (Overflows raw)) (read raw) := by
  cases raw with
  | obj members =>
      rw [read]
      split
      · exact .ok _
      · exact .map _ ((readMembers_due members).mono (IsDue.mono fun h => ⟨members, rfl, h⟩))
  | _ =>
      unfold read
      split
      · exact .ok _
      · exact .error (.inl rfl)

theorem read_of_overflows {raw : Json} (h : Overflows raw) : read raw = .error .outOfRange := by
  obtain ⟨members, rfl, h⟩ := h
  have hblank : ¬(Json.obj members).isBlank = true := by
    cases h <;> exact Bool.false_ne_true
  rw [read, if_neg hblank, readMembers_of_overflow h]
  rfl

end Aggregation

end SeriesCatalog
