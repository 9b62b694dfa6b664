import SeriesCatalog.Proofs.Aggregation.Presence

/-! Why a document cannot be read as a tree. Whatever is read item by item has the fault of its first faulty item:
the members of a document, the buckets of terms, the typed objects of a body. The count of a body or of a bucket comes
before everything below it. -/

namespace SeriesCatalog.Aggregation

open Fallible

/-! ### Buckets as items -/

theorem readBucketsMember_eq (members : Members) :
    readBucketsMember members =
      match members.lookup "buckets" with
      | some held => readBuckets held
      | none => .ok [] := by
  cases h : members.lookup "buckets" with
  | some held => exact readBucketsMember_of_lookup h
  | none => exact readBucketsMember_of_lookup_none h

/-- Whatever holds the buckets is walked. -/
theorem readBuckets_eq (held : Json) : readBuckets held = held.items >>= fun items => items.mapM readBucket := by
  cases held with
  | arr items => exact readBucketItems_eq_mapM items
  | obj members => cases members <;> rfl
  | str s =>
      rw [readBuckets, Json.items]
      by_cases hempty : s = ""
      · rw [if_pos hempty, hempty]
        rfl
      · rw [if_neg hempty]
        cases hchars : s.toList with
        | nil => exact absurd (String.toList_eq_nil_iff.mp hchars) hempty
        | cons c rest => rfl
  | _ => rfl

/-- Only an array has objects among its items. -/
theorem eq_arr_of_items {held : Json} {items : List Json} {members : Members} (h : held.items = .ok items)
    (hmem : .obj members ∈ items) : held = .arr items := by
  cases held with
  | arr listed =>
      obtain rfl := Except.ok.inj h
      rfl
  | obj named =>
      obtain rfl := Except.ok.inj h
      obtain ⟨member, -, hname⟩ := List.mem_map.mp hmem
      cases hname
  | str s =>
      obtain rfl := Except.ok.inj h
      obtain ⟨c, -, hchar⟩ := List.mem_map.mp hmem
      cases hchar
  | _ => cases h

/-! ### Documents that fail -/

mutual

/-- What a type and a document describe cannot be read, for the sake of a fault. -/
inductive NodeFails : String → Json → Fault → Prop
  | body {type : String} {members : Members} {fault : Fault} (hshape : shapeOf type = .nested ∨ shapeOf type = .filter)
      (h : BodyFails members fault) : NodeFails type (.obj members) fault
  | bucket {type : String} {members : Members} {held item : Json} {before after : List Json} {fault : Fault}
      (hshape : shapeOf type = .terms) (hbuckets : members.lookup "buckets" = some held)
      (hitems : held.items = .ok (before ++ item :: after)) (hbefore : ∀ b ∈ before, ∃ bucket, readBucket b = .ok bucket)
      (h : BucketFails item fault) : NodeFails type (.obj members) fault
  | unwalked {type : String} {members : Members} {held : Json} {fault : Fault} (hshape : shapeOf type = .terms)
      (hbuckets : members.lookup "buckets" = some held) (hitems : held.items = .error fault) :
      NodeFails type (.obj members) fault
  | noObject {type : String} {body : Json} (hshape : shapeOf type ≠ .unknown) (hbody : body.isObject = false) :
      NodeFails type body .noMember
  | unread {type : String} {body : Json} {fault : Fault} (hshape : shapeOf type = .unknown)
      (hentries : body.entries = .error fault) : NodeFails type body fault

/-- A bucket cannot be read. -/
inductive BucketFails : Json → Fault → Prop
  | body {members : Members} {fault : Fault} (h : BodyFails members fault) : BucketFails (.obj members) fault
  | noObject {item : Json} (hitem : item.isObject = false) : BucketFails item .noMember

/-- A body has a count that is no integer, or else a typed object that cannot be read, behind others that can. -/
inductive BodyFails : Members → Fault → Prop
  | count {members : Members} {stated : Json} {fault : Fault} (hcount : members.lookup "doc_count" = some stated)
      (h : stated.integer = .error fault) : BodyFails members fault
  | sub {members : Members} {before after : List Typed} {name type : String} {body : Json} {fault : Fault}
      (hcount : HasCount members) (hsubs : typedObjects members = before ++ (name, type, body) :: after)
      (hbefore : ∀ m ∈ before, ∃ node, readNode m.2.1 m.2.2 = .ok node) (h : NodeFails type body fault) :
      BodyFails members fault

end

/-! ### One level -/

theorem readCount_eq_error {members : Members} {fault : Fault} :
    readCount members = .error fault ↔
      ∃ stated, members.lookup "doc_count" = some stated ∧ stated.integer = .error fault := by
  rw [readCount]
  cases members.lookup "doc_count" <;> simp

theorem readTyped_eq_error {m : Typed} {fault : Fault} :
    readTyped m = .error fault ↔ readNode m.2.1 m.2.2 = .error fault := map_eq_error

theorem readSubs_eq_error {members : Members} {fault : Fault} :
    readSubs members = .error fault ↔
      ∃ before m after, typedObjects members = before ++ m :: after ∧
        (∀ b ∈ before, ∃ node, readNode b.2.1 b.2.2 = .ok node) ∧ readNode m.2.1 m.2.2 = .error fault := by
  simp only [readSubs_eq_mapM, mapM_eq_error, readTyped_eq_error, exists_readTyped_iff]

/-- The faults of a body, whatever is made of its count and its sub-aggregations. -/
theorem readBody_eq_error {α : Type} {members : Members} {make : Int → Aggregations → α} {fault : Fault} :
    (readCount members >>= fun count => readSubs members >>= fun subs => .ok (make count subs)) = .error fault ↔
      readCount members = .error fault ∨ HasCount members ∧ readSubs members = .error fault := by
  rw [HasCount]
  simp [bind_eq_error]

theorem readBuckets_eq_error {held : Json} {fault : Fault} :
    readBuckets held = .error fault ↔
      held.items = .error fault ∨ ∃ before item after, held.items = .ok (before ++ item :: after) ∧
        (∀ b ∈ before, ∃ bucket, readBucket b = .ok bucket) ∧ readBucket item = .error fault := by
  simp only [readBuckets_eq, bind_eq_error, mapM_eq_error]
  refine or_congr_right ⟨?_, ?_⟩
  · rintro ⟨_, hitems, before, item, after, rfl, hbefore, hitem⟩
    exact ⟨before, item, after, hitems, hbefore, hitem⟩
  · rintro ⟨before, item, after, hitems, hbefore, hitem⟩
    exact ⟨_, hitems, before, item, after, rfl, hbefore, hitem⟩

/-! ### Every level -/

mutual

theorem readNode_of_fails : ∀ {type : String} {body : Json} {fault : Fault},
    NodeFails type body fault → readNode type body = .error fault
  | _, _, _, .body (.inl hshape) h => by
      rw [readNode, hshape]
      exact readBody_of_fails h _
  | _, _, _, .body (.inr hshape) h => by
      rw [readNode, hshape]
      exact readBody_of_fails h _
  | _, _, _, .bucket hshape hbuckets hitems hbefore h => by
      rw [readNode, hshape]
      simp only [readBucketsMember_of_lookup hbuckets]
      refine map_eq_error.mpr (readBuckets_eq_error.mpr (.inr ⟨_, _, _, hitems, hbefore, ?_⟩))
      exact readBucket_of_fails h
  | _, _, _, .unwalked hshape hbuckets hitems => by
      rw [readNode, hshape]
      simp only [readBucketsMember_of_lookup hbuckets]
      exact map_eq_error.mpr (readBuckets_eq_error.mpr (.inl hitems))
  | _, body, _, .noObject hshape hbody => by
      cases body with
      | obj members => cases hbody
      | _ => simp only [readNode]
  | _, body, _, .unread hshape hentries => by
      cases body with
      | obj members => cases hentries
      | _ => simp only [readNode, hshape, hentries, Except.map]

theorem readBucket_of_fails : ∀ {item : Json} {fault : Fault}, BucketFails item fault → readBucket item = .error fault
  | _, _, .body h => by
      rw [readBucket]
      exact readBody_of_fails h _
  | item, _, .noObject hitem => by
      cases item with
      | obj members => cases hitem
      | _ => rfl

theorem readBody_of_fails : ∀ {members : Members} {fault : Fault}, BodyFails members fault →
    ∀ {α : Type} (make : Int → Aggregations → α),
      (readCount members >>= fun count => readSubs members >>= fun subs => .ok (make count subs)) = .error fault
  | _, _, .count hcount h, _, _ => readBody_eq_error.mpr (.inl (readCount_eq_error.mpr ⟨_, hcount, h⟩))
  | _, _, .sub hcount hsubs hbefore h, _, _ =>
      readBody_eq_error.mpr
        (.inr ⟨hcount, readSubs_eq_error.mpr ⟨_, _, _, hsubs, hbefore, readNode_of_fails h⟩⟩)

end

/-- A body fails if the nodes below it fail where they cannot be read. -/
theorem fails_of_readBody {α : Type} {members : Members} {make : Int → Aggregations → α} {fault : Fault}
    (hnodes : ∀ m ∈ typedObjects members, readNode m.2.1 m.2.2 = .error fault → NodeFails m.2.1 m.2.2 fault)
    (h : (readCount members >>= fun count => readSubs members >>= fun subs => .ok (make count subs)) = .error fault) :
    BodyFails members fault := by
  rcases readBody_eq_error.mp h with hcount | ⟨hcount, hsubs⟩
  · obtain ⟨stated, hstated, hfault⟩ := readCount_eq_error.mp hcount
    exact .count hstated hfault
  · obtain ⟨before, m, after, hmembers, hbefore, hfault⟩ := readSubs_eq_error.mp hsubs
    refine .sub hcount hmembers hbefore (hnodes m ?_ hfault)
    rw [hmembers]
    exact List.mem_append_right _ List.mem_cons_self

/-- A document that cannot be read fails, and its fault is told by what stands first. -/
theorem readNode_eq_error_iff {type : String} {body : Json} {fault : Fault} :
    readNode type body = .error fault ↔ NodeFails type body fault := by
  refine ⟨fun h => ?_, readNode_of_fails⟩
  -- the size of the document bounds that of all typed objects below it, in its body or in its buckets
  induction hsize : sizeOf body using Nat.strongRecOn generalizing type body with
  | ind size ih =>
      have hbelow : ∀ place members, StandsAt type body place members →
          ∀ m ∈ typedObjects members, readNode m.2.1 m.2.2 = .error fault → NodeFails m.2.1 m.2.2 fault := by
        intro place members hplace m hm hfault
        have hlower : IsBelow (type, body) m.2 := ⟨place, members, m.1, hplace, hm⟩
        have hless := sizeOf_lt_of_isBelow hlower
        exact ih _ (hsize ▸ hless) hfault rfl
      cases body with
      | obj members =>
          rw [readNode] at h
          cases hshape : shapeOf type with
          | terms =>
              rw [hshape, map_eq_error, readBucketsMember_eq] at h
              cases hbuckets : members.lookup "buckets" with
              | none =>
                  rw [hbuckets] at h
                  cases h
              | some held =>
                  rw [hbuckets] at h
                  rcases readBuckets_eq_error.mp h with hitems | ⟨before, item, after, hitems, hbefore, hitem⟩
                  · exact .unwalked hshape hbuckets hitems
                  · refine .bucket hshape hbuckets hitems hbefore ?_
                    cases item with
                    | obj bucket =>
                        rw [eq_arr_of_items hitems (List.mem_append_right _ List.mem_cons_self)] at hbuckets
                        have hplace : StandsAt type (.obj members) (.bucket before.length) bucket :=
                          .bucket hshape hbuckets (by simp)
                        exact .body (fails_of_readBody (hbelow _ _ hplace) hitem)
                    | _ =>
                        obtain rfl := Except.error.inj hitem
                        exact .noObject rfl
          | unknown =>
              rw [hshape] at h
              cases h
          | nested =>
              rw [hshape] at h
              exact .body (.inl hshape) (fails_of_readBody (hbelow _ _ (.body (.inl hshape))) h)
          | filter =>
              rw [hshape] at h
              exact .body (.inr hshape) (fails_of_readBody (hbelow _ _ (.body (.inr hshape))) h)
      | _ =>
          simp only [readNode] at h
          cases hshape : shapeOf type with
          | unknown =>
              rw [hshape] at h
              exact .unread hshape (map_eq_error.mp h)
          | _ =>
              rw [hshape] at h
              obtain rfl := Except.error.inj h
              exact .noObject (by simp [hshape]) rfl

/-! ### The top level -/

/-- A member that has to be typed, with its node. -/
def readMember (member : String × Json) : Except Fault (String × Aggregation) :=
  match Text.splitFirst? separator member.1 with
  | none => .error (.untypedName member.1)
  | some (type, name) => readTyped (name, type, member.2)

theorem readMembers_eq_mapM (members : Members) : readMembers members = members.mapM readMember := by
  induction members with
  | nil => rfl
  | cons member rest ih =>
      obtain ⟨typed, body⟩ := member
      rw [readMembers, List.mapM_cons, ← ih, readMember]
      cases Text.splitFirst? separator typed with
      | none => rfl
      | some split =>
          simp only [readTyped]
          cases readNode split.1 body <;> rfl

/-- A member of the top level is untyped, or it cannot be read under its type. -/
inductive MemberFails : String × Json → Fault → Prop
  | untyped {typed : String} {body : Json} (hname : separator ∉ typed.toList) :
      MemberFails (typed, body) (.untypedName typed)
  | node {typed type name : String} {body : Json} {fault : Fault}
      (hname : Text.splitFirst? separator typed = some (type, name)) (h : NodeFails type body fault) :
      MemberFails (typed, body) fault

theorem readMember_eq_error_iff {member : String × Json} {fault : Fault} :
    readMember member = .error fault ↔ MemberFails member fault := by
  obtain ⟨typed, body⟩ := member
  constructor
  · intro h
    rw [readMember] at h
    cases hname : Text.splitFirst? separator typed with
    | none =>
        rw [hname] at h
        obtain rfl := Except.error.inj h
        exact .untyped (Text.splitFirst?_eq_none_iff.mp hname)
    | some split =>
        rw [hname] at h
        exact .node hname (readNode_eq_error_iff.mp (readTyped_eq_error.mp h))
  · intro h
    cases h with
    | untyped hname => rw [readMember, Text.splitFirst?_eq_none_iff.mpr hname]
    | node hname h =>
        rw [readMember, hname]
        exact readTyped_eq_error.mpr (readNode_of_fails h)

/-- A document fails with the fault of its first faulty member. -/
theorem read_eq_error_iff {members : Members} {fault : Fault} :
    read (.obj members) = .error fault ↔
      ∃ before member after, members = before ++ member :: after ∧
        (∀ m ∈ before, ¬∃ other, MemberFails m other) ∧ MemberFails member fault := by
  have hread : ∀ member, (∃ sub, readMember member = .ok sub) ↔ ¬∃ other, MemberFails member other := by
    intro member
    simp only [← readMember_eq_error_iff]
    cases readMember member <;> simp
  simp only [read_obj, map_eq_error, readMembers_eq_mapM, mapM_eq_error, hread, readMember_eq_error_iff]

end SeriesCatalog.Aggregation
