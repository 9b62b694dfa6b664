import Mathlib.Logic.Relation
import SeriesCatalog.Aggregation.Reader
import SeriesCatalog.Proofs.Fallible

/-! What a tree keeps of the document it is read from. Below the top level the typed members that hold an object are
sub-aggregations: each of them is read, at every depth, and stands in the tree where it stands in the document. A
typed member that holds anything else is refused at the top level and is passed over below it. -/

namespace SeriesCatalog.Aggregation

open Fallible

/-- A member named `type#name`: its name, its type and what it holds. -/
abbrev Typed := String × String × Json

/-- The typed ones among the members of an object. -/
def typedMembers : Members → List Typed
  | [] => []
  | (typed, body) :: rest =>
    match Text.splitFirst? separator typed with
    | some (type, name) => (name, type, body) :: typedMembers rest
    | none => typedMembers rest

/-- The typed ones that hold an object. -/
def typedObjects (members : Members) : List Typed := (typedMembers members).filter (·.2.2.isObject)

/-! ### Places -/

/-- Where aggregations stand below another one: in its body or in one of its buckets. -/
inductive Place where
  | body
  | bucket (index : Nat)

/-- The members at a place below what a type and a document describe. -/
inductive StandsAt : String → Json → Place → Members → Prop
  | body {type : String} {members : Members} (hshape : shapeOf type = .nested ∨ shapeOf type = .filter) :
      StandsAt type (.obj members) .body members
  | bucket {type : String} {members bucket : Members} {items : List Json} {i : Nat} (hshape : shapeOf type = .terms)
      (hbuckets : members.lookup "buckets" = some (.arr items)) (hitem : items[i]? = some (.obj bucket)) :
      StandsAt type (.obj members) (.bucket i) bucket

/-- The aggregations at a place below a node. -/
def nodesAt : Aggregation → Place → Option Aggregations
  | .nested _ subs, .body => some subs
  | .filter _ subs, .body => some subs
  | .terms buckets, .bucket i => buckets[i]?.map Bucket.subs
  | _, _ => none

/-- The typed siblings at the end of a path through a document, where `select` gives those below the top level. Of
siblings with one name the path goes through the last. -/
inductive SiblingsAt (select : Members → List Typed) : List Typed → List (String × Place) → List Typed → Prop
  | here {siblings : List Typed} : SiblingsAt select siblings [] siblings
  | deeper {siblings found : List Typed} {name type : String} {body : Json} {place : Place} {members : Members}
      {path : List (String × Place)} (hlast : Assoc.last? name siblings = some (type, body))
      (hplace : StandsAt type body place members) (h : SiblingsAt select (select members) path found) :
      SiblingsAt select siblings ((name, place) :: path) found

/-- The aggregations at the end of a path through a tree. -/
def heldAt : Aggregations → List (String × Place) → Option Aggregations
  | nodes, [] => some nodes
  | nodes, (name, place) :: path => do heldAt (← nodesAt (← nodes.lookup name) place) path

/-! ### One level -/

/-- A typed member with its node. -/
def readTyped (m : Typed) : Except Fault (String × Aggregation) := (readNode m.2.1 m.2.2).map (m.1, ·)

theorem readSubs_eq_mapM (members : Members) : readSubs members = (typedObjects members).mapM readTyped := by
  induction members with
  | nil => rfl
  | cons member rest ih =>
      obtain ⟨typed, body⟩ := member
      rw [typedObjects] at ih
      rw [readSubs, typedObjects, typedMembers]
      cases Text.splitFirst? separator typed with
      | none => exact ih
      | some split =>
          obtain ⟨type, name⟩ := split
          simp only [List.filter_cons]
          by_cases hbody : body.isObject = true
          · rw [if_pos hbody, if_pos hbody, List.mapM_cons, ← ih, readTyped]
            cases readNode type body <;> rfl
          · rw [if_neg hbody, if_neg hbody]
            exact ih

theorem readMembers_eq_ok_iff {members : Members} {subs : Aggregations} :
    readMembers members = .ok subs ↔
      (∀ member ∈ members, separator ∈ member.1.toList) ∧ (typedMembers members).mapM readTyped = .ok subs := by
  induction members generalizing subs with
  | nil => simp [readMembers, typedMembers, pure, Except.pure]
  | cons member rest ih =>
      obtain ⟨typed, body⟩ := member
      rw [readMembers, typedMembers, List.forall_mem_cons]
      cases hsplit : Text.splitFirst? separator typed with
      | none => simp [Text.splitFirst?_eq_none_iff.mp hsplit]
      | some split =>
          obtain ⟨type, name⟩ := split
          have htyped : separator ∈ typed.toList := by
            by_contra hplain
            rw [Text.splitFirst?_eq_none_iff.mpr hplain] at hsplit
            cases hsplit
          simp only [List.mapM_cons, bind_eq_ok, ih, readTyped, map_eq_ok, pure, Except.pure, Except.ok.injEq, htyped,
            true_and]
          constructor
          · rintro ⟨node, hnode, more, ⟨hall, hmore⟩, hsubs⟩
            exact ⟨hall, _, ⟨node, hnode, rfl⟩, more, hmore, hsubs⟩
          · rintro ⟨hall, _, ⟨node, hnode, rfl⟩, more, hmore, hsubs⟩
            exact ⟨node, hnode, more, ⟨hall, hmore⟩, hsubs⟩

theorem readBucketItems_eq_mapM (items : List Json) : readBucketItems items = items.mapM readBucket := by
  induction items with
  | nil => rfl
  | cons item rest ih =>
      rw [readBucketItems, List.mapM_cons, ih]
      rfl

theorem readBucketsMember_of_lookup_none {members : Members} (h : members.lookup "buckets" = none) :
    readBucketsMember members = .ok [] := by
  induction members with
  | nil => rfl
  | cons member rest ih =>
      obtain ⟨name, held⟩ := member
      rw [List.lookup_cons] at h
      by_cases hname : name = "buckets"
      · simp [hname] at h
      · have hne : ("buckets" == name) = false := beq_eq_false_iff_ne.mpr (Ne.symm hname)
        rw [hne] at h
        rw [readBucketsMember, if_neg hname]
        exact ih h

/-- A bucket is read where its count and its sub-aggregations are. -/
theorem readBucket_eq_ok_iff {members : Members} {bucket : Bucket} :
    readBucket (.obj members) = .ok bucket ↔
      ∃ count, readCount members = .ok count ∧ ∃ subs, readSubs members = .ok subs ∧
        Bucket.mk (readKey members) count (Assoc.byName subs) = bucket := by
  rw [readBucket]
  simp only [bind_eq_ok, Except.ok.injEq]

/-- What stands below a node in the document was read, and stands there in the tree. -/
theorem nodesAt_of_standsAt {type : String} {body : Json} {node : Aggregation} {place : Place} {members : Members}
    (hread : readNode type body = .ok node) (hplace : StandsAt type body place members) :
    ∃ subs, readSubs members = .ok subs ∧ nodesAt node place = some (Assoc.byName subs) := by
  cases hplace with
  | body hshape =>
      rcases hshape with hshape | hshape
      all_goals
        rw [readNode, hshape] at hread
        obtain ⟨count, -, hread⟩ := bind_eq_ok.mp hread
        obtain ⟨subs, hsubs, hread⟩ := bind_eq_ok.mp hread
        obtain rfl := Except.ok.inj hread
        exact ⟨subs, hsubs, rfl⟩
  | bucket hshape hbuckets hitem =>
      rw [readNode, hshape] at hread
      simp only [readBucketsMember_of_lookup hbuckets, readBuckets, readBucketItems_eq_mapM] at hread
      obtain ⟨buckets, hitems, rfl⟩ := map_eq_ok.mp hread
      obtain ⟨bucket, hbucket, hitem⟩ := getElem?_of_mapM_eq_ok hitems hitem
      obtain ⟨count, -, subs, hsubs, rfl⟩ := readBucket_eq_ok_iff.mp hitem
      refine ⟨subs, hsubs, ?_⟩
      rw [nodesAt, hbucket]
      rfl

theorem shape_of_readNode {type : String} {body : Json} {node : Aggregation} (h : readNode type body = .ok node) :
    node.shape = shapeOf type := by
  cases body with
  | obj members =>
      rw [readNode] at h
      cases hshape : shapeOf type with
      | terms =>
          rw [hshape] at h
          obtain ⟨buckets, -, rfl⟩ := map_eq_ok.mp h
          rfl
      | unknown =>
          rw [hshape] at h
          obtain rfl := Except.ok.inj h
          rfl
      | _ =>
          rw [hshape] at h
          obtain ⟨count, -, h⟩ := bind_eq_ok.mp h
          obtain ⟨subs, -, h⟩ := bind_eq_ok.mp h
          obtain rfl := Except.ok.inj h
          rfl
  | _ =>
      simp only [readNode] at h
      cases hshape : shapeOf type with
      | unknown =>
          rw [hshape] at h
          obtain ⟨entries, -, rfl⟩ := map_eq_ok.mp h
          rfl
      | _ =>
          rw [hshape] at h
          cases h

/-! ### Siblings -/

/-- The nodes are those of the siblings, each under its name; of siblings with one name the last one's. -/
def AreRead (siblings : List Typed) (nodes : Aggregations) : Prop :=
  ∃ subs, siblings.mapM readTyped = .ok subs ∧ nodes = Assoc.byName subs

theorem lookup_of_areRead {siblings : List Typed} {nodes : Aggregations} (h : AreRead siblings nodes) (name : String) :
    match Assoc.last? name siblings with
    | none => nodes.lookup name = none
    | some (type, body) => ∃ node, nodes.lookup name = some node ∧ readNode type body = .ok node := by
  obtain ⟨subs, hsubs, rfl⟩ := h
  rw [Assoc.lookup_byName, Assoc.last?, Assoc.last?]
  have hpairs := List.rel_reverse (mapM_eq_ok.mp hsubs)
  generalize siblings.reverse = typed at hpairs
  generalize subs.reverse = named at hpairs
  induction hpairs with
  | nil => rfl
  | @cons m sub _ _ hm _ ih =>
      obtain ⟨bare, type, body⟩ := m
      obtain ⟨node, hnode, rfl⟩ := map_eq_ok.mp hm
      rw [List.lookup_cons, List.lookup_cons]
      cases hname : name == bare with
      | true => exact ⟨node, rfl, hnode⟩
      | false => exact ih

/-- There is no node of a name exactly where there is no sibling of it. -/
theorem lookup_eq_none_iff {siblings : List Typed} {nodes : Aggregations} (h : AreRead siblings nodes)
    (name : String) : nodes.lookup name = none ↔ ∀ m ∈ siblings, m.1 ≠ name := by
  have hlookup := lookup_of_areRead h name
  rw [← Assoc.last?_eq_none_iff]
  cases hlast : Assoc.last? name siblings with
  | none =>
      rw [hlast] at hlookup
      simp [hlookup]
  | some held =>
      rw [hlast] at hlookup
      obtain ⟨node, hnode, -⟩ := hlookup
      simp [hnode]

/-- Along a path through the document runs the same path through the tree. -/
theorem heldAt_of_siblingsAt {siblings found : List Typed} {path : List (String × Place)} {nodes : Aggregations}
    (hpath : SiblingsAt typedObjects siblings path found) (h : AreRead siblings nodes) :
    ∃ held, heldAt nodes path = some held ∧ AreRead found held := by
  induction hpath generalizing nodes with
  | here => exact ⟨nodes, rfl, h⟩
  | @deeper _ _ name _ _ _ _ _ hlast hplace _ ih =>
      have hlookup := lookup_of_areRead h name
      rw [hlast] at hlookup
      obtain ⟨node, hnode, hread⟩ := hlookup
      obtain ⟨subs, hsubs, hbelow⟩ := nodesAt_of_standsAt hread hplace
      rw [readSubs_eq_mapM] at hsubs
      obtain ⟨held, hheld, hfound⟩ := ih ⟨subs, hsubs, rfl⟩
      refine ⟨held, ?_, hfound⟩
      rw [heldAt, hnode, Option.bind_eq_bind, Option.bind_some, hbelow]
      exact hheld

/-! ### Faults at every depth -/

/-- The count that a body states is an integer. -/
def HasCount (members : Members) : Prop := ∃ count, readCount members = .ok count

/-- A body that can be read, whatever stands below it. -/
inductive IsLegible : String → Json → Prop
  | counted {type : String} {members : Members} (hshape : shapeOf type = .nested ∨ shapeOf type = .filter)
      (hcount : HasCount members) : IsLegible type (.obj members)
  | listed {type : String} {members : Members} {items : List Json} (hshape : shapeOf type = .terms)
      (hbuckets : members.lookup "buckets" = some (.arr items))
      (hitems : ∀ item ∈ items, ∃ bucket, item = .obj bucket ∧ HasCount bucket) : IsLegible type (.obj members)
  | empty {type : String} {members : Members} (hshape : shapeOf type = .terms)
      (hbuckets : members.lookup "buckets" = none ∨ members.lookup "buckets" = some (.str "") ∨
        members.lookup "buckets" = some (.obj [])) : IsLegible type (.obj members)
  | unread {type : String} {body : Json} {members : Members} (hshape : shapeOf type = .unknown)
      (hentries : body.entries = .ok members) : IsLegible type body

/-- A typed object stands below another one, in its body or in one of its buckets. -/
def IsBelow (upper lower : String × Json) : Prop :=
  ∃ place members name, StandsAt upper.1 upper.2 place members ∧ (name, lower) ∈ typedObjects members

theorem isLegible_of_readNode {type : String} {body : Json} {node : Aggregation} (h : readNode type body = .ok node) :
    IsLegible type body := by
  cases body with
  | obj members =>
      rw [readNode] at h
      cases hshape : shapeOf type with
      | terms =>
          rw [hshape] at h
          obtain ⟨buckets, h, -⟩ := map_eq_ok.mp h
          cases hbuckets : members.lookup "buckets" with
          | none => exact .empty hshape (.inl hbuckets)
          | some held =>
              rw [readBucketsMember_of_lookup hbuckets] at h
              cases held with
              | arr items =>
                  rw [readBuckets, readBucketItems_eq_mapM] at h
                  refine .listed hshape hbuckets (forall_of_mapM_eq_ok (fun item bucket hitem => ?_) h)
                  cases item with
                  | obj bucket =>
                      obtain ⟨count, hcount, -⟩ := readBucket_eq_ok_iff.mp hitem
                      exact ⟨bucket, rfl, count, hcount⟩
                  | _ => cases hitem
              | obj inner =>
                  cases inner with
                  | nil => exact .empty hshape (.inr (.inr hbuckets))
                  | cons member rest => cases h
              | str s =>
                  by_cases hempty : s = ""
                  · rw [hempty] at hbuckets
                    exact .empty hshape (.inr (.inl hbuckets))
                  · rw [readBuckets, if_neg hempty] at h
                    cases h
              | _ => cases h
      | unknown => exact .unread hshape rfl
      | _ =>
          rw [hshape] at h
          obtain ⟨count, hcount, -⟩ := bind_eq_ok.mp h
          exact .counted (by simp [hshape]) ⟨count, hcount⟩
  | _ =>
      simp only [readNode] at h
      cases hshape : shapeOf type with
      | unknown =>
          rw [hshape] at h
          obtain ⟨entries, hentries, -⟩ := map_eq_ok.mp h
          exact .unread hshape hentries
      | _ =>
          rw [hshape] at h
          cases h

/-- A legible body is read where all that stands below it is. -/
theorem exists_readNode {type : String} {body : Json} (hlegible : IsLegible type body)
    (hbelow : ∀ place members, StandsAt type body place members → ∃ subs, readSubs members = .ok subs) :
    ∃ node, readNode type body = .ok node := by
  cases hlegible with
  | counted hshape hcount =>
      obtain ⟨count, hcount⟩ := hcount
      obtain ⟨subs, hsubs⟩ := hbelow .body _ (.body hshape)
      rcases hshape with hshape | hshape
      all_goals
        rw [readNode, hshape]
        simp only [hcount, hsubs]
        exact ⟨_, rfl⟩
  | @listed _ items hshape hbuckets hitems =>
      have hread : ∃ buckets, items.mapM readBucket = .ok buckets := by
        refine exists_mapM_eq_ok_iff.mpr fun item hitem => ?_
        obtain ⟨bucket, rfl, count, hcount⟩ := hitems item hitem
        obtain ⟨i, hi⟩ := List.mem_iff_getElem?.mp hitem
        obtain ⟨subs, hsubs⟩ := hbelow (.bucket i) bucket (.bucket hshape hbuckets hi)
        exact ⟨_, readBucket_eq_ok_iff.mpr ⟨count, hcount, subs, hsubs, rfl⟩⟩
      obtain ⟨buckets, hread⟩ := hread
      rw [readNode, hshape]
      simp only [readBucketsMember_of_lookup hbuckets, readBuckets, readBucketItems_eq_mapM, hread]
      exact ⟨_, rfl⟩
  | @empty members hshape hbuckets =>
      have hread : readBucketsMember members = .ok [] := by
        rcases hbuckets with hbuckets | hbuckets | hbuckets
        · exact readBucketsMember_of_lookup_none hbuckets
        · exact readBucketsMember_of_lookup hbuckets
        · exact readBucketsMember_of_lookup hbuckets
      rw [readNode, hshape]
      simp only [hread]
      exact ⟨_, rfl⟩
  | unread hshape hentries =>
      cases body with
      | obj members =>
          rw [readNode, hshape]
          exact ⟨_, rfl⟩
      | _ =>
          simp only [readNode, hshape, hentries]
          exact ⟨_, rfl⟩

theorem exists_readTyped_iff {m : Typed} :
    (∃ sub, readTyped m = .ok sub) ↔ ∃ node, readNode m.2.1 m.2.2 = .ok node := by
  simp only [readTyped, map_eq_ok]
  constructor
  · rintro ⟨_, node, hnode, -⟩
    exact ⟨node, hnode⟩
  · rintro ⟨node, hnode⟩
    exact ⟨_, node, hnode, rfl⟩

theorem exists_readSubs_iff {members : Members} :
    (∃ subs, readSubs members = .ok subs) ↔
      ∀ m ∈ typedObjects members, ∃ node, readNode m.2.1 m.2.2 = .ok node := by
  rw [readSubs_eq_mapM, exists_mapM_eq_ok_iff]
  simp only [exists_readTyped_iff]

/-- A body is read where it is legible and each typed object below it is read. -/
theorem exists_readNode_iff {m : String × Json} :
    (∃ node, readNode m.1 m.2 = .ok node) ↔
      IsLegible m.1 m.2 ∧ ∀ lower, IsBelow m lower → ∃ node, readNode lower.1 lower.2 = .ok node := by
  constructor
  · rintro ⟨node, hnode⟩
    refine ⟨isLegible_of_readNode hnode, ?_⟩
    rintro lower ⟨place, members, name, hplace, hlower⟩
    obtain ⟨subs, hsubs, -⟩ := nodesAt_of_standsAt hnode hplace
    exact exists_readSubs_iff.mp ⟨subs, hsubs⟩ _ hlower
  · rintro ⟨hlegible, hbelow⟩
    refine exists_readNode hlegible fun place members hplace => exists_readSubs_iff.mpr ?_
    exact fun m hm => hbelow m.2 ⟨place, members, m.1, hplace, hm⟩

/-! ### The depth of a document -/

theorem sizeOf_lt_of_lookup {name : String} {members : Members} {v : Json} (h : members.lookup name = some v) :
    sizeOf v < sizeOf members := by
  induction members with
  | nil => cases h
  | cons member rest ih =>
      obtain ⟨bare, held⟩ := member
      rw [List.lookup_cons] at h
      cases hname : name == bare with
      | true =>
          rw [hname] at h
          obtain rfl : held = v := Option.some.inj h
          simp
          omega
      | false =>
          rw [hname] at h
          have := ih h
          simp
          omega

theorem sizeOf_lt_of_standsAt {type : String} {body : Json} {place : Place} {members : Members}
    (h : StandsAt type body place members) : sizeOf members < sizeOf body := by
  cases h with
  | body => simp
  | bucket _ hbuckets hitem =>
      have hitems := sizeOf_lt_of_lookup hbuckets
      have hbucket := List.sizeOf_lt_of_mem (List.mem_of_getElem? hitem)
      simp at hitems hbucket ⊢
      omega

theorem sizeOf_lt_of_mem_typedMembers {members : Members} {m : Typed} (h : m ∈ typedMembers members) :
    sizeOf m.2.2 < sizeOf members := by
  induction members with
  | nil => cases h
  | cons member rest ih =>
      obtain ⟨typed, body⟩ := member
      rw [typedMembers] at h
      cases hsplit : Text.splitFirst? separator typed with
      | none =>
          rw [hsplit] at h
          have := ih h
          simp
          omega
      | some split =>
          rw [hsplit] at h
          rcases List.mem_cons.mp h with rfl | hrest
          · simp
            omega
          · have := ih hrest
            simp
            omega

theorem sizeOf_lt_of_isBelow {upper lower : String × Json} (h : IsBelow upper lower) :
    sizeOf lower.2 < sizeOf upper.2 := by
  obtain ⟨place, members, name, hplace, hlower⟩ := h
  have hmembers := sizeOf_lt_of_mem_typedMembers (List.mem_of_mem_filter hlower)
  exact Nat.lt_trans hmembers (sizeOf_lt_of_standsAt hplace)

/-- A body is read where it and each typed object below it, at every depth, are legible. -/
theorem exists_readNode_iff_forall_isLegible {m : String × Json} :
    (∃ node, readNode m.1 m.2 = .ok node) ↔ ∀ lower, Relation.ReflTransGen IsBelow m lower → IsLegible lower.1 lower.2 := by
  constructor
  · intro hread lower hlower
    have hlast : ∃ node, readNode lower.1 lower.2 = .ok node := by
      induction hlower with
      | refl => exact hread
      | tail _ hstep ih => exact (exists_readNode_iff.mp ih).2 _ hstep
    exact (exists_readNode_iff.mp hlast).1
  · intro hlegible
    induction hsize : sizeOf m.2 using Nat.strongRecOn generalizing m with
    | ind size ih =>
        refine exists_readNode_iff.mpr ⟨hlegible m .refl, fun lower hlower => ?_⟩
        have hless := sizeOf_lt_of_isBelow hlower
        exact ih _ (hsize ▸ hless) (fun deeper hdeeper => hlegible deeper (.head hlower hdeeper)) rfl

/-! ### Whole documents -/

theorem read_obj (members : Members) : read (.obj members) = (readMembers members).map Assoc.byName := by
  cases members with
  | nil => rfl
  | cons member rest => rfl

/-- A document is read where each of its members is typed and everything typed in it is legible: below the top level
that is each typed object. What is read has a node for each of these, at the place where it stands in the document,
and no node else; of siblings with one name the last one has the node. -/
theorem read_keepsTyped (members : Members) :
    ((∃ tree, read (.obj members) = .ok tree) ↔
      (∀ member ∈ members, separator ∈ member.1.toList) ∧
        ∀ m ∈ typedMembers members, ∀ lower, Relation.ReflTransGen IsBelow m.2 lower → IsLegible lower.1 lower.2) ∧
    ∀ tree, read (.obj members) = .ok tree →
      ∀ path siblings, SiblingsAt typedObjects (typedMembers members) path siblings →
        ∃ nodes, heldAt tree path = some nodes ∧
          (∀ name, nodes.lookup name = none ↔ ∀ m ∈ siblings, m.1 ≠ name) ∧
          ∀ name type body, Assoc.last? name siblings = some (type, body) →
            ∃ node, nodes.lookup name = some node ∧ readNode type body = .ok node ∧ node.shape = shapeOf type := by
  constructor
  · have hread : (∃ tree, read (.obj members) = .ok tree) ↔ ∃ subs, readMembers members = .ok subs := by
      simp [read_obj, map_eq_ok]
    rw [hread]
    simp only [readMembers_eq_ok_iff, exists_and_left, exists_mapM_eq_ok_iff, exists_readTyped_iff,
      exists_readNode_iff_forall_isLegible]
  · intro tree hread path siblings hpath
    rw [read_obj] at hread
    obtain ⟨subs, hsubs, rfl⟩ := map_eq_ok.mp hread
    have htop : AreRead (typedMembers members) (Assoc.byName subs) := ⟨subs, (readMembers_eq_ok_iff.mp hsubs).2, rfl⟩
    obtain ⟨nodes, hnodes, hread⟩ := heldAt_of_siblingsAt hpath htop
    refine ⟨nodes, hnodes, lookup_eq_none_iff hread, fun name type body hlast => ?_⟩
    have hlookup := lookup_of_areRead hread name
    rw [hlast] at hlookup
    obtain ⟨node, hnode, hbody⟩ := hlookup
    exact ⟨node, hnode, hbody, shape_of_readNode hbody⟩

/-- The filter in a bucket of wrapped terms is in the tree, and its count decides about the whole document. -/
theorem read_keepsTyped_of_wrapped :
    let filtered (count : Json) : Members := [("doc_count", count)]
    let listed (count : Json) : Members :=
      [("buckets", .arr [.obj [("key", .str "host"), ("filter#tags_sub_agg", .obj (filtered count))]])]
    let wrapped (count : Json) : Members := [("doc_count", .int 4), ("sterms#unique_tags", .obj (listed count))]
    let members (count : Json) : Members := [("nested#tags_agg", .obj (wrapped count))]
    (∃ tree nodes node, read (.obj (members (.int 3))) = .ok tree ∧
      heldAt tree [("tags_agg", .body), ("unique_tags", .bucket 0)] = some nodes ∧
      nodes.lookup "tags_sub_agg" = some node ∧ node.shape = .filter) ∧
    ¬∃ tree, read (.obj (members (.str "three"))) = .ok tree := by
  intro filtered listed wrapped members
  constructor
  · have hsome : (read (.obj (members (.int 3)))).toOption.isSome = true := by decide +kernel
    obtain ⟨tree, htree⟩ := Option.isSome_iff_exists.mp hsome
    have hread := eq_ok_of_toOption htree
    obtain ⟨-, hkept⟩ := read_keepsTyped (members (.int 3))
    have hpath : SiblingsAt typedObjects (typedMembers (members (.int 3)))
        [("tags_agg", .body), ("unique_tags", .bucket 0)] [("tags_sub_agg", "filter", .obj (filtered (.int 3)))] :=
      .deeper rfl (.body (.inl rfl)) (.deeper rfl (.bucket rfl rfl rfl) .here)
    obtain ⟨nodes, hnodes, -, hheld⟩ := hkept _ hread _ _ hpath
    obtain ⟨node, hnode, -, hshape⟩ := hheld "tags_sub_agg" "filter" _ rfl
    exact ⟨tree, nodes, node, hread, hnodes, hnode, hshape⟩
  · intro hread
    obtain ⟨-, hlegible⟩ := (read_keepsTyped (members (.str "three"))).1.mp hread
    have hterms : IsBelow ("nested", .obj (wrapped (.str "three"))) ("sterms", .obj (listed (.str "three"))) :=
      ⟨.body, _, "unique_tags", .body (.inl rfl), List.mem_cons_self⟩
    have hfilter : IsBelow ("sterms", .obj (listed (.str "three"))) ("filter", .obj (filtered (.str "three"))) :=
      ⟨.bucket 0, _, "tags_sub_agg", .bucket rfl rfl rfl, List.mem_cons_self⟩
    have hlast := hlegible _ List.mem_cons_self _ (.head hterms (.single hfilter))
    cases hlast with
    | counted _ hcount =>
        obtain ⟨count, hcount⟩ := hcount
        cases hcount
    | listed hshape => cases hshape
    | empty hshape => cases hshape
    | unread hshape => cases hshape

/-- A wrapper that holds null under a typed name is read as if it held nothing, while the same member is refused at
the top level: a typed member with a name of its own need not have a node. -/
theorem not_forall_hasNode :
    (¬∀ members tree, read (.obj members) = .ok tree →
      ∀ path siblings, SiblingsAt typedMembers (typedMembers members) path siblings →
        ∃ nodes, heldAt tree path = some nodes ∧
          ∀ m ∈ siblings, (siblings.map (·.1)).count m.1 = 1 → (nodes.lookup m.1).isSome = true) ∧
    read (.obj [("sterms#unique_metrics", .null)]) = .error .noMember := by
  have hterms : Text.splitFirst? separator "sterms#unique_metrics" = some ("sterms", "unique_metrics") := by
    decide +kernel
  have hnested : Text.splitFirst? separator "nested#metric_agg" = some ("nested", "metric_agg") := by decide +kernel
  have hrefused : read (.obj [("sterms#unique_metrics", .null)]) = .error .noMember := by
    rw [read_obj, readMembers, hterms]
    rfl
  have hread : read (.obj [("nested#metric_agg", .obj [("doc_count", .int 3), ("sterms#unique_metrics", .null)])]) =
      .ok [("metric_agg", .nested 3 [])] := by
    rw [read_obj, readMembers, hnested]
    rfl
  refine ⟨fun hall => ?_, hrefused⟩
  have hpath : SiblingsAt typedMembers
      (typedMembers [("nested#metric_agg", .obj [("doc_count", .int 3), ("sterms#unique_metrics", .null)])])
      [("metric_agg", .body)] [("unique_metrics", "sterms", .null)] := .deeper rfl (.body (.inl rfl)) .here
  obtain ⟨nodes, hnodes, hpresent⟩ := hall _ _ hread _ _ hpath
  obtain rfl : [] = nodes := Option.some.inj hnodes
  have hnode := hpresent _ List.mem_cons_self (by decide)
  cases hnode

end SeriesCatalog.Aggregation
