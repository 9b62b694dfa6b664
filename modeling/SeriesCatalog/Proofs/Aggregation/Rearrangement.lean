import Mathlib.Data.List.Induction
import SeriesCatalog.Proofs.Aggregation.FirstFault
import SeriesCatalog.Proofs.Aggregation.RoundTrip

/-! Documents that are read alike. Members may change places where no two of them are typed with one bare name, and
members that nobody asks for may come and go below the top level: the tree stays the same up to the order of siblings,
and a document that cannot be read stays one. What the order of a document does decide is which fault is met first, and
which of two siblings of one name is kept. -/

namespace SeriesCatalog.Aggregation

open Fallible

/-! ### Trees up to the order of siblings -/

mutual

/-- Nodes that are the same up to the order of siblings, at every depth. -/
inductive NodeMatches : Aggregation → Aggregation → Prop
  | terms {buckets others : List Bucket} (h : BucketsMatch buckets others) :
      NodeMatches (.terms buckets) (.terms others)
  | nested (count : Int) {subs others : Aggregations} (h : SubsMatch subs others) :
      NodeMatches (.nested count subs) (.nested count others)
  | filter (count : Int) {subs others : Aggregations} (h : SubsMatch subs others) :
      NodeMatches (.filter count subs) (.filter count others)
  | unknown (type : String) (body : Members) : NodeMatches (.unknown type body) (.unknown type body)

/-- Buckets keep their order. -/
inductive BucketsMatch : List Bucket → List Bucket → Prop
  | nil : BucketsMatch [] []
  | cons (key : String) (count : Int) {subs others : Aggregations} {buckets more : List Bucket}
      (hsubs : SubsMatch subs others) (h : BucketsMatch buckets more) :
      BucketsMatch (.mk key count subs :: buckets) (.mk key count others :: more)

/-- Siblings in any order, each under its name. -/
inductive SubsMatch : Aggregations → Aggregations → Prop
  | nil : SubsMatch [] []
  | cons (name : String) {node other : Aggregation} {subs others : Aggregations} (hnode : NodeMatches node other)
      (h : SubsMatch subs others) : SubsMatch ((name, node) :: subs) ((name, other) :: others)
  | swap (first second : String × Aggregation) (subs : Aggregations) :
      SubsMatch (first :: second :: subs) (second :: first :: subs)
  | trans {subs middle others : Aggregations} (hfirst : SubsMatch subs middle) (hsecond : SubsMatch middle others) :
      SubsMatch subs others

end

mutual

theorem NodeMatches.refl : ∀ node : Aggregation, NodeMatches node node
  | .terms buckets => .terms (BucketsMatch.refl buckets)
  | .nested count subs => .nested count (SubsMatch.refl subs)
  | .filter count subs => .filter count (SubsMatch.refl subs)
  | .unknown type body => .unknown type body

theorem BucketsMatch.refl : ∀ buckets : List Bucket, BucketsMatch buckets buckets
  | [] => .nil
  | .mk key count subs :: rest => .cons key count (SubsMatch.refl subs) (BucketsMatch.refl rest)

theorem SubsMatch.refl : ∀ subs : List (String × Aggregation), SubsMatch subs subs
  | [] => .nil
  | (name, node) :: rest => .cons name (NodeMatches.refl node) (SubsMatch.refl rest)

end

mutual

theorem NodeMatches.symm : ∀ {node other : Aggregation}, NodeMatches node other → NodeMatches other node
  | _, _, .terms h => .terms h.symm
  | _, _, .nested count h => .nested count h.symm
  | _, _, .filter count h => .filter count h.symm
  | _, _, .unknown type body => .unknown type body

theorem BucketsMatch.symm : ∀ {buckets others : List Bucket}, BucketsMatch buckets others → BucketsMatch others buckets
  | _, _, .nil => .nil
  | _, _, .cons key count hsubs h => .cons key count hsubs.symm h.symm

theorem SubsMatch.symm : ∀ {subs others : Aggregations}, SubsMatch subs others → SubsMatch others subs
  | _, _, .nil => .nil
  | _, _, .cons name hnode h => .cons name hnode.symm h.symm
  | _, _, .swap first second subs => .swap second first subs
  | _, _, .trans hfirst hsecond => .trans hsecond.symm hfirst.symm

end

theorem SubsMatch.of_perm {subs others : Aggregations} (h : subs.Perm others) : SubsMatch subs others := by
  induction h with
  | nil => exact .nil
  | cons sub _ ih => exact .cons sub.1 (.refl sub.2) ih
  | swap first second subs => exact .swap second first subs
  | trans _ _ hfirst hsecond => exact .trans hfirst hsecond

/-- Siblings one by one, in one order. -/
def SubMatches (sub other : String × Aggregation) : Prop := sub.1 = other.1 ∧ NodeMatches sub.2 other.2

def BucketMatches (bucket other : Bucket) : Prop :=
  bucket.key = other.key ∧ bucket.count = other.count ∧ SubsMatch bucket.subs other.subs

theorem SubMatches.refl (sub : String × Aggregation) : SubMatches sub sub := ⟨rfl, .refl sub.2⟩

theorem BucketMatches.refl (bucket : Bucket) : BucketMatches bucket bucket := ⟨rfl, rfl, .refl bucket.subs⟩

theorem SubsMatch.of_forall₂ {subs others : Aggregations} (h : List.Forall₂ SubMatches subs others) :
    SubsMatch subs others := by
  induction h with
  | nil => exact .nil
  | @cons sub other _ _ hsub _ ih =>
      obtain ⟨name, node⟩ := sub
      obtain ⟨name', node'⟩ := other
      obtain ⟨rfl, hnode⟩ := hsub
      exact .cons name hnode ih

theorem BucketsMatch.of_forall₂ {buckets others : List Bucket} (h : List.Forall₂ BucketMatches buckets others) :
    BucketsMatch buckets others := by
  induction h with
  | nil => exact .nil
  | @cons bucket other _ _ hbucket _ ih =>
      obtain ⟨key, count, subs⟩ := bucket
      obtain ⟨key', count', subs'⟩ := other
      obtain ⟨rfl, rfl, hsubs⟩ := hbucket
      exact .cons key count hsubs ih

theorem put_subMatches (name : String) {node other : Aggregation} (hnode : NodeMatches node other)
    {held others : Aggregations} (h : List.Forall₂ SubMatches held others) :
    List.Forall₂ SubMatches (Assoc.put (· == ·) name node held) (Assoc.put (· == ·) name other others) := by
  induction h with
  | nil => exact .cons ⟨rfl, hnode⟩ .nil
  | @cons sub sub' _ _ hsub hrest ih =>
      obtain ⟨key, kept⟩ := sub
      obtain ⟨key', kept'⟩ := sub'
      obtain ⟨rfl, hkept⟩ := hsub
      rw [Assoc.put, Assoc.put]
      split
      · exact .cons ⟨rfl, hnode⟩ hrest
      · exact .cons ⟨rfl, hkept⟩ ih

/-- Of siblings that match one by one the same are kept, at the same places. -/
theorem byName_subMatches {subs others : Aggregations} (h : List.Forall₂ SubMatches subs others) :
    List.Forall₂ SubMatches (Assoc.byName subs) (Assoc.byName others) := by
  have hfold : ∀ held kept : Aggregations, List.Forall₂ SubMatches held kept →
      List.Forall₂ SubMatches (subs.foldl (fun held (name, node) => Assoc.put (· == ·) name node held) held)
        (others.foldl (fun held (name, node) => Assoc.put (· == ·) name node held) kept) := by
    induction h with
    | nil => exact fun _ _ hheld => hheld
    | @cons sub other _ _ hsub _ ih =>
        intro held kept hheld
        obtain ⟨name, node⟩ := sub
        obtain ⟨name', node'⟩ := other
        obtain ⟨rfl, hnode⟩ := hsub
        exact ih _ _ (put_subMatches name hnode hheld)
  exact hfold [] [] .nil

/-! ### Rearranged documents -/

/-- The names that a reader asks for in a body or in a bucket. -/
def askedNames : List String := ["doc_count", "key", "key_as_string", "buckets"]

/-- A name that says nothing below the top level: it has no type, and nobody asks for it. -/
structure IsIdle (name : String) : Prop where
  untyped : separator ∉ name.toList
  unasked : name ∉ askedNames

/-- Members that may change places: no two have one name, and no two typed ones have one bare name. -/
structure AreMovable (members : Members) : Prop where
  distinct : AreDistinct members
  bare : ((typedMembers members).map (·.1)).Nodup

mutual

/-- One change to what a type and a document describe. The body of a type without a reader is not changed. -/
inductive BodyEdit : String → Json → Json → Prop
  | body {type : String} {members others : Members} (hshape : shapeOf type ≠ .unknown)
      (h : MembersEdit members others) : BodyEdit type (.obj members) (.obj others)
  | bucket {type : String} {bucket other : Members} (front rest : Members) (before after : List Json)
      (hshape : shapeOf type = .terms) (h : MembersEdit bucket other) :
      BodyEdit type (.obj (front ++ ("buckets", .arr (before ++ .obj bucket :: after)) :: rest))
        (.obj (front ++ ("buckets", .arr (before ++ .obj other :: after)) :: rest))

/-- One change to the members of a body or of a bucket. -/
inductive MembersEdit : Members → Members → Prop
  | reorder {members others : Members} (hperm : members.Perm others) (h : AreMovable members) :
      MembersEdit members others
  | idle {name : String} (front rest : Members) (value : Json) (hname : IsIdle name) :
      MembersEdit (front ++ rest) (front ++ (name, value) :: rest)
  | deeper {typed type name : String} {body other : Json} (front rest : Members)
      (hname : Text.splitFirst? separator typed = some (type, name)) (h : BodyEdit type body other) :
      MembersEdit (front ++ (typed, body) :: rest) (front ++ (typed, other) :: rest)

end

/-- One change to a whole document, where every member has to be typed. -/
inductive Edit : Members → Members → Prop
  | reorder {members others : Members} (hperm : members.Perm others) (h : AreMovable members) : Edit members others
  | deeper {typed type name : String} {body other : Json} (front rest : Members)
      (hname : Text.splitFirst? separator typed = some (type, name)) (h : BodyEdit type body other) :
      Edit (front ++ (typed, body) :: rest) (front ++ (typed, other) :: rest)

/-- Documents that become each other by such changes, done and undone. -/
abbrev IsRearranged : Members → Members → Prop := Relation.EqvGen Edit

/-! ### What a change leaves -/

theorem lookup_middle {name other : String} (h : name ≠ other) (front rest : Members) (value : Json) :
    (front ++ (other, value) :: rest).lookup name = (front ++ rest).lookup name := by
  rw [List.lookup_append, List.lookup_append, List.lookup_cons, beq_eq_false_iff_ne.mpr h]

theorem separator_notMem_of_asked {name : String} (h : name ∈ askedNames) : separator ∉ name.toList := by
  have hall : ∀ asked ∈ askedNames, separator ∉ asked.toList := by decide +kernel
  exact hall name h

theorem separator_mem_of_split {typed type name : String} (h : Text.splitFirst? separator typed = some (type, name)) :
    separator ∈ typed.toList := by
  by_contra hplain
  rw [splitFirst?_eq_none hplain] at h
  cases h

/-- What is asked for in a body is the same after a change to its members. -/
theorem MembersEdit.lookup_asked {members others : Members} (h : MembersEdit members others) {name : String}
    (hname : name ∈ askedNames) : members.lookup name = others.lookup name := by
  cases h with
  | reorder hperm h => exact Assoc.lookup_perm hperm h.distinct name
  | @idle other front rest value hidle =>
      have hne : name ≠ other := by
        rintro rfl
        exact hidle.unasked hname
      rw [lookup_middle hne]
  | @deeper typed type bare body other front rest htyped h =>
      have hne : name ≠ typed := by
        rintro rfl
        exact separator_notMem_of_asked hname (separator_mem_of_split htyped)
      rw [lookup_middle hne, lookup_middle hne]

theorem typedMembers_eq_filterMap (members : Members) :
    typedMembers members =
      members.filterMap fun member =>
        (Text.splitFirst? separator member.1).map fun (type, name) => (name, type, member.2) := by
  induction members with
  | nil => rfl
  | cons member rest ih =>
      obtain ⟨typed, body⟩ := member
      rw [typedMembers, List.filterMap_cons, ih]
      cases Text.splitFirst? separator typed <;> rfl

theorem typedObjects_perm {members others : Members} (h : members.Perm others) :
    (typedObjects members).Perm (typedObjects others) := by
  rw [typedObjects, typedObjects, typedMembers_eq_filterMap, typedMembers_eq_filterMap]
  exact (h.filterMap _).filter _

theorem typedObjects_idle {name : String} (h : separator ∉ name.toList) (front rest : Members) (value : Json) :
    typedObjects (front ++ (name, value) :: rest) = typedObjects (front ++ rest) := by
  simp [typedObjects, typedMembers_eq_filterMap, splitFirst?_eq_none h]

theorem typedObjects_middle {typed type name : String} {body : Json}
    (hname : Text.splitFirst? separator typed = some (type, name)) (hbody : body.isObject = true)
    (front rest : Members) :
    typedObjects (front ++ (typed, body) :: rest) = typedObjects front ++ (name, type, body) :: typedObjects rest := by
  simp [typedObjects, typedMembers_eq_filterMap, hname, hbody]

/-- The names of what is read are those of the siblings. -/
theorem map_fst_of_mapM_readTyped {siblings : List Typed} {subs : Aggregations}
    (h : siblings.mapM readTyped = .ok subs) : subs.map (·.1) = siblings.map (·.1) := by
  have hpairs := mapM_eq_ok.mp h
  clear h
  induction hpairs with
  | nil => rfl
  | cons hhead _ ih =>
      obtain ⟨node, -, rfl⟩ := map_eq_ok.mp hhead
      rw [List.map_cons, List.map_cons, ih]

/-- Siblings of distinct names in another order give a tree that matches. -/
theorem subsMatch_of_perm {siblings : List Typed} {subs others : Aggregations}
    (hbare : (siblings.map (·.1)).Nodup) (hread : siblings.mapM readTyped = .ok subs) (h : subs.Perm others) :
    SubsMatch (Assoc.byName subs) (Assoc.byName others) := by
  have hsubs : (subs.map (·.1)).Nodup := by
    rwa [map_fst_of_mapM_readTyped hread]
  rw [Assoc.byName_eq_self hsubs, Assoc.byName_eq_self ((h.map _).nodup_iff.mp hsubs)]
  exact .of_perm h

/-! ### One change -/

/-- What is made of a count and of siblings, if these match. -/
theorem agree_body {α : Type} {R : α → α → Prop} {members others : Members} {make make' : Int → Aggregations → α}
    (hmake : ∀ count subs more, SubsMatch subs more → R (make count subs) (make' count more))
    (hcount : members.lookup "doc_count" = others.lookup "doc_count")
    (hsubs : Agree (fun subs more => SubsMatch (Assoc.byName subs) (Assoc.byName more)) (readSubs members)
      (readSubs others)) :
    Agree R (readCount members >>= fun count => readSubs members >>= fun subs => .ok (make count (Assoc.byName subs)))
      (readCount others >>= fun count => readSubs others >>= fun subs => .ok (make' count (Assoc.byName subs))) := by
  have hread : readCount members = readCount others := by
    rw [readCount, readCount, hcount]
  rw [hread]
  refine (Agree.refl (fun _ => rfl) (readCount others)).bind fun count stated hstated => ?_
  obtain rfl : count = stated := hstated
  exact hsubs.bind fun _ _ hmatch => .ok (hmake count _ _ hmatch)

theorem BodyEdit.isObject {type : String} {body other : Json} (h : BodyEdit type body other) :
    body.isObject = true ∧ other.isObject = true := by
  cases h <;> exact ⟨rfl, rfl⟩

/-- A bucket keeps its key and its count. -/
theorem agree_bucket {bucket other : Members} (h : MembersEdit bucket other)
    (hsubs : Agree (fun subs more => SubsMatch (Assoc.byName subs) (Assoc.byName more)) (readSubs bucket)
      (readSubs other)) :
    Agree BucketMatches (readBucket (.obj bucket)) (readBucket (.obj other)) := by
  have hkey : readKey bucket = readKey other := by
    rw [readKey, readKey, h.lookup_asked (show "key_as_string" ∈ askedNames by decide),
      h.lookup_asked (show "key" ∈ askedNames by decide)]
  rw [readBucket, readBucket]
  exact agree_body (fun _ _ _ hmatch => ⟨hkey, rfl, hmatch⟩)
    (h.lookup_asked (show "doc_count" ∈ askedNames by decide)) hsubs

mutual

theorem BodyEdit.agree : ∀ {type : String} {body other : Json}, BodyEdit type body other →
    Agree NodeMatches (readNode type body) (readNode type other)
  | type, _, _, .body hshape h => by
      have hcount := h.lookup_asked (show "doc_count" ∈ askedNames by decide)
      have hbuckets := h.lookup_asked (show "buckets" ∈ askedNames by decide)
      rw [readNode, readNode]
      cases hread : shapeOf type with
      | terms =>
          simp only [readBucketsMember_eq, hbuckets]
          exact .refl .refl _
      | nested => exact agree_body (fun count _ _ hsubs => .nested count hsubs) hcount h.agree
      | filter => exact agree_body (fun count _ _ hsubs => .filter count hsubs) hcount h.agree
      | unknown => exact absurd hread hshape
  | type, _, _, .bucket front rest before after hshape h => by
      have hitem := agree_bucket h h.agree
      rw [readNode, readNode, hshape]
      simp only [readBucketsMember_eq, List.lookup_append]
      cases front.lookup "buckets" with
      | some held => exact .refl .refl _
      | none =>
          simp only [Option.none_or, List.lookup_cons_self, readBuckets, readBucketItems_eq_mapM]
          exact (Agree.mapM_middle .refl hitem before after).map fun _ _ h => .terms (.of_forall₂ h)

theorem MembersEdit.agree : ∀ {members others : Members}, MembersEdit members others →
    Agree (fun subs more => SubsMatch (Assoc.byName subs) (Assoc.byName more)) (readSubs members) (readSubs others)
  | members, others, .reorder hperm h => by
      rw [readSubs_eq_mapM, readSubs_eq_mapM]
      refine (Agree.mapM_perm (typedObjects_perm hperm)).imp fun subs more hsubs _ => ?_
      exact subsMatch_of_perm (h.bare.sublist (List.filter_sublist.map _)) hsubs
  | _, _, .idle front rest value hname => by
      rw [readSubs_eq_mapM, readSubs_eq_mapM, typedObjects_idle hname.untyped]
      exact .refl (fun _ => .refl _) _
  | _, _, .deeper front rest hname h => by
      obtain ⟨hbody, hother⟩ := h.isObject
      rw [readSubs_eq_mapM, readSubs_eq_mapM, typedObjects_middle hname hbody, typedObjects_middle hname hother]
      refine (Agree.mapM_middle .refl ?_ _ _).imp fun _ _ _ _ hsubs => .of_forall₂ (byName_subMatches hsubs)
      exact h.agree.map fun _ _ hnode => ⟨rfl, hnode⟩

end

theorem agree_readMember {typed type name : String} {body other : Json}
    (hname : Text.splitFirst? separator typed = some (type, name)) (h : BodyEdit type body other) :
    Agree SubMatches (readMember (typed, body)) (readMember (typed, other)) := by
  simp only [readMember, hname]
  exact h.agree.map fun _ _ hnode => ⟨rfl, hnode⟩

theorem Edit.agree {members others : Members} (h : Edit members others) :
    Agree SubsMatch (read (.obj members)) (read (.obj others)) := by
  have hread : Agree (fun subs more => SubsMatch (Assoc.byName subs) (Assoc.byName more)) (readMembers members)
      (readMembers others) := by
    rw [readMembers_eq_mapM, readMembers_eq_mapM]
    cases h with
    | reorder hperm h =>
        refine (Agree.mapM_perm hperm).imp fun subs more hsubs _ hmore => ?_
        rw [← readMembers_eq_mapM] at hsubs
        exact subsMatch_of_perm h.bare (readMembers_eq_ok_iff.mp hsubs).2 hmore
    | deeper front rest hname h =>
        refine (Agree.mapM_middle .refl ?_ _ _).imp fun _ _ _ _ hsubs => .of_forall₂ (byName_subMatches hsubs)
        exact agree_readMember hname h
  rw [read_obj, read_obj]
  exact hread.map fun _ _ hsubs => hsubs

/-! ### Any number of changes -/

/-- Documents that are rearranged are both read, as trees that match, or both not. -/
theorem IsRearranged.agree {members others : Members} (h : IsRearranged members others) :
    Agree SubsMatch (read (.obj members)) (read (.obj others)) := by
  induction h with
  | rel members others h => exact h.agree
  | refl members => exact .refl .refl _
  | symm members others _ ih => exact ih.symm fun _ _ => SubsMatch.symm
  | trans members middle others _ _ hfirst hsecond => exact hfirst.trans (fun _ _ _ => SubsMatch.trans) hsecond

/-! ### Siblings of one name -/

/-- Names stand where they come first, once each. -/
theorem map_fst_byName {α : Type} (entries : List (String × α)) :
    (Assoc.byName entries).map (·.1) = (entries.map (·.1)).eraseDups := by
  induction entries using List.reverseRecOn with
  | nil => rfl
  | append_singleton entries entry ih =>
      have hput : Assoc.byName (entries ++ [entry]) = Assoc.put (· == ·) entry.1 entry.2 (Assoc.byName entries) := by
        simp [Assoc.byName, Assoc.lastWins]
      rw [hput, Assoc.map_fst_put, ih, List.map_append, List.eraseDups_append]
      by_cases hmem : entry.1 ∈ entries.map (·.1)
      · have hnone : [entry.1].removeAll (entries.map (·.1)) = [] := by
          simpa [List.removeAll] using hmem
        rw [if_pos (List.mem_eraseDups.mpr hmem), List.map_singleton, hnone, List.eraseDups_nil, List.append_nil]
      · have hnew : [entry.1].removeAll (entries.map (·.1)) = [entry.1] := by
          simpa [List.removeAll] using hmem
        rw [if_neg (mt List.mem_eraseDups.mp hmem), List.map_singleton, hnew]
        rfl

/-- Of siblings of one name the last one is found under it. -/
theorem last?_eq_some {α : Type} {name : String} {value : α} (before : List (String × α)) {after : List (String × α)}
    (h : ∀ entry ∈ after, entry.1 ≠ name) : Assoc.last? name (before ++ (name, value) :: after) = some value := by
  have hnone : after.reverse.lookup name = none := Assoc.last?_eq_none_iff.mpr h
  simp [Assoc.last?, List.lookup_append, hnone]

/-- The names of what is read are those of the siblings, at the places where they come first, and the node of a name is
that of the last sibling of this name. -/
theorem AreRead.names {siblings : List Typed} {nodes : Aggregations} (h : AreRead siblings nodes) :
    nodes.map (·.1) = (siblings.map (·.1)).eraseDups := by
  obtain ⟨subs, hsubs, rfl⟩ := h
  rw [map_fst_byName, map_fst_of_mapM_readTyped hsubs]

theorem AreRead.lookup_last {before after : List Typed} {name type : String} {body : Json} {nodes : Aggregations}
    (h : AreRead (before ++ (name, type, body) :: after) nodes) (hafter : ∀ m ∈ after, m.1 ≠ name) :
    ∃ node, nodes.lookup name = some node ∧ readNode type body = .ok node := by
  have hlookup := lookup_of_areRead h name
  rwa [last?_eq_some before hafter] at hlookup

/-! ### Order -/

/-- The order of a document matters in two ways only. Rearranged documents are read alike: both as trees that match, or
both not at all. Which fault a document has is decided by its first faulty member, and so on below it, a count before
what stands beside it. Of siblings of one name the later one is kept, at the place of the first, on every path through
the document. -/
theorem read_orderMatters (members : Members) :
    (∀ others, IsRearranged members others → Agree SubsMatch (read (.obj members)) (read (.obj others))) ∧
    (∀ fault, read (.obj members) = .error fault ↔
      ∃ before member after, members = before ++ member :: after ∧
        (∀ m ∈ before, ¬∃ other, MemberFails m other) ∧ MemberFails member fault) ∧
    ∀ tree, read (.obj members) = .ok tree →
      ∀ path siblings, SiblingsAt typedObjects (typedMembers members) path siblings →
        ∃ nodes, heldAt tree path = some nodes ∧ nodes.map (·.1) = (siblings.map (·.1)).eraseDups ∧
          ∀ before earlier between name type body after,
            siblings = before ++ (name, earlier) :: between ++ (name, type, body) :: after →
            (∀ m ∈ after, m.1 ≠ name) →
              ∃ node, nodes.lookup name = some node ∧ readNode type body = .ok node := by
  refine ⟨fun others h => h.agree, fun fault => read_eq_error_iff, fun tree hread path siblings hpath => ?_⟩
  rw [read_obj] at hread
  obtain ⟨subs, hsubs, rfl⟩ := map_eq_ok.mp hread
  have htop : AreRead (typedMembers members) (Assoc.byName subs) := ⟨subs, (readMembers_eq_ok_iff.mp hsubs).2, rfl⟩
  obtain ⟨nodes, hnodes, hread⟩ := heldAt_of_siblingsAt hpath htop
  refine ⟨nodes, hnodes, hread.names, ?_⟩
  rintro before earlier between name type body after rfl hafter
  exact hread.lookup_last hafter

/-- A document in another order, with an idle member in a wrapper and with a bucket of its terms turned round; and two
siblings of one name. -/
theorem read_orderMatters_of_turned :
    let bucket : Members :=
      [("key", .str "host"), ("doc_count", .int 2), ("filter#tags_sub_agg", .obj [("doc_count", .int 3)])]
    let listed (bucket : Members) : Json := .obj [("buckets", .arr [.obj bucket])]
    let front : Members := [("doc_count", .int 4)]
    let wrapped (front bucket : Members) : Json := .obj (front ++ [("sterms#unique_tags", listed bucket)])
    let members := [("nested#tags_agg", wrapped front bucket), ("sterms#ns_agg", listed bucket)]
    let others :=
      [("sterms#ns_agg", listed bucket), ("nested#tags_agg", wrapped (front ++ [("meta", .null)]) bucket.reverse)]
    let rivals : Members := [("sterms#ns_agg", listed bucket), ("nested#ns_agg", .obj front)]
    IsRearranged members others ∧ Agree SubsMatch (read (.obj members)) (read (.obj others)) ∧
      ∃ tree nodes node, read (.obj rivals) = .ok tree ∧ heldAt tree [] = some nodes ∧ nodes.map (·.1) = ["ns_agg"] ∧
        nodes.lookup "ns_agg" = some node ∧ node.shape = .nested := by
  intro bucket listed front wrapped members others rivals
  have hnested : Text.splitFirst? separator "nested#tags_agg" = some ("nested", "tags_agg") := by decide +kernel
  have hterms : Text.splitFirst? separator "sterms#unique_tags" = some ("sterms", "unique_tags") := by decide +kernel
  have hidle : IsIdle "meta" := ⟨by decide, by decide⟩
  have hbucket : AreMovable bucket := ⟨by decide, by decide +kernel⟩
  have hmembers : AreMovable [("nested#tags_agg", wrapped (front ++ [("meta", .null)]) bucket.reverse),
      ("sterms#ns_agg", listed bucket)] := ⟨by decide, by decide +kernel⟩
  have hrearranged : IsRearranged members others := by
    refine .trans _ _ _ (.rel _ _ (.deeper [] _ hnested (.body (by decide) (.idle front _ .null hidle)))) ?_
    refine .trans _ _ _ (.rel _ _ (.deeper [] _ hnested (.body (by decide) (.deeper (front ++ [("meta", .null)]) []
      hterms (.bucket [] [] [] [] rfl (.reorder (List.reverse_perm bucket).symm hbucket)))))) ?_
    exact .rel _ _ (.reorder (.swap _ _ _) hmembers)
  refine ⟨hrearranged, (read_orderMatters members).1 others hrearranged, ?_⟩
  have hsome : (read (.obj rivals)).toOption.isSome = true := by decide +kernel
  obtain ⟨tree, htree⟩ := Option.isSome_iff_exists.mp hsome
  have hread := eq_ok_of_toOption htree
  obtain ⟨nodes, hnodes, hnames, hlast⟩ := (read_orderMatters rivals).2.2 tree hread [] _ .here
  obtain ⟨node, hnode, hbody⟩ := hlast [] _ [] "ns_agg" "nested" (.obj front) [] rfl nofun
  exact ⟨tree, nodes, node, hread, hnodes, hnames, hnode, shape_of_readNode hbody⟩

end SeriesCatalog.Aggregation
