import Mathlib.Data.List.Nodup
import SeriesCatalog.Aggregation.Writer

/-! Reading a tree from whatever denotes it gives the tree. What a typed reply says of a tree is told without a
reader: a member named `type#name` that holds an object denotes a node, and its type is any of those of the shape;
the count, the buckets and the key of a body stand among its members in any place, and a member without a separator
is no sub-aggregation. No object has two members of one name, and no two siblings have one bare name. A tree can be
written when a type without a reader can be told from those that have one; then each typed name splits where it was
joined, and what is written denotes the tree. -/

namespace SeriesCatalog.Aggregation

/-- No two siblings have one name. -/
def hasDistinctNames (subs : Aggregations) : Bool := decide (subs.map (·.1)).Nodup

mutual

/-- A tree that a typed reply can hold. -/
def isEncodable : Aggregation → Bool
  | .terms buckets => areBucketsEncodable buckets
  | .nested _ subs => hasDistinctNames subs && areEncodable subs
  | .filter _ subs => hasDistinctNames subs && areEncodable subs
  | .unknown type _ => decide (shapeOf type = .unknown) && !type.toList.contains separator

/-- Buckets that a typed reply can hold. -/
def areBucketsEncodable : List Bucket → Bool
  | [] => true
  | bucket :: rest => isBucketEncodable bucket && areBucketsEncodable rest

/-- A bucket that a typed reply can hold. -/
def isBucketEncodable : Bucket → Bool
  | .mk _ _ subs => hasDistinctNames subs && areEncodable subs

/-- Aggregations each of which a typed reply can hold. -/
def areEncodable : List (String × Aggregation) → Bool
  | [] => true
  | (_, node) :: rest => isEncodable node && areEncodable rest

end

/-- No two members of an object have one name. -/
def AreDistinct (members : Members) : Prop := (members.map (·.1)).Nodup

instance (members : Members) : Decidable (AreDistinct members) :=
  inferInstanceAs (Decidable (members.map (·.1)).Nodup)

mutual

/-- A body under a type denotes a node. The body of a type without a reader is the node as it stands. -/
inductive DenotesNode : String → Members → Aggregation → Prop
  | terms {type : String} {body : Members} {items : List Json} {buckets : List Bucket} (htype : type ∈ termsTypes)
      (hdistinct : AreDistinct body) (hbuckets : body.lookup "buckets" = some (.arr items))
      (h : DenotesBuckets items buckets) : DenotesNode type body (.terms buckets)
  | nested {type : String} {body : Members} {count : Int} {subs : Aggregations} (htype : type ∈ nestedTypes)
      (h : DenotesBody body count subs) : DenotesNode type body (.nested count subs)
  | filter {type : String} {body : Members} {count : Int} {subs : Aggregations} (htype : type ∈ filterTypes)
      (h : DenotesBody body count subs) : DenotesNode type body (.filter count subs)
  | unknown {type : String} {body : Members} (hshape : shapeOf type = .unknown) :
      DenotesNode type body (.unknown type body)

/-- Objects denote buckets, one each. The formatted text of a key goes before its value. -/
inductive DenotesBuckets : List Json → List Bucket → Prop
  | nil : DenotesBuckets [] []
  | cons {body : Members} {key : String} {count : Int} {subs : Aggregations} {items : List Json}
      {buckets : List Bucket} (hkey : (body.lookup "key_as_string").or (body.lookup "key") = some (.str key))
      (hbody : DenotesBody body count subs) (h : DenotesBuckets items buckets) :
      DenotesBuckets (.obj body :: items) (.mk key count subs :: buckets)

/-- A body denotes its count and its sub-aggregations. -/
inductive DenotesBody : Members → Int → Aggregations → Prop
  | mk {body : Members} {count : Int} {subs : Aggregations} (hdistinct : AreDistinct body)
      (hcount : body.lookup "doc_count" = some (.int count)) (hnames : hasDistinctNames subs = true)
      (h : DenotesSubs body subs) : DenotesBody body count subs

/-- Members denote the sub-aggregations that the typed ones among them hold. -/
inductive DenotesSubs : Members → Aggregations → Prop
  | nil : DenotesSubs [] []
  | untyped {name : String} {value : Json} {rest : Members} {subs : Aggregations} (hname : separator ∉ name.toList)
      (h : DenotesSubs rest subs) : DenotesSubs ((name, value) :: rest) subs
  | typed {type name : String} {body rest : Members} {node : Aggregation} {subs : Aggregations}
      (htype : separator ∉ type.toList) (hnode : DenotesNode type body node) (h : DenotesSubs rest subs) :
      DenotesSubs ((typedName type name, .obj body) :: rest) ((name, node) :: subs)

end

/-- An object each of whose members is typed denotes a tree. -/
structure DenotesTree (members : Members) (subs : Aggregations) : Prop where
  distinct : AreDistinct members
  typed : ∀ member ∈ members, separator ∈ member.1.toList
  names : hasDistinctNames subs = true
  subs : DenotesSubs members subs

/-! ### Typed names -/

theorem splitFirst?_typedName {type : String} (name : String) (h : separator ∉ type.toList) :
    Text.splitFirst? separator (typedName type name) = some (type, name) := by
  have hchars : (typedName type name).toList = type.toList ++ separator :: name.toList := by
    simp [typedName]
  simp [Text.splitFirst?, hchars, Text.cut?_append _ h]

/-- A name without a separator is no typed name. -/
theorem splitFirst?_eq_none {name : String} (h : separator ∉ name.toList) :
    Text.splitFirst? separator name = none := by
  simp [Text.splitFirst?, Text.cut?_eq_none_iff.mpr h]

theorem separator_mem_typedName (type name : String) : separator ∈ (typedName type name).toList := by
  simp [typedName]

theorem separator_notMem_typeName {node : Aggregation} (h : node.isEncodable = true) :
    separator ∉ (typeName node).toList := by
  cases node with
  | unknown type body =>
      simp only [isEncodable, Bool.and_eq_true, Bool.not_eq_true', List.contains_eq_mem,
        decide_eq_false_iff_not] at h
      exact h.2
  | _ =>
      rw [typeName]
      decide

theorem shapeOf_typeName {node : Aggregation} (h : node.isEncodable = true) :
    shapeOf (typeName node) = node.shape := by
  cases node with
  | unknown type body =>
      simp only [isEncodable, Bool.and_eq_true, decide_eq_true_eq] at h
      exact h.1
  | _ => rfl

/-! ### Reading what denotes a tree -/

theorem shapeOf_of_termsTypes {type : String} (h : type ∈ termsTypes) : shapeOf type = .terms := if_pos h

theorem shapeOf_of_nestedTypes {type : String} (h : type ∈ nestedTypes) : shapeOf type = .nested := by
  simp only [nestedTypes, List.mem_cons, List.not_mem_nil, or_false] at h
  rcases h with rfl | rfl <;> rfl

theorem shapeOf_of_filterTypes {type : String} (h : type ∈ filterTypes) : shapeOf type = .filter := by
  rw [List.mem_singleton.mp h]
  rfl

theorem readCount_of_lookup {body : Members} {count : Int} (h : body.lookup "doc_count" = some (.int count)) :
    readCount body = .ok count := by
  rw [readCount, h]
  rfl

theorem readKey_of_lookup {body : Members} {key : String}
    (h : (body.lookup "key_as_string").or (body.lookup "key") = some (.str key)) : readKey body = key := by
  rw [readKey]
  cases hformatted : body.lookup "key_as_string" with
  | some formatted =>
      rw [hformatted, Option.some_or] at h
      rw [Option.getD_some, Option.some.inj h]
      rfl
  | none =>
      rw [hformatted, Option.none_or] at h
      rw [Option.getD_none, h]
      rfl

/-- A member without a type is passed over among sub-aggregations. -/
theorem readSubs_untyped {name : String} (value : Json) (rest : Members) (h : separator ∉ name.toList) :
    readSubs ((name, value) :: rest) = readSubs rest := by
  rw [readSubs, splitFirst?_eq_none h]

mutual

theorem readNode_of_denotes : ∀ {type : String} {body : Members} {node : Aggregation},
    DenotesNode type body node → readNode type (.obj body) = .ok node
  | _, _, _, .terms htype _ hbuckets h => by
      rw [readNode, shapeOf_of_termsTypes htype]
      simp only [readBucketsMember_of_lookup hbuckets, readBuckets, readBucketItems_of_denotes h]
      rfl
  | _, _, _, .nested htype h => by
      rw [readNode, shapeOf_of_nestedTypes htype]
      exact readBody_of_denotes h _
  | _, _, _, .filter htype h => by
      rw [readNode, shapeOf_of_filterTypes htype]
      exact readBody_of_denotes h _
  | _, _, _, .unknown hshape => by
      rw [readNode, hshape]

theorem readBucketItems_of_denotes : ∀ {items : List Json} {buckets : List Bucket},
    DenotesBuckets items buckets → readBucketItems items = .ok buckets
  | _, _, .nil => rfl
  | _, _, .cons hkey hbody h => by
      rw [readBucketItems, readBucket, readBody_of_denotes hbody, readBucketItems_of_denotes h,
        readKey_of_lookup hkey]
      rfl

theorem readBody_of_denotes : ∀ {body : Members} {count : Int} {subs : Aggregations}, DenotesBody body count subs →
    ∀ {α : Type} (make : Int → Aggregations → α),
      (readCount body >>= fun stated => readSubs body >>= fun held =>
        .ok (make stated (Assoc.byName held))) = (.ok (make count subs) : Except Fault α)
  | _, _, _, .mk _ hcount hnames h, _, _ => by
      rw [readCount_of_lookup hcount, readSubs_of_denotes h]
      simp only [bind, Except.bind, Assoc.byName_eq_self (of_decide_eq_true hnames)]

theorem readSubs_of_denotes : ∀ {members : Members} {subs : Aggregations},
    DenotesSubs members subs → readSubs members = .ok subs
  | _, _, .nil => rfl
  | _, _, .untyped hname h => by
      rw [readSubs_untyped _ _ hname, readSubs_of_denotes h]
  | _, _, .typed htype hnode h => by
      rw [readSubs, splitFirst?_typedName _ htype]
      simp only [Json.isObject, if_true, readNode_of_denotes hnode, readSubs_of_denotes h]
      rfl

end

/-- At the top level every member is typed, and read as a sub-aggregation would be. -/
theorem readMembers_of_denotes : ∀ {members : Members} {subs : Aggregations}, DenotesSubs members subs →
    (∀ member ∈ members, separator ∈ member.1.toList) → readMembers members = .ok subs
  | _, _, .nil, _ => rfl
  | _, _, .untyped hname _, htyped => absurd (htyped _ List.mem_cons_self) hname
  | _, _, .typed htype hnode h, htyped => by
      have hrest := readMembers_of_denotes h fun member hmember => htyped member (List.mem_cons_of_mem _ hmember)
      rw [readMembers, splitFirst?_typedName _ htype]
      simp only [readNode_of_denotes hnode, hrest]
      rfl

theorem read_of_denotes {members : Members} {subs : Aggregations} (h : DenotesTree members subs) :
    read (.obj members) = .ok subs := by
  obtain ⟨-, htyped, hnames, hsubs⟩ := h
  have hread := readMembers_of_denotes hsubs htyped
  cases members with
  | nil => exact hread
  | cons member rest =>
      have hblank : (Json.obj (member :: rest)).isBlank = false := rfl
      rw [read, hblank]
      simp only [Bool.false_eq_true, if_false, hread, Except.map, Assoc.byName_eq_self (of_decide_eq_true hnames)]

/-! ### What is written -/

theorem map_fst_writeMembers (subs : Aggregations) :
    (writeMembers subs).map (·.1) = subs.map fun sub => typedName (typeName sub.2) sub.1 := by
  induction subs with
  | nil => rfl
  | cons sub rest ih =>
      obtain ⟨name, node⟩ := sub
      exact congrArg (typedName (typeName node) name :: ·) ih

theorem separator_mem_of_writeMembers {subs : Aggregations} {name : String}
    (h : name ∈ (writeMembers subs).map (·.1)) : separator ∈ name.toList := by
  rw [map_fst_writeMembers] at h
  obtain ⟨sub, -, rfl⟩ := List.mem_map.mp h
  exact separator_mem_typedName _ _

theorem forall_isEncodable {subs : Aggregations} (h : areEncodable subs = true) :
    ∀ sub ∈ subs, sub.2.isEncodable = true := by
  induction subs with
  | nil => simp
  | cons sub rest ih =>
      obtain ⟨name, node⟩ := sub
      simp only [areEncodable, Bool.and_eq_true] at h
      exact List.forall_mem_cons.mpr ⟨h.1, ih h.2⟩

/-- Siblings of distinct bare names have distinct typed names: a typed name splits where it was joined. -/
theorem areDistinct_writeMembers {subs : Aggregations} (hnames : hasDistinctNames subs = true)
    (h : areEncodable subs = true) : AreDistinct (writeMembers subs) := by
  have hencodable := forall_isEncodable h
  rw [AreDistinct, map_fst_writeMembers, List.Nodup, List.pairwise_map]
  refine List.Pairwise.imp_of_mem ?_ (List.pairwise_map.mp (of_decide_eq_true hnames))
  intro a b ha hb hne heq
  have hsplit := splitFirst?_typedName a.1 (separator_notMem_typeName (hencodable a ha))
  rw [heq, splitFirst?_typedName b.1 (separator_notMem_typeName (hencodable b hb))] at hsplit
  exact hne (congrArg Prod.snd (Option.some.inj hsplit)).symm

theorem denotesSubs_append {front rest : Members} {subs : Aggregations}
    (hplain : ∀ name ∈ front.map (·.1), separator ∉ name.toList) (h : DenotesSubs rest subs) :
    DenotesSubs (front ++ rest) subs := by
  induction front with
  | nil => exact h
  | cons member more ih =>
      obtain ⟨hname, hmore⟩ := List.forall_mem_cons.mp hplain
      exact .untyped hname (ih hmore)

/-- A count among untyped members, with the written sub-aggregations behind them. -/
theorem denotesBody_append (front : Members) (names : List String) {count : Int} {subs : Aggregations}
    (hfront : front.map (·.1) = names) (hdistinct : names.Nodup) (hplain : ∀ name ∈ names, separator ∉ name.toList)
    (hcount : front.lookup "doc_count" = some (.int count)) (hnames : hasDistinctNames subs = true)
    (hencodable : areEncodable subs = true) (h : DenotesSubs (writeMembers subs) subs) :
    DenotesBody (front ++ writeMembers subs) count subs := by
  subst hfront
  refine .mk ?_ ?_ hnames (denotesSubs_append hplain h)
  · rw [AreDistinct, List.map_append]
    refine List.nodup_append.mpr ⟨hdistinct, areDistinct_writeMembers hnames hencodable, ?_⟩
    rintro name hname _ hwritten rfl
    exact hplain name hname (separator_mem_of_writeMembers hwritten)
  · rw [List.lookup_append, hcount]
    rfl

theorem denotesBody_count {count : Int} {subs : Aggregations} (hnames : hasDistinctNames subs = true)
    (hencodable : areEncodable subs = true) (h : DenotesSubs (writeMembers subs) subs) :
    DenotesBody (("doc_count", .int count) :: writeMembers subs) count subs :=
  denotesBody_append [("doc_count", .int count)] ["doc_count"] rfl (by decide) (by decide) rfl hnames hencodable h

theorem denotesBody_bucket {key : String} {count : Int} {subs : Aggregations} (hnames : hasDistinctNames subs = true)
    (hencodable : areEncodable subs = true) (h : DenotesSubs (writeMembers subs) subs) :
    DenotesBody (("key", .str key) :: ("doc_count", .int count) :: writeMembers subs) count subs :=
  denotesBody_append [("key", .str key), ("doc_count", .int count)] ["key", "doc_count"] rfl (by decide) (by decide)
    rfl hnames hencodable h

/-- A name without a separator is not among the written sub-aggregations. -/
theorem lookup_writeMembers {name : String} (subs : Aggregations) (h : separator ∉ name.toList) :
    (writeMembers subs).lookup name = none := by
  induction subs with
  | nil => rfl
  | cons sub rest ih =>
      obtain ⟨bare, node⟩ := sub
      have hne : (name == typedName (typeName node) bare) = false := by
        refine beq_eq_false_iff_ne.mpr fun heq => h ?_
        rw [heq]
        exact separator_mem_typedName _ _
      rw [writeMembers, List.lookup_cons, hne]
      exact ih

theorem lookup_key_bucket (key : String) (count : Int) (subs : Aggregations) :
    let body := ("key", Json.str key) :: ("doc_count", .int count) :: writeMembers subs
    (body.lookup "key_as_string").or (body.lookup "key") = some (.str key) := by
  have hformatted : (writeMembers subs).lookup "key_as_string" = none := lookup_writeMembers subs (by decide)
  simp [List.lookup_cons, hformatted]

mutual

theorem denotesNode_writeBody (node : Aggregation) (h : node.isEncodable = true) :
    DenotesNode (typeName node) (writeBody node) node := by
  cases node with
  | terms buckets =>
      exact .terms List.mem_cons_self (List.pairwise_singleton _ "buckets") rfl (denotesBuckets_writeBuckets buckets h)
  | nested count subs =>
      simp only [isEncodable, Bool.and_eq_true] at h
      exact .nested List.mem_cons_self (denotesBody_count h.1 h.2 (denotesSubs_writeMembers subs h.2))
  | filter count subs =>
      simp only [isEncodable, Bool.and_eq_true] at h
      exact .filter List.mem_cons_self (denotesBody_count h.1 h.2 (denotesSubs_writeMembers subs h.2))
  | unknown type body => exact .unknown (shapeOf_typeName h)

theorem denotesBuckets_writeBuckets (buckets : List Bucket) (h : areBucketsEncodable buckets = true) :
    DenotesBuckets (writeBuckets buckets) buckets := by
  match buckets with
  | [] => exact .nil
  | .mk key count subs :: rest =>
      simp only [areBucketsEncodable, isBucketEncodable, Bool.and_eq_true] at h
      exact .cons (lookup_key_bucket key count subs)
        (denotesBody_bucket h.1.1 h.1.2 (denotesSubs_writeMembers subs h.1.2))
        (denotesBuckets_writeBuckets rest h.2)

theorem denotesSubs_writeMembers (subs : Aggregations) (h : areEncodable subs = true) :
    DenotesSubs (writeMembers subs) subs := by
  match subs with
  | [] => exact .nil
  | (name, node) :: rest =>
      simp only [areEncodable, Bool.and_eq_true] at h
      exact .typed (separator_notMem_typeName h.1) (denotesNode_writeBody node h.1)
        (denotesSubs_writeMembers rest h.2)

end

theorem denotesTree_writeMembers {subs : Aggregations} (hnames : hasDistinctNames subs = true)
    (h : areEncodable subs = true) : DenotesTree (writeMembers subs) subs where
  distinct := areDistinct_writeMembers hnames h
  typed := fun _ hmember => separator_mem_of_writeMembers (List.mem_map_of_mem hmember)
  names := hnames
  subs := denotesSubs_writeMembers subs h

end SeriesCatalog.Aggregation
