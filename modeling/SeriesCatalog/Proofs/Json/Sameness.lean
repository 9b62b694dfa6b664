import Mathlib.Data.List.Forall2
import Mathlib.Data.List.Nodup
import Mathlib.Data.List.Perm.Subperm
import SeriesCatalog.Assoc
import SeriesCatalog.Json.Equality

/-! When two documents that are written alike are the same one. Lists are the same item by item, objects member by
member under their names; so a form of writing that tells its entries apart tells lists of them apart, and objects with
the same possible members are the same if each of these is there in both or in neither. -/

namespace SeriesCatalog.Json

variable {α : Type}

/-- What `f` writes tells those with the property `p` apart. -/
def Tells (p : α → Prop) (f : α → Json) : Prop := ∀ ⦃x y⦄, p x → p y → ((f x).same (f y) = true ↔ x = y)

/-! ### Lists -/

theorem Tells.sameItems {p : α → Prop} {f : α → Json} (h : Tells p f) {xs ys : List α} (hxs : ∀ x ∈ xs, p x)
    (hys : ∀ y ∈ ys, p y) : Json.sameItems (xs.map f) (ys.map f) = true ↔ xs = ys := by
  induction xs generalizing ys with
  | nil => cases ys <;> simp [Json.sameItems]
  | cons x rest ih =>
      cases ys with
      | nil => simp [Json.sameItems]
      | cons y more =>
          obtain ⟨hx, hrest⟩ := List.forall_mem_cons.mp hxs
          obtain ⟨hy, hmore⟩ := List.forall_mem_cons.mp hys
          rw [List.map_cons, List.map_cons, Json.sameItems, Bool.and_eq_true, h hx hy, ih hrest hmore, List.cons.injEq]

/-- Lists of entries that are told apart are told apart. -/
theorem Tells.arr {p : α → Prop} {f : α → Json} (h : Tells p f) :
    Tells (fun xs : List α => ∀ x ∈ xs, p x) fun xs => .arr (xs.map f) := by
  intro xs ys hxs hys
  rw [same, h.sameItems hxs hys]

/-! ### Objects -/

/-- What stands under a name, in two objects: the same value, or no value at all. -/
def sameValue : Option Json → Option Json → Bool
  | some v, some w => v.same w
  | none, none => true
  | _, _ => false

@[simp] theorem sameValue_some (v w : Json) : sameValue (some v) (some w) = v.same w := rfl

theorem isSome_of_sameValue {v w : Option Json} (h : sameValue v w = true) : v.isSome = w.isSome := by
  cases v <;> cases w <;> first | rfl | cases h

theorem sameMembers_iff {members others : Members} : sameMembers members others = true ↔
    ∀ member ∈ members, sameValue (some member.2) (others.lookup member.1) = true := by
  induction members with
  | nil => simp [sameMembers]
  | cons member rest ih =>
      rw [sameMembers, Bool.and_eq_true, ih, List.forall_mem_cons]
      cases others.lookup member.1 <;> rfl

/-- Under distinct names two objects are the same if they are so under each name. -/
theorem same_obj_iff {members others : Members} (h : (members.map (·.1)).Nodup) (hothers : (others.map (·.1)).Nodup) :
    (Json.obj members).same (.obj others) = true ↔
      ∀ name, sameValue (members.lookup name) (others.lookup name) = true := by
  rw [same, Bool.and_eq_true, beq_iff_eq, sameMembers_iff]
  constructor
  · rintro ⟨hlength, hsame⟩ name
    have hsubset : members.map (·.1) ⊆ others.map (·.1) := by
      intro other hother
      obtain ⟨member, hmember, rfl⟩ := List.mem_map.mp hother
      rw [Assoc.mem_map_fst_iff, ← isSome_of_sameValue (hsame member hmember), Option.isSome_some]
    have hperm := (h.subperm hsubset).perm_of_length_le (by simp [hlength])
    cases hlookup : members.lookup name with
    | some value => exact hsame (name, value) ((Assoc.mem_iff_lookup h).mpr hlookup)
    | none =>
        have hmissing : others.lookup name = none := by
          rw [Assoc.lookup_eq_none_iff, ← hperm.mem_iff]
          exact Assoc.lookup_eq_none_iff.mp hlookup
        rw [hmissing, sameValue]
  · intro hsame
    have hperm : (members.map (·.1)).Perm (others.map (·.1)) := by
      refine (List.perm_ext_iff_of_nodup h hothers).mpr fun name => ?_
      rw [Assoc.mem_map_fst_iff, Assoc.mem_map_fst_iff, isSome_of_sameValue (hsame name)]
    refine ⟨by simpa using hperm.length_eq, fun member hmember => ?_⟩
    rw [← (Assoc.mem_iff_lookup h).mp hmember]
    exact hsame member.1

/-! ### Records -/

/-- Of possible members those that have a value. -/
def present (fields : List (String × Option Json)) : Members :=
  fields.filterMap fun (name, value?) => value?.map (name, ·)

theorem present_append (fields more : List (String × Option Json)) :
    present (fields ++ more) = present fields ++ present more := List.filterMap_append

/-- An object of possible members. -/
def record (fields : List (String × Option Json)) : Json := .obj (present fields)

theorem names_present_sublist (fields : List (String × Option Json)) :
    ((present fields).map (·.1)).Sublist (fields.map (·.1)) := by
  induction fields with
  | nil => exact List.Sublist.slnil
  | cons field rest ih =>
      obtain ⟨name, _ | value⟩ := field
      · exact ih.cons name
      · exact ih.cons_cons name

theorem lookup_present {fields : List (String × Option Json)} (h : (fields.map (·.1)).Nodup) (name : String) :
    (present fields).lookup name = (fields.lookup name).join := by
  induction fields with
  | nil => rfl
  | cons field rest ih =>
      obtain ⟨key, value?⟩ := field
      obtain ⟨hfresh, hrest⟩ := List.nodup_cons.mp h
      cases value? with
      | some value =>
          simp only [present, List.filterMap_cons, Option.map_some, List.lookup_cons] at ih ⊢
          rw [ih hrest]
          cases name == key <;> rfl
      | none =>
          simp only [present, List.filterMap_cons, Option.map_none, List.lookup_cons] at ih ⊢
          rw [ih hrest]
          by_cases hname : name = key
          · rw [beq_iff_eq.mpr hname, Assoc.lookup_eq_none_iff.mpr (hname ▸ hfresh)]
            rfl
          · rw [beq_eq_false_iff_ne.mpr hname]

/-- Fields of the same distinct names agree one by one if they agree under each name. -/
theorem forall₂_sameValue_iff {fields others : List (String × Option Json)}
    (hnames : fields.map (·.1) = others.map (·.1)) (h : (fields.map (·.1)).Nodup) :
    List.Forall₂ (fun field other => sameValue field.2 other.2 = true) fields others ↔
      ∀ name, sameValue (fields.lookup name).join (others.lookup name).join = true := by
  induction fields generalizing others with
  | nil =>
      obtain rfl := List.map_eq_nil_iff.mp hnames.symm
      exact ⟨fun _ _ => rfl, fun _ => .nil⟩
  | cons field rest ih =>
      cases others with
      | nil => cases hnames
      | cons other more =>
          obtain ⟨key, value?⟩ := field
          obtain ⟨key', value'?⟩ := other
          obtain ⟨rfl, htail⟩ : key = key' ∧ rest.map (·.1) = more.map (·.1) := List.cons.inj hnames
          obtain ⟨hfresh, hrest⟩ := List.nodup_cons.mp h
          -- The first name is none of the others, so that under it both rests agree in having nothing.
          have hfirst : sameValue (rest.lookup key).join (more.lookup key).join = true := by
            rw [Assoc.lookup_eq_none_iff.mpr hfresh, Assoc.lookup_eq_none_iff.mpr (htail ▸ hfresh)]
            rfl
          rw [List.forall₂_cons, ih htail hrest]
          constructor
          · rintro ⟨hhead, hsame⟩ name
            rw [List.lookup_cons, List.lookup_cons]
            cases name == key with
            | true => simpa using hhead
            | false => exact hsame name
          · intro hsame
            refine ⟨by simpa using hsame key, fun name => ?_⟩
            by_cases hname : name = key
            · exact hname ▸ hfirst
            · simpa [List.lookup_cons, beq_eq_false_iff_ne.mpr hname] using hsame name

/-- Records of the same possible members are the same if each member is. -/
theorem same_record_iff {fields others : List (String × Option Json)} (hnames : fields.map (·.1) = others.map (·.1))
    (h : (fields.map (·.1)).Nodup) : (record fields).same (record others) = true ↔
      List.Forall₂ (fun field other => sameValue field.2 other.2 = true) fields others := by
  have hothers : (others.map (·.1)).Nodup := hnames ▸ h
  rw [record, record, same_obj_iff (h.sublist (names_present_sublist fields))
    (hothers.sublist (names_present_sublist others)), forall₂_sameValue_iff hnames h]
  simp only [lookup_present h, lookup_present hothers]

end SeriesCatalog.Json
