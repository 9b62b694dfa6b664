/-! Lists of entries in the order of their first insertion. Putting an entry under a key that is already
there replaces the value and keeps both the place and the key that came first. -/

namespace SeriesCatalog.Assoc

variable {κ α : Type}

/-- Puts an entry; `same` says when two keys are one. -/
def put (same : κ → κ → Bool) (key : κ) (value : α) : List (κ × α) → List (κ × α)
  | [] => [(key, value)]
  | (k, v) :: rest =>
    if same k key then (k, value) :: rest else (k, v) :: put same key value rest

/-- Puts the entries of a list one after the other, so that of two with one key the later wins. -/
def lastWins (same : κ → κ → Bool) (entries : List (κ × α)) : List (κ × α) :=
  entries.foldl (fun held (key, value) => put same key value held) []

def byName (entries : List (String × α)) : List (String × α) := lastWins (· == ·) entries

/-! ### Distinct keys -/

/-- An entry whose key is not there yet is put at the end. -/
theorem put_eq_append {same : κ → κ → Bool} {key : κ} {held : List (κ × α)} (value : α)
    (h : ∀ entry ∈ held, same entry.1 key = false) :
    put same key value held = held ++ [(key, value)] := by
  induction held with
  | nil => rfl
  | cons entry rest ih =>
      rw [put, if_neg (by simp [h entry List.mem_cons_self]), List.cons_append,
        ih fun e he => h e (List.mem_cons_of_mem entry he)]

theorem foldl_put_eq_append {same : κ → κ → Bool} (held : List (κ × α)) {entries : List (κ × α)}
    (h : (held ++ entries).Pairwise fun a b => same a.1 b.1 = false) :
    entries.foldl (fun held (key, value) => put same key value held) held = held ++ entries := by
  induction entries generalizing held with
  | nil => simp
  | cons entry rest ih =>
      obtain ⟨key, value⟩ := entry
      have hput : put same key value held = held ++ [(key, value)] :=
        put_eq_append value fun e he => (List.pairwise_append.mp h).2.2 e he _ List.mem_cons_self
      simp only [List.foldl_cons, hput]
      rw [ih _ (by simpa using h), List.append_assoc, List.singleton_append]

/-- Entries under distinct names stay as they are. -/
theorem byName_eq_self {entries : List (String × α)} (h : (entries.map (·.1)).Nodup) :
    byName entries = entries := by
  have hdistinct : entries.Pairwise fun a b => (a.1 == b.1) = false :=
    (List.pairwise_map.mp h).imp fun hne => beq_eq_false_iff_ne.mpr hne
  simpa [byName, lastWins] using foldl_put_eq_append [] hdistinct

/-! ### Last entries -/

/-- The value of the last entry of a name. -/
def last? (name : String) (entries : List (String × α)) : Option α := entries.reverse.lookup name

theorem lookup_put (name key : String) (value : α) (held : List (String × α)) :
    (put (· == ·) key value held).lookup name = if name = key then some value else held.lookup name := by
  induction held with
  | nil =>
      by_cases h : name = key
      · simp [put, h]
      · simp [put, h, List.lookup_cons, beq_eq_false_iff_ne.mpr h]
  | cons entry rest ih =>
      obtain ⟨held, kept⟩ := entry
      by_cases hheld : held = key
      · subst hheld
        by_cases h : name = held
        · simp [put, h]
        · simp [put, h, List.lookup_cons, beq_eq_false_iff_ne.mpr h]
      · rw [put, if_neg (by simp [hheld]), List.lookup_cons, List.lookup_cons, ih]
        by_cases h : name = held
        · simp [h, hheld]
        · simp [beq_eq_false_iff_ne.mpr h]

theorem lookup_foldl_put (name : String) (held entries : List (String × α)) :
    (entries.foldl (fun held (key, value) => put (· == ·) key value held) held).lookup name =
      (last? name entries).or (held.lookup name) := by
  induction entries generalizing held with
  | nil => rfl
  | cons entry rest ih =>
      obtain ⟨key, value⟩ := entry
      rw [List.foldl_cons, ih, lookup_put, last?, last?, List.reverse_cons, List.lookup_append]
      by_cases h : name = key
      · simp [h]
      · simp [h, List.lookup_cons, beq_eq_false_iff_ne.mpr h]

/-- Of the entries of one name the last one is held. -/
theorem lookup_byName (name : String) (entries : List (String × α)) :
    (byName entries).lookup name = last? name entries := by
  rw [byName, lastWins, lookup_foldl_put]
  simp

theorem last?_eq_none_iff {name : String} {entries : List (String × α)} :
    last? name entries = none ↔ ∀ entry ∈ entries, entry.1 ≠ name := by
  simp only [last?, List.lookup_eq_none_iff, List.mem_reverse, bne_iff_ne, ne_comm]

theorem lookup_eq_none_iff {name : String} {entries : List (String × α)} :
    entries.lookup name = none ↔ name ∉ entries.map (·.1) := by
  simp only [List.lookup_eq_none_iff, List.mem_map, not_exists, not_and, bne_iff_ne]
  exact forall_congr' fun entry => forall_congr' fun _ => ne_comm

theorem mem_map_fst_iff {name : String} {entries : List (String × α)} :
    name ∈ entries.map (·.1) ↔ (entries.lookup name).isSome = true := by
  cases h : entries.lookup name with
  | none => exact iff_of_false (lookup_eq_none_iff.mp h) Bool.false_ne_true
  | some value =>
      refine iff_of_true (Decidable.byContradiction fun hmissing => ?_) rfl
      rw [lookup_eq_none_iff.mpr hmissing] at h
      cases h

theorem lookup_map_snd {β : Type} (g : α → β) (name : String) (entries : List (String × α)) :
    (entries.map (Prod.map id g)).lookup name = (entries.lookup name).map g := by
  induction entries with
  | nil => rfl
  | cons entry rest ih =>
      obtain ⟨key, value⟩ := entry
      rw [List.map_cons, Prod.map_apply, id, List.lookup_cons, List.lookup_cons, ih]
      cases name == key <;> rfl

/-! ### Names -/

/-- The names after an entry is put are those of before, with its own at the end if it is new. -/
theorem map_fst_put (name : String) (value : α) (held : List (String × α)) :
    (put (· == ·) name value held).map (·.1) =
      if name ∈ held.map (·.1) then held.map (·.1) else held.map (·.1) ++ [name] := by
  induction held with
  | nil => rfl
  | cons entry rest ih =>
      obtain ⟨key, kept⟩ := entry
      rw [put]
      by_cases hkey : key = name
      · simp [hkey]
      · have hother : name ≠ key := Ne.symm hkey
        simp only [beq_iff_eq, if_neg hkey, List.map_cons, ih, List.mem_cons, hother, false_or]
        split <;> rfl

/-- A name that is put is among the names once. -/
theorem nodup_put {name : String} {value : α} {held : List (String × α)} (h : (held.map (·.1)).Nodup) :
    ((put (· == ·) name value held).map (·.1)).Nodup := by
  rw [map_fst_put]
  by_cases hmem : name ∈ held.map (·.1)
  · rwa [if_pos hmem]
  · rw [if_neg hmem]
    refine List.nodup_append.mpr ⟨h, by simp, fun a ha b hb hab => ?_⟩
    exact hmem (List.mem_singleton.mp hb ▸ hab ▸ ha)

/-- Putting an entry leaves those of other names as they are. -/
theorem filter_put {p : String → Bool} {name : String} (h : p name = false) (value : α) (held : List (String × α)) :
    (put (· == ·) name value held).filter (p ·.1) = held.filter (p ·.1) := by
  induction held with
  | nil => simp [put, h]
  | cons entry rest ih =>
      obtain ⟨key, kept⟩ := entry
      rw [put]
      by_cases hkey : key = name
      · simp [hkey, h]
      · rw [if_neg (by simpa using hkey), List.filter_cons, List.filter_cons, ih]

/-- What holds of all values holds of them with another one for which it holds. -/
theorem forall_put {p : α → Prop} {name : String} {value : α} {held : List (String × α)}
    (h : ∀ entry ∈ held, p entry.2) (hvalue : p value) : ∀ entry ∈ put (· == ·) name value held, p entry.2 := by
  induction held with
  | nil => simpa [put] using hvalue
  | cons entry rest ih =>
      obtain ⟨key, kept⟩ := entry
      obtain ⟨hkept, hrest⟩ := List.forall_mem_cons.mp h
      rw [put]
      split
      · exact List.forall_mem_cons.mpr ⟨hvalue, hrest⟩
      · exact List.forall_mem_cons.mpr ⟨hkept, ih hrest⟩

theorem nodup_byName (entries : List (String × α)) : ((byName entries).map (·.1)).Nodup := by
  have hfold : ∀ held : List (String × α), (held.map (·.1)).Nodup →
      ((entries.foldl (fun held (name, value) => put (· == ·) name value held) held).map (·.1)).Nodup := by
    induction entries with
    | nil => exact fun held h => h
    | cons entry rest ih => exact fun held h => ih _ (nodup_put h)
  exact hfold [] (by simp)

/-- Under distinct names an entry is there if it is found under its name. -/
theorem mem_iff_lookup {name : String} {value : α} {entries : List (String × α)}
    (h : (entries.map (·.1)).Nodup) : (name, value) ∈ entries ↔ entries.lookup name = some value := by
  induction entries with
  | nil => simp
  | cons entry rest ih =>
      obtain ⟨key, kept⟩ := entry
      rw [List.map_cons, List.nodup_cons] at h
      rw [List.mem_cons, List.lookup_cons]
      by_cases hkey : name = key
      · subst hkey
        have hnone : (name, value) ∉ rest := fun hmem => h.1 (List.mem_map.mpr ⟨_, hmem, rfl⟩)
        simp [hnone, eq_comm]
      · rw [beq_eq_false_iff_ne.mpr hkey, ← ih h.2]
        simp [hkey]

/-- Under distinct names the order of the entries does not matter. -/
theorem lookup_perm {entries other : List (String × α)} (h : entries.Perm other) (hnames : (entries.map (·.1)).Nodup)
    (name : String) : entries.lookup name = other.lookup name := by
  apply Option.ext
  intro value
  rw [← mem_iff_lookup hnames, ← mem_iff_lookup ((h.map _).nodup_iff.mp hnames), h.mem_iff]

/-! ### Keys in another form -/

section

variable {κ' α' : Type} {same : κ → κ → Bool} {same' : κ' → κ' → Bool} {f : κ → κ'}

/-- Entries are put alike in two forms whose keys are told apart alike. -/
theorem put_map (h : ∀ a b, same' (f a) (f b) = same a b) (g : α → α') (key : κ) (value : α) (held : List (κ × α)) :
    put same' (f key) (g value) (held.map (Prod.map f g)) = (put same key value held).map (Prod.map f g) := by
  induction held with
  | nil => rfl
  | cons entry rest ih =>
      obtain ⟨other, kept⟩ := entry
      rw [List.map_cons, put, Prod.map_apply, put, h]
      by_cases hsame : same other key = true
      · rw [if_pos hsame, if_pos hsame]
        rfl
      · rw [if_neg hsame, if_neg hsame, ih]
        rfl

theorem lastWins_map (h : ∀ a b, same' (f a) (f b) = same a b) (g : α → α') (entries : List (κ × α)) :
    lastWins same' (entries.map (Prod.map f g)) = (lastWins same entries).map (Prod.map f g) := by
  have hfold : ∀ held : List (κ × α),
      (entries.map (Prod.map f g)).foldl (fun held (key, value) => put same' key value held)
          (held.map (Prod.map f g)) =
        (entries.foldl (fun held (key, value) => put same key value held) held).map (Prod.map f g) := by
    induction entries with
    | nil => exact fun held => rfl
    | cons entry rest ih =>
        intro held
        obtain ⟨key, value⟩ := entry
        simp only [List.map_cons, List.foldl_cons, Prod.map_apply, put_map h, ih]
  exact hfold []

end

end SeriesCatalog.Assoc
