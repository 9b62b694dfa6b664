import Mathlib.Data.List.Forall2
import SeriesCatalog.Fault

/-! Taking a computation that may fail apart: what a success says of its parts, and what a failure does. A
list read item by item has as many results as items, each the result of its own item. -/

namespace SeriesCatalog.Fallible

variable {α β γ : Type}

theorem bind_eq_ok {x : Except Fault α} {f : α → Except Fault β} {b : β} :
    x >>= f = .ok b ↔ ∃ a, x = .ok a ∧ f a = .ok b := by
  cases x <;> simp [bind, Except.bind]

theorem bind_eq_error {x : Except Fault α} {f : α → Except Fault β} {fault : Fault} :
    x >>= f = .error fault ↔ x = .error fault ∨ ∃ a, x = .ok a ∧ f a = .error fault := by
  cases x <;> simp [bind, Except.bind]

theorem map_eq_ok {x : Except Fault α} {f : α → β} {b : β} :
    x.map f = .ok b ↔ ∃ a, x = .ok a ∧ f a = b := by
  cases x <;> simp [Except.map]

theorem map_eq_error {x : Except Fault α} {f : α → β} {fault : Fault} :
    x.map f = .error fault ↔ x = .error fault := by
  cases x <;> simp [Except.map]

theorem eq_ok_of_toOption {x : Except Fault α} {a : α} (h : x.toOption = some a) : x = .ok a := by
  cases x with
  | ok b => exact congrArg Except.ok (Option.some.inj h)
  | error fault => cases h

/-! ### Lists -/

theorem mapM_eq_ok {f : α → Except Fault β} {xs : List α} {ys : List β} :
    xs.mapM f = .ok ys ↔ List.Forall₂ (fun x y => f x = .ok y) xs ys := by
  induction xs generalizing ys with
  | nil =>
      rw [List.mapM_nil, List.forall₂_nil_left_iff]
      exact ⟨fun h => (Except.ok.inj h).symm, fun h => congrArg Except.ok h.symm⟩
  | cons x rest ih =>
      rw [List.mapM_cons, List.forall₂_cons_left_iff, bind_eq_ok]
      simp only [bind_eq_ok, ih, pure, Except.pure, Except.ok.injEq]
      constructor
      · rintro ⟨y, hy, more, hmore, rfl⟩
        exact ⟨y, more, hy, hmore, rfl⟩
      · rintro ⟨y, more, hy, hmore, rfl⟩
        exact ⟨y, hy, more, hmore, rfl⟩

theorem forall_of_mapM_eq_ok {f : α → Except Fault β} {p : α → Prop} {xs : List α} {ys : List β}
    (hp : ∀ x y, f x = .ok y → p x) (h : xs.mapM f = .ok ys) : ∀ x ∈ xs, p x := by
  have hpairs := mapM_eq_ok.mp h
  clear h
  induction hpairs with
  | nil => simp
  | cons hhead _ ih => exact List.forall_mem_cons.mpr ⟨hp _ _ hhead, ih⟩

/-- Where each success is known in advance, so is the success of the list. -/
theorem eq_map_of_mapM_eq_ok {f : α → Except Fault β} {g : α → β} {xs : List α} {ys : List β}
    (hvalue : ∀ x y, f x = .ok y → y = g x) (h : xs.mapM f = .ok ys) : ys = xs.map g := by
  have hpairs := (mapM_eq_ok.mp h).imp hvalue
  rw [← List.forall₂_eq_eq_eq, List.forall₂_map_right_iff]
  exact hpairs.flip

/-- A list is read where each of its items is. -/
theorem exists_mapM_eq_ok_iff {f : α → Except Fault β} {xs : List α} :
    (∃ ys, xs.mapM f = .ok ys) ↔ ∀ x ∈ xs, ∃ y, f x = .ok y := by
  induction xs with
  | nil => simp [pure, Except.pure]
  | cons x rest ih =>
      rw [List.mapM_cons, List.forall_mem_cons, ← ih]
      simp only [bind_eq_ok, pure, Except.pure]
      constructor
      · rintro ⟨_, y, hy, more, hmore, -⟩
        exact ⟨⟨y, hy⟩, more, hmore⟩
      · rintro ⟨⟨y, hy⟩, more, hmore⟩
        exact ⟨y :: more, y, hy, more, hmore, rfl⟩

/-- The fault of a list is that of its first faulty item. -/
theorem mapM_eq_error {f : α → Except Fault β} {xs : List α} {fault : Fault} :
    xs.mapM f = .error fault ↔
      ∃ before x after, xs = before ++ x :: after ∧ (∀ y ∈ before, ∃ b, f y = .ok b) ∧ f x = .error fault := by
  constructor
  · induction xs with
    | nil => intro h; cases h
    | cons x rest ih =>
        intro h
        rw [List.mapM_cons] at h
        rcases bind_eq_error.mp h with hx | ⟨b, hb, hmore⟩
        · exact ⟨[], x, rest, rfl, nofun, hx⟩
        · rcases bind_eq_error.mp hmore with hrest | ⟨more, -, hpure⟩
          · obtain ⟨before, y, after, rfl, hbefore, hy⟩ := ih hrest
            exact ⟨x :: before, y, after, rfl, List.forall_mem_cons.mpr ⟨⟨b, hb⟩, hbefore⟩, hy⟩
          · cases hpure
  · rintro ⟨before, x, after, rfl, hbefore, hx⟩
    obtain ⟨read, hread⟩ := exists_mapM_eq_ok_iff.mpr hbefore
    rw [List.mapM_append, hread, List.mapM_cons, hx]
    rfl

/-- What is read from the item of an index has the same index. -/
theorem getElem?_of_mapM_eq_ok {f : α → Except Fault β} {xs : List α} {ys : List β} {x : α} {i : Nat}
    (h : xs.mapM f = .ok ys) (hx : xs[i]? = some x) : ∃ y, ys[i]? = some y ∧ f x = .ok y := by
  have hpairs := mapM_eq_ok.mp h
  clear h
  induction hpairs generalizing i with
  | nil => cases hx
  | @cons first y _ _ hfirst _ ih =>
      cases i with
      | zero =>
          obtain rfl : first = x := Option.some.inj hx
          exact ⟨y, rfl, hfirst⟩
      | succ i => exact ih hx

/-- Looking through a list finds something where an item gives something. -/
theorem exists_findSome?_iff {f : α → Option β} {xs : List α} :
    (∃ y, xs.findSome? f = some y) ↔ ∃ x ∈ xs, ∃ y, f x = some y := by
  simp only [← Option.isSome_iff_exists, List.isSome_findSome?, List.any_eq_true]

/-! ### The faults of a computation -/

/-- The fault that a computation fails with. -/
def fault? : Except Fault α → Option Fault
  | .ok _ => none
  | .error fault => some fault

theorem fault?_map (f : α → β) (x : Except Fault α) : fault? (x.map f) = fault? x := by
  cases x <;> rfl

theorem fault?_eq_some {x : Except Fault α} {fault : Fault} : fault? x = some fault ↔ x = .error fault := by
  cases x <;> simp [fault?]

/-- Whatever fault a computation fails with is of a kind. -/
def FailsWith (p : Fault → Prop) (x : Except Fault α) : Prop := ∀ fault, x = .error fault → p fault

namespace FailsWith

variable {p : Fault → Prop}

theorem ok (a : α) : FailsWith p (.ok a : Except Fault α) := nofun

theorem error {fault : Fault} (h : p fault) : FailsWith p (.error fault : Except Fault α) := by
  rintro _ ⟨⟩
  exact h

theorem mono {q : Fault → Prop} {x : Except Fault α} (h : FailsWith p x) (hpq : ∀ fault, p fault → q fault) :
    FailsWith q x :=
  fun fault hfault => hpq fault (h fault hfault)

theorem bind {x : Except Fault α} {f : α → Except Fault β} (hx : FailsWith p x)
    (hf : ∀ a, x = .ok a → FailsWith p (f a)) : FailsWith p (x >>= f) := by
  intro fault h
  rcases bind_eq_error.mp h with hfirst | ⟨a, ha, hsecond⟩
  · exact hx fault hfirst
  · exact hf a ha fault hsecond

theorem map {x : Except Fault α} (f : α → β) (hx : FailsWith p x) : FailsWith p (x.map f) :=
  fun fault h => hx fault (map_eq_error.mp h)

theorem mapM {f : α → Except Fault β} {xs : List α} (hf : ∀ x ∈ xs, FailsWith p (f x)) :
    FailsWith p (xs.mapM f) := by
  induction xs with
  | nil => exact ok []
  | cons x rest ih =>
      rw [List.mapM_cons]
      refine bind (hf x List.mem_cons_self) fun _ _ => bind (ih fun y hy => hf y (List.mem_cons_of_mem x hy)) ?_
      exact fun _ _ => ok _

end FailsWith

/-! ### Two computations -/

/-- Two computations agree: both succeed, with related results, or both fail. -/
inductive Agree (R : α → β → Prop) : Except Fault α → Except Fault β → Prop
  | ok {a : α} {b : β} (h : R a b) : Agree R (.ok a) (.ok b)
  | error {first second : Fault} : Agree R (.error first) (.error second)

namespace Agree

theorem refl {R : α → α → Prop} (h : ∀ a, R a a) (x : Except Fault α) : Agree R x x := by
  cases x with
  | ok a => exact .ok (h a)
  | error fault => exact .error

theorem symm {R : α → α → Prop} {x y : Except Fault α} (h : Agree R x y) (hR : ∀ a b, R a b → R b a) :
    Agree R y x := by
  cases h with
  | ok h => exact .ok (hR _ _ h)
  | error => exact .error

theorem trans {R : α → α → Prop} {x y z : Except Fault α} (h : Agree R x y)
    (hR : ∀ a b c, R a b → R b c → R a c) (hnext : Agree R y z) : Agree R x z := by
  cases h with
  | ok h =>
      cases hnext with
      | ok hnext => exact .ok (hR _ _ _ h hnext)
  | error =>
      cases hnext with
      | error => exact .error

variable {R : α → β → Prop} {x : Except Fault α} {y : Except Fault β}

/-- Of results that are related one way it is enough to know that they are related another way. -/
theorem imp {S : α → β → Prop} (h : Agree R x y) (hRS : ∀ a b, x = .ok a → y = .ok b → R a b → S a b) :
    Agree S x y := by
  cases h with
  | ok h => exact .ok (hRS _ _ rfl rfl h)
  | error => exact .error

theorem bind {γ δ : Type} {S : γ → δ → Prop} {f : α → Except Fault γ} {g : β → Except Fault δ} (h : Agree R x y)
    (hfg : ∀ a b, R a b → Agree S (f a) (g b)) : Agree S (x >>= f) (y >>= g) := by
  cases h with
  | ok h => exact hfg _ _ h
  | error => exact .error

theorem map {γ δ : Type} {S : γ → δ → Prop} {f : α → γ} {g : β → δ} (h : Agree R x y)
    (hfg : ∀ a b, R a b → S (f a) (g b)) : Agree S (x.map f) (y.map g) := by
  cases h with
  | ok h => exact .ok (hfg _ _ h)
  | error => exact .error

/-- Lists read item by item agree where their items do. -/
theorem mapM {γ δ : Type} {f : γ → Except Fault α} {g : δ → Except Fault β} {xs : List γ} {ys : List δ}
    (h : List.Forall₂ (fun x y => Agree R (f x) (g y)) xs ys) :
    Agree (List.Forall₂ R) (xs.mapM f) (ys.mapM g) := by
  induction h with
  | nil => exact .ok .nil
  | cons hhead _ ih =>
      rw [List.mapM_cons, List.mapM_cons]
      exact hhead.bind fun _ _ hab => ih.bind fun _ _ hmore => .ok (.cons hab hmore)

/-- Where one item is changed, lists agree if the item agrees with what it was. -/
theorem mapM_middle {R : α → α → Prop} (hR : ∀ a, R a a) {f : γ → Except Fault α} {x y : γ} (h : Agree R (f x) (f y))
    (before after : List γ) :
    Agree (List.Forall₂ R) ((before ++ x :: after).mapM f) ((before ++ y :: after).mapM f) :=
  mapM (List.rel_append (List.forall₂_same.mpr fun z _ => refl hR (f z))
    (.cons h (List.forall₂_same.mpr fun z _ => refl hR (f z))))

/-- In another order a list has the same results, in another order. -/
theorem mapM_perm {f : γ → Except Fault α} {xs ys : List γ} (h : xs.Perm ys) :
    Agree List.Perm (xs.mapM f) (ys.mapM f) := by
  induction h with
  | nil => exact .ok .nil
  | cons x _ ih =>
      rw [List.mapM_cons, List.mapM_cons]
      refine bind (refl (fun _ => rfl) (f x)) fun a b hab => ?_
      obtain rfl : a = b := hab
      exact ih.bind fun _ _ hmore => .ok (hmore.cons a)
  | swap x y rest =>
      simp only [List.mapM_cons]
      cases f x with
      | error fault => cases f y <;> exact .error
      | ok a =>
          cases f y with
          | error fault => exact .error
          | ok b =>
              cases rest.mapM f with
              | error fault => exact .error
              | ok more => exact .ok (.swap a b more)
  | trans _ _ hfirst hsecond => exact hfirst.trans (fun _ _ _ => List.Perm.trans) hsecond

end Agree

end SeriesCatalog.Fallible
