import Mathlib.Data.List.Induction
import SeriesCatalog.Settings.Store

/-! The snapshot of settings that a process keeps. What is kept after a history is what the first plain question since
the last clearing built, if one of them could build anything: the surroundings may change and overridden questions may
come between. An overridden question is answered from its overrides and the surroundings of its moment alone. -/

namespace SeriesCatalog.Store

variable {ε α : Type}

/-! ### Histories -/

namespace Action

def isClear : Action → Bool
  | .clear => true
  | _ => false

/-- A question without overrides that have content. -/
def isPlain : Action → Bool
  | .get none | .get (some []) => true
  | _ => false

/-- What an action makes of the surroundings. -/
def surround (w : Surroundings) : Action → Surroundings
  | .setVariable name value => (Store.setVariable name value ({ surroundings := w } : Store Unit)).surroundings
  | .removeVariable name => (Store.removeVariable name ({ surroundings := w } : Store Unit)).surroundings
  | .writeFile text => { w with file := text }
  | .clear | .get _ => w

end Action

/-- The surroundings after a history, whatever was asked in it. -/
def surroundingsAfter (w : Surroundings) (history : List Action) : Surroundings := history.foldl Action.surround w

/-- The actions of a history, each with the surroundings of its moment. -/
def timeline (w : Surroundings) : List Action → List (Surroundings × Action)
  | [] => []
  | action :: rest => (w, action) :: timeline (action.surround w) rest

/-- What comes after the last clearing. -/
def sinceClear (line : List (Surroundings × Action)) : List (Surroundings × Action) :=
  (line.reverse.takeWhile fun moment => !moment.2.isClear).reverse

/-- What the first plain question builds that builds anything. -/
def firstBuilt (construct : Construction ε α) (line : List (Surroundings × Action)) : Option α :=
  line.findSome? fun (w, action) => if action.isPlain then (construct [] w).toOption else none

/-- The value that a history leaves to be kept. -/
def snapshot (construct : Construction ε α) (w : Surroundings) (history : List Action) : Option α :=
  firstBuilt construct (sinceClear (timeline w history))

theorem timeline_concat (w : Surroundings) (history : List Action) (action : Action) :
    timeline w (history ++ [action]) = timeline w history ++ [(surroundingsAfter w history, action)] := by
  induction history generalizing w with
  | nil => rfl
  | cons first rest ih => exact congrArg ((w, first) :: ·) (ih (first.surround w))

theorem sinceClear_concat (line : List (Surroundings × Action)) (moment : Surroundings × Action) :
    sinceClear (line ++ [moment]) = if moment.2.isClear then [] else sinceClear line ++ [moment] := by
  rw [sinceClear, List.reverse_append, List.reverse_singleton, List.singleton_append, List.takeWhile_cons]
  cases moment.2.isClear <;> simp [sinceClear]

/-- One action later the snapshot is gone after a clearing; if there is none yet, a plain question may build it. -/
theorem snapshot_concat (construct : Construction ε α) (w : Surroundings) (history : List Action) (action : Action) :
    snapshot construct w (history ++ [action]) =
      if action.isClear then none
      else (snapshot construct w history).or
        (if action.isPlain then (construct [] (surroundingsAfter w history)).toOption else none) := by
  rw [snapshot, timeline_concat, sinceClear_concat]
  cases action.isClear with
  | true => rfl
  | false => simp [snapshot, firstBuilt, List.findSome?_append]

/-! ### Runs -/

theorem run_concat (construct : Construction ε α) (s : Store α) (history : List Action) (action : Action) :
    run construct s (history ++ [action]) =
      ((run construct s history).1 ++ ((run construct s history).2.perform construct action).1.toList,
        ((run construct s history).2.perform construct action).2) := by
  induction history generalizing s with
  | nil => simp [run]
  | cons first rest ih =>
      rw [List.cons_append, run, run]
      simp only [ih, List.append_assoc]

/-- Without content among the overrides the kept value is asked for. -/
theorem get_of_isPlain {overrides : Option Members} (h : (Action.get overrides).isPlain = true)
    (construct : Construction ε α) (s : Store α) : s.get construct overrides = s.getKept construct := by
  obtain _ | _ | ⟨first, rest⟩ := overrides
  · rfl
  · rfl
  · cases h

theorem get_of_not_isPlain {overrides : Option Members} (h : (Action.get overrides).isPlain = false)
    (construct : Construction ε α) (s : Store α) :
    s.get construct overrides = (construct (overrides.getD []) s.surroundings, s) := by
  obtain _ | _ | ⟨first, rest⟩ := overrides
  · cases h
  · cases h
  · rfl

theorem getKept_of_some (construct : Construction ε α) {s : Store α} {value : α} (h : s.kept = some value) :
    s.getKept construct = (.ok value, s) := by
  rw [getKept, h]

/-- What is built is kept; what cannot be built leaves nothing. -/
theorem getKept_of_none (construct : Construction ε α) {s : Store α} (h : s.kept = none) :
    s.getKept construct =
      (construct [] s.surroundings, { s with kept := (construct [] s.surroundings).toOption }) := by
  obtain ⟨w, kept⟩ := s
  subst h
  rw [getKept]
  cases construct [] w <;> rfl

theorem getKept_next (construct : Construction ε α) (s : Store α) :
    (s.getKept construct).2 = { s with kept := s.kept.or (construct [] s.surroundings).toOption } := by
  cases h : s.kept with
  | some value =>
      rw [getKept_of_some construct h, Option.some_or, ← h]
  | none => rw [getKept_of_none construct h, Option.none_or]

/-- What an action does to the surroundings and to the kept value. -/
theorem perform_next (construct : Construction ε α) (s : Store α) (action : Action) :
    (s.perform construct action).2 =
      { surroundings := action.surround s.surroundings
        kept := if action.isClear then none
          else s.kept.or (if action.isPlain then (construct [] s.surroundings).toOption else none) } := by
  cases action with
  | get overrides =>
      show (s.get construct overrides).2 = { s with kept := s.kept.or _ }
      cases h : (Action.get overrides).isPlain with
      | true => rw [get_of_isPlain h, getKept_next, if_pos rfl]
      | false => rw [get_of_not_isPlain h, if_neg Bool.false_ne_true, Option.or_none]
  | clear => rfl
  | _ =>
      obtain ⟨w, kept⟩ := s
      simp [perform, setVariable, removeVariable, writeFile, Action.surround, Action.isClear, Action.isPlain]

/-- The store after a history has its snapshot. -/
theorem run_next (construct : Construction ε α) (w : Surroundings) (history : List Action) :
    (run construct { surroundings := w } history).2 =
      { surroundings := surroundingsAfter w history, kept := snapshot construct w history } := by
  induction history using List.reverseRecOn with
  | nil => rfl
  | append_singleton history action ih =>
      rw [run_concat, ih, perform_next, snapshot_concat, surroundingsAfter, surroundingsAfter, List.foldl_append,
        List.foldl_cons, List.foldl_nil]

/-! ### Answers -/

/-- How a question is answered after a history. A plain question has the snapshot for its answer, or it tries to build
one; an overridden one is built from its overrides and leaves the store as it is, whatever that keeps; and whatever
cannot be built leaves the store as it is. -/
structure IsAnswered (construct : Construction ε α) (w : Surroundings) (history : List Action)
    (overrides : Option Members) (s : Store α) (answer : Except ε α) (next : Store α) : Prop where
  kept : (Action.get overrides).isPlain = true → ∀ value, snapshot construct w history = some value →
    answer = .ok value ∧ next = s
  built : (Action.get overrides).isPlain = true → snapshot construct w history = none →
    answer = construct [] (surroundingsAfter w history) ∧ next = { s with kept := answer.toOption }
  overridden : (Action.get overrides).isPlain = false →
    answer = construct (overrides.getD []) (surroundingsAfter w history) ∧ next = s ∧
      ∀ other, { s with kept := other }.get construct overrides = (answer, { s with kept := other })
  failed : ∀ fault, answer = .error fault → next = s

/-- One question, asked of a store. -/
theorem isAnswered_get (construct : Construction ε α) (w : Surroundings) (history : List Action)
    (overrides : Option Members) {s : Store α}
    (hs : s = { surroundings := surroundingsAfter w history, kept := snapshot construct w history }) :
    IsAnswered construct w history overrides s (s.get construct overrides).1 (s.get construct overrides).2 := by
  cases h : (Action.get overrides).isPlain with
  | false =>
      rw [get_of_not_isPlain h]
      exact ⟨fun hplain => absurd (h.symm.trans hplain) Bool.false_ne_true,
        fun hplain => absurd (h.symm.trans hplain) Bool.false_ne_true,
        fun _ => ⟨by rw [hs], rfl, fun other => by rw [get_of_not_isPlain h]⟩, fun _ _ => rfl⟩
  | true =>
      rw [get_of_isPlain h]
      have hover {p : Prop} (hplain : (Action.get overrides).isPlain = false) : p :=
        absurd (h.symm.trans hplain) Bool.noConfusion
      cases hkept : snapshot construct w history with
      | some value =>
          rw [getKept_of_some construct (by rw [hs, hkept])]
          exact ⟨fun _ found hfound => ⟨congrArg _ (Option.some.inj (hkept.symm.trans hfound)), rfl⟩,
            fun _ hnone => absurd (hkept.symm.trans hnone) (Option.some_ne_none value), hover, fun _ _ => rfl⟩
      | none =>
          have hnone : s.kept = none := by rw [hs, hkept]
          rw [getKept_of_none construct hnone]
          refine ⟨fun _ value hvalue => ?_, fun _ _ => ⟨by rw [hs], rfl⟩, hover, fun fault hfault => ?_⟩
          · exact absurd (hkept.symm.trans hvalue) (Option.some_ne_none value).symm
          · have hfailed : construct [] s.surroundings = .error fault := hfault
            rw [hfailed, Except.toOption, ← hnone]

/-- After every history of a process that begins with nothing kept, the next question is answered as `IsAnswered`
says. -/
theorem run_keepsSnapshot (construct : Construction ε α) (w : Surroundings) (history : List Action)
    (overrides : Option Members) :
    ∃ answers s answer next, run construct { surroundings := w } history = (answers, s) ∧
      run construct { surroundings := w } (history ++ [.get overrides]) = (answers ++ [answer], next) ∧
      s = { surroundings := surroundingsAfter w history, kept := snapshot construct w history } ∧
      IsAnswered construct w history overrides s answer next := by
  have hnext := run_next construct w history
  refine ⟨_, _, _, _, rfl, ?_, hnext, isAnswered_get construct w history overrides hnext⟩
  rw [run_concat]
  rfl

/-- What the first question could not build the second one builds, and that stays when the file changes again. -/
example (construct : Construction String String)
    (h : construct = fun _ w => if w.file = "" then .error "empty" else .ok w.file) :
    (run construct {} [.get none, .writeFile "one", .get (some []), .writeFile "two", .get (some [("a", .null)]),
      .get none]).1 = [.error "empty", .ok "one", .ok "two", .ok "one"] := by
  subst h
  rfl

end SeriesCatalog.Store
