import Mathlib

/-!
# Machines and their guarded runs

Every component of the server that this development looks at is a *machine*: it has one state it
starts in and it is driven by calls from outside.  A call either takes the machine to its next
state or is undefined there — the call dereferences a pointer it must not, or it is one the rest of
the server never makes in that state.

`Machine.Reaches M ok s` says that `M` can be driven from its start into `s` by calls that all
satisfy `ok` in the state they are made in.  With `ok` always true this is plain reachability
(`Machine.Reachable`); with a real `ok` it is reachability along the runs that avoid some branch.
An invariant is proved once, by `Machine.Reaches.invariant`, from a start lemma and a step lemma.

`Machine.exec` runs a list of calls, so that a concrete run can be evaluated; `Reaches.exec` the evaluation back
into reachability.
-/

universe u v

/-- A deterministic machine with states in `σ`, driven by calls in `α`.  `next s a = none` when the
call `a` is undefined in the state `s`. -/
structure Machine (σ : Type u) (α : Type v) where
  /-- The state the machine starts in. -/
  start : σ
  /-- What a call does. -/
  next : σ → α → Option σ

namespace Machine

variable {σ : Type u} {α : Type v} {M : Machine σ α} {ok ok' : σ → α → Prop} {P : σ → Prop}

/-- The states `M` can be driven into by calls that satisfy `ok` where they are made. -/
inductive Reaches (M : Machine σ α) (ok : σ → α → Prop) : σ → Prop
  | start : Reaches M ok M.start
  | step {s t : σ} {a : α} (hs : Reaches M ok s) (ha : ok s a) (hn : M.next s a = some t) :
      Reaches M ok t

/-- The states `M` can be driven into by any calls at all. -/
def Reachable (M : Machine σ α) (s : σ) : Prop := M.Reaches (fun _ _ ↦ True) s

/-- **The invariant rule.**  What holds at the start and is preserved by every admitted call holds
in every state an admitted run reaches. -/
theorem Reaches.invariant {s : σ} (h : M.Reaches ok s) (hstart : P M.start)
    (hstep : ∀ s a t, P s → ok s a → M.next s a = some t → P t) : P s := by
  induction h with
  | start => exact hstart
  | step _ ha hn ih => exact hstep _ _ _ ih ha hn

theorem Reaches.mono {s : σ} (h : M.Reaches ok s) (hok : ∀ s a, ok s a → ok' s a) : M.Reaches ok' s := by
  induction h with
  | start => exact .start
  | step _ ha hn ih => exact .step ih (hok _ _ ha) hn

/-- Make the calls of a list one after the other; give up at one that `ok` does not admit. -/
def exec (M : Machine σ α) (ok : σ → α → Prop) [∀ s a, Decidable (ok s a)] (s : σ) : List α → Option σ
  | [] => some s
  | a :: as => if ok s a then (M.next s a).bind fun t ↦ M.exec ok t as else none

theorem Reaches.exec [∀ s a, Decidable (ok s a)] {s t : σ} {as : List α} (hs : M.Reaches ok s)
    (h : M.exec ok s as = some t) : M.Reaches ok t := by
  induction as generalizing s with
  | nil => rw [Machine.exec, Option.some_inj] at h; exact h ▸ hs
  | cons a as ih =>
    rw [Machine.exec, Option.ite_none_right_eq_some, Option.bind_eq_some_iff] at h
    obtain ⟨ha, s', hn, h⟩ := h
    exact ih (.step hs ha hn) h

/-- A run that can be evaluated reaches the state it evaluates to. -/
theorem reaches_of_exec [∀ s a, Decidable (ok s a)] {t : σ} (as : List α)
    (h : M.exec ok M.start as = some t) : M.Reaches ok t :=
  Reaches.exec .start h

/-- A property that the state at the end of an evaluated run has is one of a state that `M`
reaches by calls that `ok` admits. -/
theorem exists_exec (M : Machine σ α) (ok : σ → α → Prop) [∀ s a, Decidable (ok s a)] (as : List α)
    (p : σ → Prop) [DecidablePred p] (h : (M.exec ok M.start as).any (fun s ↦ p s) = true) :
    ∃ s, M.exec ok M.start as = some s ∧ p s ∧ M.Reaches ok s := by
  obtain ⟨s, hs, hp⟩ := (Option.any_eq_true _ _).mp h
  exact ⟨s, hs, of_decide_eq_true hp, reaches_of_exec as hs⟩

theorem exists_reaches (M : Machine σ α) (ok : σ → α → Prop) [∀ s a, Decidable (ok s a)]
    (as : List α) (p : σ → Prop) [DecidablePred p]
    (h : (M.exec ok M.start as).any (fun s ↦ p s) = true) : ∃ s, M.Reaches ok s ∧ p s :=
  (M.exists_exec ok as p h).imp fun _ h ↦ ⟨h.2.2, h.2.1⟩

theorem exists_reachable (M : Machine σ α) (as : List α) (p : σ → Prop) [DecidablePred p]
    (h : (M.exec (fun _ _ ↦ True) M.start as).any (fun s ↦ p s) = true) :
    ∃ s, M.Reachable s ∧ p s :=
  M.exists_reaches _ as p h

end Machine
