import Mathlib

/-!
# Loops over a list that may stop or fail

`ListLoop.run` goes through a list as long as a condition on the state holds; a turn may fail.  `EachTurn` says of a
predicate that it holds at the start of every turn the loop takes.  `run_invariant` is the invariant rule;
`exists_run` says that a loop whose turns all meet a condition under which a turn does not fail runs to its end, and
`eachTurn_of_run` the other way round, that the turns of a loop with a good end all met the condition a good turn needs.
-/

universe u v

namespace ListLoop

variable {ε : Type u} {σ : Type v} (go : σ → Bool) (step : ε → σ → Option σ)

/-- The loop. -/
def run : List ε → σ → Option σ
  | [], s => some s
  | e :: es, s => if go s then (step e s).bind (run es) else some s

/-- `P` holds at the start of every turn. -/
def EachTurn (P : ε → σ → Prop) : List ε → σ → Prop
  | [], _ => True
  | e :: es, s => go s = true → P e s ∧ ∀ t, step e s = some t → EachTurn P es t

variable {go step} {I Q : σ → Prop} {P : ε → σ → Prop} {es : List ε} {s t : σ}

theorem run_cons_of_go {e : ε} (hgo : go s = true) : run go step (e :: es) s = (step e s).bind (run go step es) :=
  if_pos hgo

theorem run_cons_of_not_go {e : ε} (hgo : go s = false) : run go step (e :: es) s = some s := by
  simp [run, hgo]

/-- What an invariant implies of the elements of the list holds at the start of every turn. -/
theorem eachTurn_of_invariant (hI : ∀ e s t, I s → go s = true → step e s = some t → I t)
    (hP : ∀ e ∈ es, ∀ s, I s → P e s) (hs : I s) : EachTurn go step P es s := by
  induction es generalizing s with
  | nil => trivial
  | cons e es ih =>
    intro hgo
    refine ⟨hP e List.mem_cons_self s hs, fun t ht ↦ ?_⟩
    exact ih (fun e' he' ↦ hP e' (List.mem_cons_of_mem e he')) (hI e s t hs hgo ht)

theorem eachTurn_of_forall (h : ∀ e s, P e s) (es : List ε) (s : σ) : EachTurn go step P es s :=
  eachTurn_of_invariant (I := fun _ ↦ True) (fun _ _ _ _ _ _ ↦ trivial) (fun e _ s _ ↦ h e s) trivial

/-- **The invariant rule.** -/
theorem run_invariant (hstep : ∀ e s t, I s → go s = true → step e s = some t → I t) (hs : I s)
    (hrun : run go step es s = some t) : I t := by
  induction es generalizing s with
  | nil =>
    cases hrun
    exact hs
  | cons e es ih =>
    cases hgo : go s with
    | false =>
      rw [run_cons_of_not_go hgo, Option.some_inj] at hrun
      exact hrun ▸ hs
    | true =>
      rw [run_cons_of_go hgo, Option.bind_eq_some_iff] at hrun
      obtain ⟨s', hs', hrest⟩ := hrun
      exact ih (hstep e s s' hs hgo hs') hrest

theorem exists_run (hstep : ∀ e s, I s → go s = true → P e s → ∃ t, step e s = some t ∧ I t) (hs : I s)
    (h : EachTurn go step P es s) : ∃ t, run go step es s = some t ∧ I t := by
  induction es generalizing s with
  | nil => exact ⟨s, rfl, hs⟩
  | cons e es ih =>
    cases hgo : go s with
    | false => exact ⟨s, run_cons_of_not_go hgo, hs⟩
    | true =>
      obtain ⟨hP, hrest⟩ := h hgo
      obtain ⟨s', hs', hI⟩ := hstep e s hs hgo hP
      obtain ⟨t, ht, hIt⟩ := ih hI (hrest s' hs')
      exact ⟨t, by rw [run_cons_of_go hgo, hs', Option.bind_some, ht], hIt⟩

/-- The turns of a loop with a good end all met `P`, if bad states stay bad. -/
theorem eachTurn_of_run (hI : ∀ e s t, I s → go s = true → step e s = some t → I t)
    (hQ : ∀ e s t, I s → go s = true → step e s = some t → Q t → Q s ∧ P e s) (hs : I s)
    (hrun : run go step es s = some t) (ht : Q t) : EachTurn go step P es s ∧ Q s := by
  induction es generalizing s with
  | nil =>
    cases hrun
    exact ⟨trivial, ht⟩
  | cons e es ih =>
    cases hgo : go s with
    | false =>
      rw [run_cons_of_not_go hgo, Option.some_inj] at hrun
      refine ⟨fun h ↦ ?_, hrun ▸ ht⟩
      simp [hgo] at h
    | true =>
      rw [run_cons_of_go hgo, Option.bind_eq_some_iff] at hrun
      obtain ⟨s', hs', hrest⟩ := hrun
      obtain ⟨hturns, hQs'⟩ := ih (hI e s s' hs hgo hs') hrest
      obtain ⟨hQs, hP⟩ := hQ e s s' hs hgo hs' hQs'
      refine ⟨fun _ ↦ ⟨hP, fun t' ht' ↦ ?_⟩, hQs⟩
      rw [hs', Option.some_inj] at ht'
      exact ht' ▸ hturns

end ListLoop
