import Gundrak.Util.Machine

/-!
# Asynchronous callables of a task scheduler

A `TaskScheduler` has tasks with an end, and callables that run at the next update.  `Dispatch` runs the callables
first: the one at the front of `_asyncHolder` is called, and then popped.  What is called may change the scheduler,
and the documentation says that this is safe.

It is safe to submit more callables, to schedule tasks and to cancel groups of them.  But `CancelAll` replaces the
queue, so that what is popped afterwards is not the callable that has run: it is one that was submitted after the
cancellation, or there is none.  **`asyncs_right_iff`** says that nothing else goes wrong.
-/

namespace Gundrak

/-! ## The source -/

/-- `TaskScheduler::Task`, with handlers in `Handler`. -/
structure Task (Handler : Type) where
  _end : ℤ
  _duration : ℤ
  _group : Option ℕ
  _repeated : ℕ
  _task : Handler

/-- `TaskScheduler`.  The tasks are in the order of the set, and `_predicate` is asked in a state of the world. -/
structure TaskScheduler (Callable Handler World : Type) where
  _now : ℤ
  _task_holder : List (Task Handler)
  _asyncHolder : List Callable
  _predicate : World → Bool

namespace TaskScheduler

variable {Callable Handler World : Type}

/-- What a callable can do to the scheduler. -/
inductive Operation (Callable Handler World : Type) where
  | Async (callable : Callable)
  | Schedule (time : ℤ) (group : Option ℕ) (task : Handler)
  | CancelGroup (group : ℕ)
  | CancelAll
  | SetValidator (predicate : World → Bool)

section operations

variable (s : TaskScheduler Callable Handler World)

/-- `TaskScheduler::Async`. -/
def Async (callable : Callable) : TaskScheduler Callable Handler World :=
  { s with _asyncHolder := s._asyncHolder ++ [callable] }

/-- `TaskScheduler::InsertTask`: a task goes behind all that do not end later. -/
def InsertTask (task : Task Handler) : TaskScheduler Callable Handler World :=
  { s with
    _task_holder := s._task_holder.takeWhile (fun t ↦ t._end ≤ task._end) ++
      task :: s._task_holder.dropWhile fun t ↦ t._end ≤ task._end }

/-- `TaskScheduler::Schedule`. -/
def Schedule (time : ℤ) (group : Option ℕ) (task : Handler) : TaskScheduler Callable Handler World :=
  s.InsertTask ⟨s._now + time, time, group, 0, task⟩

/-- `TaskScheduler::CancelGroup`. -/
def CancelGroup (group : ℕ) : TaskScheduler Callable Handler World :=
  { s with _task_holder := s._task_holder.filter fun t ↦ t._group ≠ some group }

/-- `TaskScheduler::CancelAll`. -/
def CancelAll : TaskScheduler Callable Handler World :=
  { s with _task_holder := [], _asyncHolder := [] }

/-- `TaskScheduler::SetValidator`. -/
def SetValidator (predicate : World → Bool) : TaskScheduler Callable Handler World :=
  { s with _predicate := predicate }

/-- What an operation does. -/
def perform : Operation Callable Handler World → TaskScheduler Callable Handler World
  | .Async callable => s.Async callable
  | .Schedule time group task => s.Schedule time group task
  | .CancelGroup group => s.CancelGroup group
  | .CancelAll => s.CancelAll
  | .SetValidator predicate => s.SetValidator predicate

/-- `_asyncHolder.pop()`; there must be something in the queue. -/
def popAsync : Option (TaskScheduler Callable Handler World) :=
  match s._asyncHolder with
  | [] => none
  | _ :: rest => some { s with _asyncHolder := rest }

end operations

/-! ## What should be called -/

/-- What happens to callables. -/
inductive Event (Callable : Type) where
  | submitted (callable : Callable)
  | cancelledAll
  | invoked (callable : Callable)

/-- The callables that have been submitted and neither cancelled nor invoked, in the order of their submission.  Only
the first of them may be invoked. -/
inductive Pending : List (Event Callable) → List Callable → Prop
  | nil : Pending [] []
  | submitted {log : List (Event Callable)} {pending : List Callable} (h : Pending log pending) (callable : Callable) :
      Pending (log ++ [.submitted callable]) (pending ++ [callable])
  | cancelledAll {log : List (Event Callable)} {pending : List Callable} (h : Pending log pending) :
      Pending (log ++ [.cancelledAll]) []
  | invoked {log : List (Event Callable)} {callable : Callable} {pending : List Callable}
      (h : Pending log (callable :: pending)) : Pending (log ++ [.invoked callable]) pending

/-- What an operation means for callables. -/
def Operation.event : Operation Callable Handler World → Option (Event Callable)
  | Async callable => some (.submitted callable)
  | CancelAll => some .cancelledAll
  | _ => none

/-! ## The loop -/

/-- In the loop of `Dispatch` for callables: the scheduler, the world, and what has happened. -/
structure Dispatching (Callable Handler World : Type) where
  scheduler : TaskScheduler Callable Handler World
  world : World
  log : List (Event Callable)

variable (invoke : Callable → World → World × List (Operation Callable Handler World))

namespace Dispatching

/-- The loop goes on: there is a callable, and the validator allows it. -/
def GoesOn (d : Dispatching Callable Handler World) : Prop :=
  d.scheduler._asyncHolder ≠ [] ∧ d.scheduler._predicate d.world = true

/-- A turn of the loop: the callable at the front runs and is popped. -/
def turn (d : Dispatching Callable Handler World) : Option (Dispatching Callable Handler World) :=
  match d.scheduler._asyncHolder with
  | [] => none
  | callable :: _ =>
    if d.scheduler._predicate d.world then
      let ran := invoke callable d.world
      (ran.2.foldl perform d.scheduler).popAsync.map fun scheduler ↦
        ⟨scheduler, ran.1, d.log ++ .invoked callable :: ran.2.filterMap Operation.event⟩
    else none

/-- Nothing is wrong: the queue is not empty when it is popped, what has been called was the first that was
pending, and the queue is what is pending. -/
structure Right (d : Dispatching Callable Handler World) : Prop where
  pops : d.GoesOn → (d.turn invoke).isSome
  pending : Pending d.log d.scheduler._asyncHolder

/-- The next callable does not cancel everything. -/
def KeepsQueue (d : Dispatching Callable Handler World) : Prop :=
  d.GoesOn → ∀ callable, d.scheduler._asyncHolder.head? = some callable → .CancelAll ∉ (invoke callable d.world).2

end Dispatching

/-- The loop of `Dispatch` for callables, from a scheduler with some of them. -/
def asyncLoop (s : TaskScheduler Callable Handler World) (world : World) :
    Machine (Dispatching Callable Handler World) Unit where
  start := ⟨s, world, s._asyncHolder.map .submitted⟩
  next d _ := d.turn invoke

/-! ## The queue and what is pending -/

variable {invoke} {s : TaskScheduler Callable Handler World} {world : World} {d : Dispatching Callable Handler World}
  {log : List (Event Callable)} {pending : List Callable}

/-- What an operation does to a queue. -/
def queueAfter (queue : List Callable) : Operation Callable Handler World → List Callable
  | .Async callable => queue ++ [callable]
  | .CancelAll => []
  | _ => queue

theorem asyncHolder_perform (op : Operation Callable Handler World) :
    (s.perform op)._asyncHolder = queueAfter s._asyncHolder op := by
  cases op <;> rfl

theorem asyncHolder_foldl (ops : List (Operation Callable Handler World)) :
    (ops.foldl perform s)._asyncHolder = ops.foldl queueAfter s._asyncHolder := by
  induction ops generalizing s with
  | nil => rfl
  | cons op ops ih => rw [List.foldl_cons, List.foldl_cons, ih, asyncHolder_perform]

/-- A callable stays in front of the queue, unless everything is cancelled. -/
theorem queueAfter_cons {op : Operation Callable Handler World} (h : op ≠ .CancelAll) (callable : Callable)
    (queue : List Callable) : queueAfter (callable :: queue) op = callable :: queueAfter queue op := by
  cases op with
  | CancelAll => exact absurd rfl h
  | Async c => rfl
  | Schedule time group task => rfl
  | CancelGroup group => rfl
  | SetValidator predicate => rfl

theorem foldl_queueAfter_cons (callable : Callable) (ops : List (Operation Callable Handler World))
    (queue : List Callable) :
    (.CancelAll ∉ ops → ops.foldl queueAfter (callable :: queue) = callable :: ops.foldl queueAfter queue) ∧
      (.CancelAll ∈ ops → ops.foldl queueAfter (callable :: queue) = ops.foldl queueAfter queue) := by
  induction ops generalizing queue with
  | nil => exact ⟨fun _ ↦ rfl, fun h ↦ absurd h List.not_mem_nil⟩
  | cons op ops ih =>
    by_cases hop : op = .CancelAll
    · subst hop
      exact ⟨fun h ↦ absurd List.mem_cons_self h, fun _ ↦ rfl⟩
    · rw [List.foldl_cons, List.foldl_cons, queueAfter_cons hop, List.mem_cons, or_iff_right (Ne.symm hop)]
      exact ih (queueAfter queue op)

theorem Pending.operations (h : Pending log pending) (ops : List (Operation Callable Handler World)) :
    Pending (log ++ ops.filterMap Operation.event) (ops.foldl queueAfter pending) := by
  induction ops generalizing log pending with
  | nil => rwa [List.filterMap_nil, List.append_nil]
  | cons op ops ih =>
    rw [List.foldl_cons]
    cases op with
    | Async c =>
      have hrest := ih (h.submitted c)
      rwa [List.append_assoc] at hrest
    | CancelAll =>
      have hrest := ih h.cancelledAll
      rwa [List.append_assoc] at hrest
    | Schedule time group task => exact ih h
    | CancelGroup group => exact ih h
    | SetValidator predicate => exact ih h

theorem Pending.start (queue : List Callable) : Pending (queue.map .submitted) queue := by
  induction queue using List.reverseRecOn with
  | nil => exact .nil
  | append_singleton queue callable ih =>
    rw [List.map_append, List.map_singleton]
    exact ih.submitted callable

/-- What is left of the callables of a log, if each of them is invoked in turn. -/
def replay : List Callable → Event Callable → List Callable
  | pending, .submitted callable => pending ++ [callable]
  | _, .cancelledAll => []
  | pending, .invoked _ => pending.tail

theorem Pending.eq_replay (h : Pending log pending) : log.foldl replay [] = pending := by
  induction h with
  | nil => rfl
  | submitted h callable ih => rw [List.foldl_append, ih]; rfl
  | cancelledAll h ih => rw [List.foldl_append]; rfl
  | invoked h ih => rw [List.foldl_append, ih]; rfl

/-! ## A turn -/

namespace Dispatching

theorem turn_eq {callable : Callable} {rest : List Callable}
    (hqueue : d.scheduler._asyncHolder = callable :: rest) (hvalid : d.scheduler._predicate d.world = true) :
    d.turn invoke = ((invoke callable d.world).2.foldl perform d.scheduler).popAsync.map fun scheduler ↦
      ⟨scheduler, (invoke callable d.world).1,
        d.log ++ .invoked callable :: (invoke callable d.world).2.filterMap Operation.event⟩ := by
  simp [turn, hqueue, hvalid]

theorem goesOn_of_turn {d' : Dispatching Callable Handler World} (h : d.turn invoke = some d') : d.GoesOn := by
  rw [turn] at h
  split at h
  · cases h
  · rename_i callable rest hqueue
    split at h
    · rename_i hvalid
      exact ⟨hqueue ▸ List.cons_ne_nil _ _, hvalid⟩
    · cases h

/-- **A turn is right** if nothing is cancelled, and only then: what is popped is the callable that has run. -/
theorem right_turn_iff (hgoes : d.GoesOn) (hpending : Pending d.log d.scheduler._asyncHolder) :
    (∃ d', d.turn invoke = some d' ∧ Pending d'.log d'.scheduler._asyncHolder) ↔ d.KeepsQueue invoke := by
  obtain ⟨hne, hvalid⟩ := hgoes
  obtain ⟨callable, rest, hqueue⟩ := List.exists_cons_of_ne_nil hne
  rw [hqueue] at hpending
  have hlog := hpending.invoked.operations (invoke callable d.world).2
  rw [List.append_assoc, List.singleton_append] at hlog
  have hholder := asyncHolder_foldl (invoke callable d.world).2 (s := d.scheduler)
  rw [hqueue] at hholder
  have hcons := foldl_queueAfter_cons callable (invoke callable d.world).2 rest
  have hkeeps : d.KeepsQueue invoke ↔ .CancelAll ∉ (invoke callable d.world).2 := by
    refine ⟨fun h ↦ h ⟨hne, hvalid⟩ callable (by rw [hqueue]; rfl), fun h _ c hc ↦ ?_⟩
    rw [hqueue] at hc
    exact Option.some.inj hc ▸ h
  rw [hkeeps, turn_eq hqueue hvalid]
  constructor
  · rintro ⟨d', hturn, hpending'⟩ hcancel
    rw [hcons.2 hcancel] at hholder
    obtain ⟨s', hpop, rfl⟩ := Option.map_eq_some_iff.mp hturn
    -- the queue is what is pending already, and something is popped from it
    have hsame : s'._asyncHolder = (invoke callable d.world).2.foldl queueAfter rest :=
      hpending'.eq_replay.symm.trans hlog.eq_replay
    rw [popAsync, hholder] at hpop
    cases hleft : (invoke callable d.world).2.foldl queueAfter rest with
    | nil =>
      simp [hleft] at hpop
    | cons c queue =>
      rw [hleft] at hpop hsame
      obtain rfl := Option.some.inj hpop
      exact List.cons_ne_self c queue hsame.symm
  · intro hcancel
    rw [hcons.1 hcancel] at hholder
    rw [popAsync, hholder]
    exact ⟨_, rfl, hlog⟩

end Dispatching

/-- **Callables may modify the scheduler, but not cancel everything.**  In the loop of `Dispatch` the queue is never
popped when it is empty, every callable that is invoked was the first that was submitted and neither cancelled nor
invoked, and all such callables are in the queue, if and only if none of the callables that are invoked cancels
everything. -/
theorem asyncs_right_iff (invoke : Callable → World → World × List (Operation Callable Handler World))
    (s : TaskScheduler Callable Handler World) (world : World) :
    (∀ d, (asyncLoop invoke s world).Reachable d → d.Right invoke) ↔
      ∀ d, (asyncLoop invoke s world).Reachable d → d.KeepsQueue invoke := by
  constructor
  · intro h d hd hgoes
    obtain ⟨d', hturn⟩ := Option.isSome_iff_exists.mp ((h d hd).pops hgoes)
    have hd' : (asyncLoop invoke s world).Reachable d' := Machine.Reaches.step (a := ()) hd trivial hturn
    exact (Dispatching.right_turn_iff hgoes (h d hd).pending).mp ⟨d', hturn, (h d' hd').pending⟩ hgoes
  · intro h d hd
    have hpending : Pending d.log d.scheduler._asyncHolder := by
      induction hd with
      | start => exact Pending.start s._asyncHolder
      | @step d d' a hd _ hturn ih =>
        have hgoes : d.GoesOn := Dispatching.goesOn_of_turn hturn
        obtain ⟨d'', hturn', hpending⟩ := (Dispatching.right_turn_iff hgoes ih).mpr (h d hd)
        rw [Option.some.inj (hturn.symm.trans hturn')]
        exact hpending
    refine ⟨fun hgoes ↦ ?_, hpending⟩
    obtain ⟨d', hturn, -⟩ := (Dispatching.right_turn_iff hgoes hpending).mpr (h d hd)
    rw [hturn]
    rfl

/-! ## Callables that cancel everything -/

/-- The callable `false` cancels everything; `true` does so, too, and then submits `false`. -/
def cancelling (callable : Bool) (world : Unit) : Unit × List (Operation Bool Unit Unit) :=
  (world, if callable then [.CancelAll, .Async false] else [.CancelAll])

/-- A scheduler with one callable. -/
def oneCallable (callable : Bool) : TaskScheduler Bool Unit Unit := ⟨0, [], [callable], fun _ ↦ true⟩

/-- After `false` has run, the empty queue is popped.  After `true` has run, what it has submitted is popped: the
queue is empty, though that callable is pending. -/
theorem not_right_cancelling :
    (∃ d, (asyncLoop cancelling (oneCallable false) ()).Reachable d ∧ d.GoesOn ∧ d.turn cancelling = none) ∧
      ∃ d, (asyncLoop cancelling (oneCallable true) ()).Reachable d ∧ Pending d.log [false] ∧
        d.scheduler._asyncHolder = [] := by
  refine ⟨⟨_, .start, ⟨List.cons_ne_nil _ _, rfl⟩, rfl⟩, _, .step (a := ()) .start trivial rfl, ?_, rfl⟩
  have hstart : Pending [.submitted true] [true] := Pending.start [true]
  exact (hstart.invoked.cancelledAll).submitted false

end TaskScheduler

end Gundrak
