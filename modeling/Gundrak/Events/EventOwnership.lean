import Gundrak.Events.EventProcessor

/-!
# Every event is destroyed once

`Allowed` says when something may be done with an event: nothing is done with one that has been destroyed, an
event is aborted once at most and not executed after that, it is destroyed if it has been aborted or was last
taken from the queue to be executed, and it is executed when it is due and no event in the queue is due
earlier.

The proof keeps books.  At any time the events that the processor owns, which are those in the queue and the
one that a callback is running for, and those that have been destroyed make up all events that there have ever
been, each once (`Books`).  While a forced `KillAllEvents` runs, only what is at its iterator or behind counts
as owned: the rest is destroyed and stays in the container until `clear`.

So an event must not come in before the iterator of a forced `KillAllEvents`, where it is neither aborted nor
destroyed but cleared away.  `careful` asks for that, and for what the events are told, that `Execute` returns `false`
if it has put its event back.

**`owns_of_reaches`**: then every event is destroyed once by the end.
-/

namespace Gundrak

namespace EventProcessor

variable {s s' : EventProcessor} {event : ℕ} {log past : List Action} {q : List (ℤ × ℕ)}
  {objects : List BasicEvent} {owned owned' : List ℕ} {inAbort : Option ℕ}

/-! ## What may be done with an event -/

/-- When the event was last put into the queue or taken from it to be executed, it was the latter. -/
def wasExecuted (event : ℕ) : List Action → Bool
  | [] => false
  | .add other :: past => if other = event then false else wasExecuted event past
  | .execute other _ _ _ :: past => if other = event then true else wasExecuted event past
  | .abort _ :: past => wasExecuted event past
  | .destroy _ :: past => wasExecuted event past

/-- What may be done after `past`. -/
def Allowed (past : List Action) : Action → Prop
  | .add event => .destroy event ∉ past
  | .execute event time now pending =>
    .abort event ∉ past ∧ .destroy event ∉ past ∧ time ≤ now ∧ ∀ t ∈ pending, time ≤ t
  | .abort event => .abort event ∉ past ∧ .destroy event ∉ past
  | .destroy event => .destroy event ∉ past ∧ (.abort event ∈ past ∨ wasExecuted event past = true)

/-- All that has been done was allowed when it was done. -/
def AllAllowed (log : List Action) : Prop := ∀ a past, a :: past <:+ log → Allowed past a

theorem AllAllowed.cons (h : AllAllowed log) {a : Action} (ha : Allowed log a) : AllAllowed (a :: log) := by
  intro b past hsuffix
  rcases List.suffix_cons_iff.mp hsuffix with heq | hsuffix
  · obtain ⟨rfl, rfl⟩ := List.cons.inj heq
    exact ha
  · exact h b past hsuffix

/-- The events that have been destroyed. -/
def destroyedEvents (log : List Action) : List ℕ := log.filterMap fun a ↦ match a with
    | .destroy event => some event
    | _ => none

theorem mem_destroyedEvents : event ∈ destroyedEvents log ↔ .destroy event ∈ log := by
  rw [destroyedEvents, List.mem_filterMap]
  constructor
  · rintro ⟨a, ha, heq⟩
    cases a with
    | destroy other =>
      obtain rfl := Option.some.inj heq
      exact ha
    | _ => cases heq
  · exact fun h ↦ ⟨_, h, rfl⟩

theorem count_destroyedEvents (event : ℕ) (log : List Action) :
    (destroyedEvents log).count event = log.count (.destroy event) := by
  induction log with
  | nil => rfl
  | cons a log ih =>
    cases a with
    | destroy other =>
      have hcons : destroyedEvents (.destroy other :: log) = other :: destroyedEvents log := rfl
      simp [hcons, List.count_cons, ih]
    | _ =>
      rw [List.count_cons_of_ne (by simp), ← ih]
      rfl

/-! ## The objects -/

def stateIn (objects : List BasicEvent) (event : ℕ) : AbortState := (objects.getD event .new).m_abortState

theorem stateIn_modify {f : BasicEvent → BasicEvent} (hf : ∀ o, (f o).m_abortState = o.m_abortState)
    (objects : List BasicEvent) (event other : ℕ) :
    stateIn (objects.modify event f) other = stateIn objects other := by
  rw [stateIn, stateIn, List.getD_eq_getElem?_getD, List.getD_eq_getElem?_getD, List.getElem?_modify]
  cases objects[other]? with
  | none => rfl
  | some o =>
    by_cases heq : event = other
    · exact (congrArg BasicEvent.m_abortState (if_pos heq)).trans (hf o)
    · exact congrArg BasicEvent.m_abortState (if_neg heq)

theorem stateIn_set {state : AbortState} (hlt : event < objects.length) (other : ℕ) :
    stateIn (objects.modify event fun o ↦ { o with m_abortState := state }) other =
      if event = other then state else stateIn objects other := by
  rw [stateIn, stateIn, List.getD_eq_getElem?_getD, List.getD_eq_getElem?_getD, List.getElem?_modify]
  by_cases heq : event = other
  · subst heq
    rw [if_pos rfl, List.getElem?_eq_getElem hlt]
    exact congrArg BasicEvent.m_abortState (if_pos rfl)
  · rw [if_neg heq]
    cases objects[other]? with
    | none => rfl
    | some o => exact congrArg BasicEvent.m_abortState (if_neg heq)

theorem stateIn_append_new (objects : List BasicEvent) (event : ℕ) :
    stateIn (objects ++ [.new]) event = stateIn objects event := by
  rw [stateIn, stateIn, List.getD_eq_getElem?_getD, List.getD_eq_getElem?_getD]
  rcases Nat.lt_trichotomy event objects.length with hlt | rfl | hgt
  · rw [List.getElem?_append_left hlt]
  · simp
  · rw [List.getElem?_eq_none (Nat.le_of_lt hgt), List.getElem?_eq_none]
    rw [List.length_append, List.length_singleton]
    omega

/-! ## The books -/

/-- The events that are owned and those that have been destroyed are all there are, each once, and the log is
in order.  `inAbort` is the event that `Update` has called `Abort` for and not yet marked as aborted. -/
structure Books (owned : List ℕ) (inAbort : Option ℕ) (objects : List BasicEvent) (log : List Action) :
    Prop where
  perm : (owned ++ destroyedEvents log).Perm (List.range objects.length)
  aborted : ∀ event, .abort event ∈ log ↔ stateIn objects event = .STATE_ABORTED ∨ inAbort = some event
  allowed : AllAllowed log

namespace Books

section

variable (h : Books owned inAbort objects log)
include h

theorem owned_perm (hp : owned'.Perm owned) : Books owned' inAbort objects log :=
  ⟨(hp.append_right _).trans h.perm, h.aborted, h.allowed⟩

theorem nodup : (owned ++ destroyedEvents log).Nodup := h.perm.nodup_iff.mpr List.nodup_range

theorem lt_length (hmem : event ∈ owned) : event < objects.length :=
  List.mem_range.mp (h.perm.mem_iff.mp (List.mem_append_left _ hmem))

theorem not_destroyed (hmem : event ∈ owned) : .destroy event ∉ log := fun hd ↦
  (List.nodup_append.mp h.nodup).2.2 event hmem event (mem_destroyedEvents.mpr hd) rfl

end

theorem not_aborted (h : Books owned none objects log)
    (hstate : stateIn objects event ≠ .STATE_ABORTED) : .abort event ∉ log := fun ha ↦
  hstate (((h.aborted event).mp ha).resolve_right (by simp))

section

variable (h : Books owned inAbort objects log)
include h

/-- An event that is put into the queue, and owned before and after that. -/
theorem addEvent (hmem : event ∈ owned) {f : BasicEvent → BasicEvent} (hf : ∀ o, (f o).m_abortState = o.m_abortState) :
    Books owned inAbort (objects.modify event f) (.add event :: log) where
  perm := by
    rw [List.length_modify]
    exact h.perm
  aborted := fun other ↦ by
    rw [stateIn_modify hf, ← h.aborted other]
    exact ⟨fun ha ↦ (List.mem_cons.mp ha).resolve_left (by simp), List.mem_cons_of_mem _⟩
  allowed := h.allowed.cons (h.not_destroyed hmem)

theorem new : Books (objects.length :: owned) inAbort (objects ++ [.new]) log where
  perm := by
    rw [List.length_append, List.length_singleton, List.range_succ]
    exact (h.perm.cons _).trans (List.perm_append_singleton _ _).symm
  aborted := fun other ↦ by
    rw [stateIn_append_new]
    exact h.aborted other
  allowed := h.allowed

theorem modifyTime (event newTime : ℕ) :
    Books owned inAbort (objects.modify event fun o ↦ { o with m_execTime := newTime }) log where
  perm := by
    simpa using h.perm
  aborted := fun other ↦ by
    rw [stateIn_modify (f := fun o ↦ { o with m_execTime := newTime }) fun _ ↦ rfl]
    exact h.aborted other
  allowed := h.allowed

theorem scheduleAbort (hlt : event < objects.length) (hrun : stateIn objects event = .STATE_RUNNING) :
    Books owned inAbort (objects.modify event fun o ↦ { o with m_abortState := .STATE_ABORT_SCHEDULED }) log where
  perm := by
    simpa using h.perm
  aborted := fun other ↦ by
    rw [stateIn_set hlt, h.aborted other]
    by_cases heq : event = other
    · subst heq
      simp [hrun]
    · rw [if_neg heq]
  allowed := h.allowed

end

theorem destroy (h : Books (event :: owned) inAbort objects log)
    (hover : .abort event ∈ log ∨ wasExecuted event log = true) :
    Books owned inAbort objects (.destroy event :: log) where
  perm := by
    have hcons : destroyedEvents (.destroy event :: log) = event :: destroyedEvents log := rfl
    rw [hcons]
    exact List.perm_middle.trans h.perm
  aborted := fun other ↦ by
    rw [← h.aborted other]
    exact ⟨fun ha ↦ (List.mem_cons.mp ha).resolve_left (by simp), List.mem_cons_of_mem _⟩
  allowed := h.allowed.cons ⟨h.not_destroyed List.mem_cons_self, hover⟩

theorem execute (h : Books (event :: owned) none objects log)
    (hrun : stateIn objects event = .STATE_RUNNING) {time now : ℤ} {pending : List ℤ}
    (hdue : time ≤ now) (hpending : ∀ t ∈ pending, time ≤ t) :
    Books (event :: owned) none objects (.execute event time now pending :: log) where
  perm := h.perm
  aborted := fun other ↦ by
    rw [← h.aborted other]
    exact ⟨fun ha ↦ (List.mem_cons.mp ha).resolve_left (by simp), List.mem_cons_of_mem _⟩
  allowed := h.allowed.cons ⟨h.not_aborted (by rw [hrun]; exact AbortState.noConfusion),
    h.not_destroyed List.mem_cons_self, hdue, hpending⟩

theorem abort (h : Books (event :: owned) none objects log) (hstate : stateIn objects event ≠ .STATE_ABORTED) :
    Books (event :: owned) (some event) objects (.abort event :: log) where
  perm := h.perm
  aborted := fun other ↦ by
    rw [List.mem_cons, h.aborted other, Action.abort.injEq, Option.some_inj]
    exact ⟨fun ha ↦ ha.elim (fun heq ↦ .inr heq.symm) fun ha ↦ .inl (ha.resolve_right (by simp)),
      fun ha ↦ ha.elim (fun hstate ↦ .inr (.inl hstate)) fun heq ↦ .inl heq.symm⟩
  allowed := h.allowed.cons ⟨h.not_aborted hstate, h.not_destroyed List.mem_cons_self⟩

theorem setAborted (h : Books (event :: owned) (some event) objects log) : Books (event :: owned) none
      (objects.modify event fun o ↦ { o with m_abortState := .STATE_ABORTED }) log where
  perm := by
    simpa using h.perm
  aborted := fun other ↦ by
    rw [stateIn_set (h.lt_length List.mem_cons_self), h.aborted other, Option.some_inj]
    by_cases heq : event = other <;> simp [heq]
  allowed := h.allowed

/-- `KillAllEvents` marks an event as aborted and calls `Abort`. -/
theorem kill (h : Books owned none objects log) (hmem : event ∈ owned)
    (hstate : stateIn objects event ≠ .STATE_ABORTED) :
    Books owned none (objects.modify event fun o ↦ { o with m_abortState := .STATE_ABORTED })
      (.abort event :: log) where
  perm := by
    rw [List.length_modify]
    exact h.perm
  aborted := fun other ↦ by
    rw [stateIn_set (h.lt_length hmem), List.mem_cons, h.aborted other, Action.abort.injEq]
    by_cases heq : event = other
    · simp [heq]
    · simp [heq, Ne.symm heq]
  allowed := h.allowed.cons ⟨h.not_aborted hstate, h.not_destroyed hmem⟩

end Books

/-! ## A processor and its books -/

/-- The events of a queue. -/
def eventsOf (q : List (ℤ × ℕ)) : List ℕ := q.map Prod.snd

/-- What the processor owns where it is, and what holds of a callback that is running. -/
def BooksAt (q : List (ℤ × ℕ)) (objects : List BasicEvent) (log : List Action) : Activity → Prop
  | .idle | .updating | .executing _ true => Books (eventsOf q) none objects log
  | .executing event false =>
    Books (event :: eventsOf q) none objects log ∧ wasExecuted event log = true
  | .aborting event =>
    Books (event :: eventsOf q) (some event) objects log ∧ stateIn objects event ≠ .STATE_ABORTED
  | .killing false final _ => final = false ∧ Books (eventsOf q) none objects log
  | .killing true _ itr => Books (eventsOf (q.drop itr)) none objects log
  | .killAborting false final itr => final = false ∧ Books (eventsOf q) none objects log ∧
      ∃ entry, q[itr]? = some entry ∧ .abort entry.2 ∈ log
  | .killAborting true _ itr => Books (eventsOf (q.drop itr)) none objects log ∧
      ∃ entry, q[itr]? = some entry ∧ .abort entry.2 ∈ log
  | .destroyed => Books [] none objects log

/-- The queue is in order, and so are the books. -/
structure Sound (s : EventProcessor) : Prop where
  sorted : Multimap.Sorted s.m_events
  books : BooksAt s.m_events s.objects s.log s.activity

theorem eventsOf_insert (e_time : ℤ) (event : ℕ) (q : List (ℤ × ℕ)) :
    (eventsOf (Multimap.insert e_time event q)).Perm (event :: eventsOf q) :=
  (Multimap.insert_perm e_time event q).map Prod.snd

theorem Books.insert (h : Books (event :: owned) inAbort objects log) {f : BasicEvent → BasicEvent}
    (hf : ∀ o, (f o).m_abortState = o.m_abortState) (hp : owned'.Perm (event :: owned)) :
    Books owned' inAbort (objects.modify event f) (.add event :: log) :=
  (h.addEvent List.mem_cons_self hf).owned_perm hp

/-- What `AddEvent` does with an object. -/
def withTimes (s : EventProcessor) (e_time : ℕ) (set_addtime : Bool) (object : BasicEvent) : BasicEvent :=
  { object with
    m_addTime := if set_addtime then s.m_time else object.m_addTime
    m_execTime := e_time }

theorem Books.addNew (h : Books owned inAbort objects log) (s : EventProcessor) (e_time : ℕ)
    (set_addtime : Bool) (hp : owned'.Perm (objects.length :: owned)) :
    Books owned' inAbort ((objects ++ [BasicEvent.new]).modify objects.length
      (withTimes s e_time set_addtime)) (.add objects.length :: log) :=
  h.new.insert (fun _ ↦ rfl) hp

theorem wasExecuted_addNew (h : Books (event :: owned) inAbort objects log) (hexec : wasExecuted event log = true) :
    wasExecuted event (.add objects.length :: log) = true := by
  have hlt := h.lt_length List.mem_cons_self
  rw [wasExecuted, if_neg (Nat.ne_of_gt hlt)]
  exact hexec

theorem Sound.addNew (h : Sound s) (hact : s.activity = .idle ∨
    (∃ event readded, s.activity = .executing event readded) ∨ ∃ event, s.activity = .aborting event)
    (e_time : ℕ) (set_addtime : Bool) : Sound (s.addNew e_time set_addtime) := by
  have hp := eventsOf_insert e_time s.objects.length s.m_events
  have hbooks := h.books
  refine ⟨h.sorted.insert, ?_⟩
  have hkept : (s.addNew e_time set_addtime).activity = s.activity := rfl
  rw [hkept]
  rcases hact with hidle | ⟨event, readded, hexec⟩ | ⟨event, habort⟩
  · rw [hidle] at hbooks ⊢
    exact hbooks.addNew s e_time set_addtime hp
  · rw [hexec] at hbooks ⊢
    cases readded with
    | true => exact hbooks.addNew s e_time set_addtime hp
    | false =>
      exact ⟨hbooks.1.addNew s e_time set_addtime ((hp.cons event).trans (.swap _ _ _)),
        wasExecuted_addNew hbooks.1 hbooks.2⟩
  · rw [habort] at hbooks ⊢
    refine ⟨hbooks.1.addNew s e_time set_addtime ((hp.cons event).trans (.swap _ _ _)), ?_⟩
    have hstate : stateIn (s.addNew e_time set_addtime).objects event = stateIn s.objects event :=
      (stateIn_modify (f := withTimes s e_time set_addtime) (fun _ ↦ rfl) _ _ _).trans
        (stateIn_append_new _ _)
    rw [hstate]
    exact hbooks.2

/-- `AddEvent` from `Abort` in `KillAllEvents`, which must not come in before the iterator if it is a forced
one. -/
theorem Sound.addNew_killAborting (h : Sound s) {force final : Bool} {itr : ℕ}
    (hact : s.activity = .killAborting force final itr) {e_time : ℕ}
    (hle : force = true → ∀ entry, s.m_events[itr]? = some entry → entry.1 ≤ e_time)
    (set_addtime : Bool) :
    Sound { s.addNew e_time set_addtime with
      activity := .killAborting force final (Multimap.stay e_time s.m_events itr) } := by
  have hp := eventsOf_insert e_time s.objects.length s.m_events
  have hbooks := h.books
  rw [hact] at hbooks
  have hstays : ∀ entry, s.m_events[itr]? = some entry →
      (Multimap.insert (e_time : ℤ) s.objects.length s.m_events)[Multimap.stay e_time s.m_events itr]? =
        some entry := fun entry hentry ↦
    (Multimap.getElem?_insert_stay (List.getElem?_eq_some_iff.mp hentry).1).trans hentry
  refine ⟨h.sorted.insert, ?_⟩
  cases force with
  | false =>
    obtain ⟨hfinal, hbooks, entry, hentry, habort⟩ := hbooks
    exact ⟨hfinal, hbooks.addNew s e_time set_addtime hp, entry, hstays entry hentry, List.mem_cons_of_mem _ habort⟩
  | true =>
    obtain ⟨hbooks, entry, hentry, habort⟩ := hbooks
    obtain ⟨hstay, hdrop⟩ := Multimap.drop_insert (a := s.objects.length) h.sorted hentry
      (hle rfl entry hentry)
    have hp' : (eventsOf ((Multimap.insert (e_time : ℤ) s.objects.length s.m_events).drop
        (Multimap.stay e_time s.m_events itr))).Perm
        (s.objects.length :: eventsOf (s.m_events.drop itr)) := by
      rw [hstay, hdrop]
      exact eventsOf_insert _ _ _
    exact ⟨hbooks.addNew s e_time set_addtime hp', entry, hstays entry hentry, List.mem_cons_of_mem _ habort⟩

theorem Sound.readd (h : Sound s) (hact : s.activity = .executing event false) (e_time : ℕ) (set_addtime : Bool) :
    Sound { s.AddEvent event e_time set_addtime with activity := .executing event true } := by
  have hbooks := h.books
  rw [hact] at hbooks
  exact ⟨h.sorted.insert, hbooks.1.insert (fun _ ↦ rfl) (eventsOf_insert e_time event s.m_events)⟩

theorem Sound.scheduleAbort (h : Sound s) (hact : s.activity = .idle ∨
    ∃ event readded, s.activity = .executing event readded)
    (hs : s.ScheduleAbort event = some s') : Sound s' := by
  obtain ⟨⟨hlt, -, hrun⟩, rfl⟩ := Option.ite_none_right_eq_some.mp hs |>.imp_right Option.some.inj
  have hbooks := h.books
  refine ⟨h.sorted, ?_⟩
  have hkept : (s.setAbortState event .STATE_ABORT_SCHEDULED).activity = s.activity := rfl
  rw [hkept]
  rcases hact with hidle | ⟨other, readded, hexec⟩
  · rw [hidle] at hbooks ⊢
    exact hbooks.scheduleAbort hlt hrun
  · rw [hexec] at hbooks ⊢
    cases readded with
    | true => exact hbooks.scheduleAbort hlt hrun
    | false => exact ⟨hbooks.1.scheduleAbort hlt hrun, hbooks.2⟩

theorem Sound.modifyEventTime (h : Sound s) (hact : s.activity = .idle ∨
    (∃ event readded, s.activity = .executing event readded) ∨ ∃ event, s.activity = .aborting event)
    (event newTime : ℕ) : Sound (s.ModifyEventTime event newTime) := by
  rw [ModifyEventTime]
  by_cases hany : s.m_events.any (·.2 == event) = true
  swap
  · rw [if_neg hany]
    exact h
  rw [if_pos hany]
  obtain ⟨x, hx, hxe⟩ := List.any_eq_true.mp hany
  have hevent : x.2 = event := beq_iff_eq.mp hxe
  have hp : (eventsOf (Multimap.insert newTime event (s.m_events.eraseP (·.2 == event)))).Perm
      (eventsOf s.m_events) := by
    obtain ⟨y, l₁, l₂, -, hy, hsplit, herase⟩ := List.exists_of_eraseP (p := fun x : ℤ × ℕ ↦ x.2 == event) hx hxe
    have hye : y.2 = event := beq_iff_eq.mp hy
    refine (eventsOf_insert _ _ _).trans ?_
    rw [herase, hsplit, eventsOf, eventsOf, List.map_append, List.map_append, List.map_cons, hye]
    exact List.perm_middle.symm
  have hbooks := h.books
  have hsorted : Multimap.Sorted (s.m_events.eraseP (·.2 == event)) := h.sorted.sublist List.eraseP_sublist
  refine ⟨hsorted.insert, ?_⟩
  rcases hact with hidle | ⟨other, readded, hexec⟩ | ⟨other, habort⟩
  · rw [hidle] at hbooks ⊢
    exact (hbooks.modifyTime event newTime).owned_perm hp
  · rw [hexec] at hbooks ⊢
    cases readded with
    | true => exact (hbooks.modifyTime event newTime).owned_perm hp
    | false => exact ⟨(hbooks.1.modifyTime event newTime).owned_perm (hp.cons other), hbooks.2⟩
  · rw [habort] at hbooks ⊢
    refine ⟨(hbooks.1.modifyTime event newTime).owned_perm (hp.cons other), ?_⟩
    rw [stateIn_modify (f := fun o ↦ { o with m_execTime := newTime }) fun _ ↦ rfl]
    exact hbooks.2

/-! ## The loop of `Update` -/

theorem Sound.release (hsorted : Multimap.Sorted s.m_events) (hact : s.activity = .updating)
    (hbooks : Books (event :: eventsOf s.m_events) none s.objects s.log)
    (habort : .abort event ∈ s.log) (IsDeletable : Bool) : Sound (s.release event IsDeletable) := by
  rw [EventProcessor.release]
  cases IsDeletable with
  | true =>
    refine ⟨hsorted, ?_⟩
    rw [if_pos rfl, show (s.destroy event).activity = .updating from hact]
    exact hbooks.destroy (.inl habort)
  | false =>
    rw [if_neg Bool.false_ne_true]
    refine ⟨hsorted.insert, ?_⟩
    rw [show (s.AddEvent event (s.CalculateTime 1) false).activity = .updating from hact]
    exact hbooks.insert (fun _ ↦ rfl) (eventsOf_insert _ event s.m_events)

theorem Sound.updateLoop (h : Sound s) (hact : s.activity = .updating) (IsDeletable : Bool) :
    Sound (s.updateLoop IsDeletable) := by
  have hbooks := h.books
  have hsorted := h.sorted
  rw [hact] at hbooks
  rw [EventProcessor.updateLoop]
  cases hq : s.m_events with
  | nil =>
    rw [hq] at hbooks
    exact ⟨List.Pairwise.nil, hbooks⟩
  | cons entry rest =>
    obtain ⟨time, event⟩ := entry
    rw [hq] at hsorted hbooks
    have hsplit := List.pairwise_cons.mp hsorted
    dsimp only
    by_cases hdue : time ≤ s.m_time
    swap
    · rw [if_neg hdue]
      exact ⟨hq ▸ hsorted, hq ▸ hbooks⟩
    rw [if_pos hdue, takeEvent]
    have hkept : ({ s with m_events := rest } : EventProcessor).abortState event = stateIn s.objects event := rfl
    rw [hkept]
    cases hstate : stateIn s.objects event with
    | STATE_RUNNING =>
      refine ⟨hsplit.2, hbooks.execute hstate hdue fun t ht ↦ ?_, ?_⟩
      · obtain ⟨x, hx, rfl⟩ := List.mem_map.mp ht
        exact hsplit.1 x hx
      · simp [wasExecuted]
    | STATE_ABORT_SCHEDULED =>
      have hne : stateIn s.objects event ≠ .STATE_ABORTED := by
        simp [hstate]
      exact ⟨hsplit.2, hbooks.abort hne, hne⟩
    | STATE_ABORTED =>
      exact Sound.release (s := { s with m_events := rest }) hsplit.2 hact hbooks
        ((hbooks.aborted event).mpr (.inl hstate)) IsDeletable

theorem Sound.executed (h : Sound s) {readded : Bool} (hact : s.activity = .executing event readded)
    {result : Bool} (hresult : result = !readded) :
    Sound { (if result then s.destroy event else s) with activity := .updating } := by
  have hbooks := h.books
  rw [hact] at hbooks
  subst hresult
  cases readded with
  | true => exact ⟨h.sorted, hbooks⟩
  | false => exact ⟨h.sorted, hbooks.1.destroy (.inr hbooks.2)⟩

theorem Sound.aborted (h : Sound s) (hact : s.activity = .aborting event) (IsDeletable : Bool) :
    s.abortState event ≠ .STATE_ABORTED ∧ Sound (({ s.setAbortState event .STATE_ABORTED with activity := .updating } :
        EventProcessor).release event IsDeletable) := by
  have hbooks := h.books
  rw [hact] at hbooks
  refine ⟨hbooks.2, ?_⟩
  have hover : .abort event ∈ s.log := (hbooks.1.aborted event).mpr (.inr rfl)
  exact Sound.release (s := { s.setAbortState event .STATE_ABORTED with activity := .updating }) h.sorted rfl
    hbooks.1.setAborted hover IsDeletable

/-! ## The loop of `KillAllEvents` -/

theorem eventsOf_drop {itr : ℕ} {entry : ℤ × ℕ} (hentry : q[itr]? = some entry) :
    eventsOf (q.drop itr) = entry.2 :: eventsOf (q.drop (itr + 1)) := by
  obtain ⟨hlt, rfl⟩ := List.getElem?_eq_some_iff.mp hentry
  rw [List.drop_eq_getElem_cons hlt]
  rfl

theorem eventsOf_eraseIdx {itr : ℕ} {entry : ℤ × ℕ} (hentry : q[itr]? = some entry) :
    (entry.2 :: eventsOf (q.eraseIdx itr)).Perm (eventsOf q) := by
  obtain ⟨hlt, rfl⟩ := List.getElem?_eq_some_iff.mp hentry
  exact (List.getElem_cons_eraseIdx_perm hlt).map Prod.snd

theorem books_of_killing {force final : Bool} {itr : ℕ} (h : BooksAt q objects log (.killing force final itr)) :
    Books (if force then eventsOf (q.drop itr) else eventsOf q) none objects log ∧ (force = false → final = false) := by
  cases force with
  | true => exact ⟨h, fun hforce ↦ absurd hforce Bool.true_eq_false_eq_False⟩
  | false => exact ⟨h.2, fun _ ↦ h.1⟩

theorem Sound.killEvent (hsorted : Multimap.Sorted s.m_events) {force final : Bool} {itr : ℕ}
    (hbooks : Books (if force then eventsOf (s.m_events.drop itr) else eventsOf s.m_events) none
      s.objects s.log) {entry : ℤ × ℕ} (hentry : s.m_events[itr]? = some entry)
    (habort : .abort entry.2 ∈ s.log) (hfinal : force = false → final = false) (IsDeletable : Bool) :
    Sound (s.killEvent force final itr entry.2 IsDeletable) := by
  rw [EventProcessor.killEvent]
  cases force with
  | true =>
    rw [if_neg (by simp), if_pos rfl]
    rw [if_pos rfl, eventsOf_drop hentry] at hbooks
    exact ⟨hsorted, hbooks.destroy (.inl habort)⟩
  | false =>
    rw [if_neg Bool.false_ne_true] at hbooks
    by_cases hskip : IsDeletable = false
    · rw [if_pos ⟨rfl, hskip⟩]
      exact ⟨hsorted, hfinal rfl, hbooks⟩
    · rw [if_neg fun h ↦ hskip h.2, if_neg Bool.false_ne_true]
      exact ⟨hsorted.sublist (List.eraseIdx_sublist _ _), hfinal rfl,
        (hbooks.owned_perm (eventsOf_eraseIdx hentry)).destroy (.inl habort)⟩

theorem Sound.killLoop (h : Sound s) {force final : Bool} {itr : ℕ}
    (hact : s.activity = .killing force final itr) (IsDeletable : Bool) :
    Sound (s.killLoop force final itr IsDeletable) := by
  have hbooks := h.books
  rw [hact] at hbooks
  obtain ⟨hbooks', hfinal⟩ := books_of_killing hbooks
  rw [EventProcessor.killLoop]
  cases hentry : s.m_events[itr]? with
  | none =>
    rw [killEnd]
    cases force with
    | true =>
      have hend : eventsOf (s.m_events.drop itr) = [] := by
        rw [List.drop_eq_nil_of_le (List.getElem?_eq_none_iff.mp hentry)]
        rfl
      rw [if_pos rfl, hend] at hbooks'
      cases final <;> exact ⟨List.Pairwise.nil, hbooks'⟩
    | false =>
      obtain rfl := hfinal rfl
      exact ⟨h.sorted, hbooks'⟩
  | some entry =>
    obtain ⟨time, event⟩ := entry
    dsimp only
    by_cases hstate : s.abortState event = .STATE_ABORTED
    · rw [if_pos hstate]
      exact Sound.killEvent h.sorted hbooks' hentry ((hbooks'.aborted event).mpr (.inl hstate))
        hfinal IsDeletable
    · rw [if_neg hstate]
      have hmem : event ∈ if force then eventsOf (s.m_events.drop itr) else eventsOf s.m_events := by
        cases force with
        | true =>
          simpa [eventsOf_drop hentry] using List.mem_cons_self
        | false =>
          exact List.mem_map_of_mem (List.mem_of_getElem? hentry)
      have hkill := hbooks'.kill hmem hstate
      refine ⟨h.sorted, ?_⟩
      cases force with
      | true => exact ⟨hkill, _, hentry, List.mem_cons_self⟩
      | false => exact ⟨hfinal rfl, hkill, _, hentry, List.mem_cons_self⟩

/-! ## Runs -/

/-- `Execute` returns `false` exactly if it has put its event back, and `Abort` adds nothing before the iterator of a
forced `KillAllEvents`. -/
def careful (s : EventProcessor) (call : Call) : Bool :=
  match s.activity, call with
  | .executing _ readded, .executed result => result == !readded
  | .killAborting true _ itr, .AddEvent e_time _ => (s.m_events[itr]?).all fun entry ↦ decide (entry.1 ≤ (e_time : ℤ))
  | _, _ => true

theorem sound_start : Sound start where
  sorted := List.Pairwise.nil
  books :=
    { perm := .refl _
      aborted := fun event ↦ by simp [start, stateIn, BasicEvent.new]
      allowed := fun a past h ↦ absurd (List.suffix_nil.mp h) (List.cons_ne_nil _ _) }

theorem Sound.nextIdle (h : Sound s) (hact : s.activity = .idle) {call : Call} (hn : s.nextIdle call = some s') :
    Sound s' := by
  have hbooks := h.books
  rw [hact] at hbooks
  cases call with
  | AddEvent e_time set_addtime =>
    cases hn
    exact h.addNew (.inl hact) e_time set_addtime
  | ScheduleAbort event => exact h.scheduleAbort (.inl hact) hn
  | ModifyEventTime event newTime =>
    cases hn
    exact h.modifyEventTime (.inl hact) event newTime
  | Update p_time =>
    cases hn
    exact ⟨h.sorted, hbooks⟩
  | KillAllEvents force =>
    cases hn
    cases force with
    | true => exact ⟨h.sorted, hbooks⟩
    | false => exact ⟨h.sorted, rfl, hbooks⟩
  | destructor =>
    cases hn
    exact ⟨h.sorted, hbooks⟩
  | _ => cases hn

theorem Sound.nextExecuting (h : Sound s) {event : ℕ} {readded : Bool} (hact : s.activity = .executing event readded)
    {call : Call} (hok : s.careful call = true) (hn : s.nextExecuting event readded call = some s') : Sound s' := by
  cases call with
  | AddEvent e_time set_addtime =>
    cases hn
    exact h.addNew (.inr (.inl ⟨event, readded, hact⟩)) e_time set_addtime
  | readd e_time set_addtime =>
    cases readded with
    | true => cases hn
    | false =>
      cases hn
      exact h.readd hact e_time set_addtime
  | ScheduleAbort other => exact h.scheduleAbort (.inr ⟨event, readded, hact⟩) hn
  | ModifyEventTime other newTime =>
    cases hn
    exact h.modifyEventTime (.inr (.inl ⟨event, readded, hact⟩)) other newTime
  | executed result =>
    cases hn
    unfold careful at hok
    rw [hact] at hok
    exact h.executed hact (beq_iff_eq.mp hok)
  | _ => cases hn

theorem Sound.nextAborting (h : Sound s) {event : ℕ} (hact : s.activity = .aborting event) {call : Call}
    (hn : s.nextAborting event call = some s') : Sound s' := by
  cases call with
  | AddEvent e_time set_addtime =>
    cases hn
    exact h.addNew (.inr (.inr ⟨event, hact⟩)) e_time set_addtime
  | ModifyEventTime other newTime =>
    cases hn
    exact h.modifyEventTime (.inr (.inr ⟨event, hact⟩)) other newTime
  | aborted IsDeletable =>
    obtain ⟨hstate, hsound⟩ := h.aborted hact IsDeletable
    rw [EventProcessor.nextAborting, if_neg hstate, Option.some_inj] at hn
    exact hn ▸ hsound
  | _ => cases hn

theorem Sound.nextKillAborting (h : Sound s) {force final : Bool} {itr : ℕ}
    (hact : s.activity = .killAborting force final itr) {call : Call} (hok : s.careful call = true)
    (hn : s.nextKillAborting force final itr call = some s') : Sound s' := by
  cases call with
  | AddEvent e_time set_addtime =>
    cases hn
    refine h.addNew_killAborting hact (fun hforce entry hentry ↦ ?_) set_addtime
    subst hforce
    unfold careful at hok
    rw [hact] at hok
    dsimp only at hok
    rw [hentry, Option.all_some, decide_eq_true_iff] at hok
    exact hok
  | aborted IsDeletable =>
    rw [EventProcessor.nextKillAborting, Option.map_eq_some_iff] at hn
    obtain ⟨entry, hentry, rfl⟩ := hn
    have hbooks := h.books
    rw [hact] at hbooks
    cases force with
    | true =>
      obtain ⟨hbooks, entry', hentry', habort⟩ := hbooks
      rw [hentry, Option.some_inj] at hentry'
      subst hentry'
      refine Sound.killEvent h.sorted ?_ hentry habort (fun hfalse ↦ (by cases hfalse)) IsDeletable
      exact hbooks
    | false =>
      obtain ⟨hfinal, hbooks, entry', hentry', habort⟩ := hbooks
      rw [hentry, Option.some_inj] at hentry'
      subst hentry'
      refine Sound.killEvent h.sorted ?_ hentry habort (fun _ ↦ hfinal) IsDeletable
      exact hbooks
  | _ => cases hn

theorem Sound.next (h : Sound s) {call : Call} (hok : s.careful call = true) (hn : s.next call = some s') :
    Sound s' := by
  unfold EventProcessor.next at hn
  cases hact : s.activity with
  | idle =>
    rw [hact] at hn
    exact h.nextIdle hact hn
  | updating =>
    rw [hact] at hn
    cases call with
    | loop IsDeletable =>
      cases hn
      exact h.updateLoop hact IsDeletable
    | _ => cases hn
  | executing event readded =>
    rw [hact] at hn
    exact h.nextExecuting hact hok hn
  | aborting event =>
    rw [hact] at hn
    exact h.nextAborting hact hn
  | killing force final itr =>
    rw [hact] at hn
    cases call with
    | loop IsDeletable =>
      cases hn
      exact h.killLoop hact IsDeletable
    | _ => cases hn
  | killAborting force final itr =>
    rw [hact] at hn
    exact h.nextKillAborting hact hok hn
  | destroyed =>
    simp [hact] at hn

/-! ## The result -/

/-- Everything that has been done with the events was allowed, and when the processor is destroyed, every event there
has ever been is destroyed once. -/
structure Owns (s : EventProcessor) : Prop where
  allowed : AllAllowed s.log
  once : s.activity = .destroyed → ∀ event < s.objects.length, s.log.count (.destroy event) = 1

theorem Sound.allowed (h : Sound s) : AllAllowed s.log := by
  have hbooks := h.books
  cases hact : s.activity with
  | idle =>
    rw [hact] at hbooks
    exact hbooks.allowed
  | updating =>
    rw [hact] at hbooks
    exact hbooks.allowed
  | executing event readded =>
    rw [hact] at hbooks
    cases readded with
    | true => exact hbooks.allowed
    | false => exact hbooks.1.allowed
  | aborting event =>
    rw [hact] at hbooks
    exact hbooks.1.allowed
  | killing force final itr =>
    rw [hact] at hbooks
    exact (books_of_killing hbooks).1.allowed
  | killAborting force final itr =>
    rw [hact] at hbooks
    cases force with
    | true => exact hbooks.1.allowed
    | false => exact hbooks.2.1.allowed
  | destroyed =>
    rw [hact] at hbooks
    exact hbooks.allowed

theorem Sound.once (h : Sound s) (hact : s.activity = .destroyed) {event : ℕ} (hlt : event < s.objects.length) :
    s.log.count (.destroy event) = 1 := by
  have hbooks := h.books
  rw [hact] at hbooks
  have hperm : (destroyedEvents s.log).Perm (List.range s.objects.length) := hbooks.perm
  rw [← count_destroyedEvents, hperm.count_eq]
  exact List.count_eq_one_of_mem List.nodup_range (List.mem_range.mpr hlt)

/-- **A processor that is used carefully destroys every event once.** -/
theorem owns_of_reaches (h : eventProcessor.Reaches (fun s call ↦ s.careful call = true) s) : Owns s := by
  have hsound : Sound s := h.invariant (P := Sound) sound_start fun _ _ _ hs hok hn ↦ hs.next hok hn
  exact ⟨hsound.allowed, fun hact _ hlt ↦ hsound.once hact hlt⟩

/-- An event is executed and put back, another one is aborted when the processor is destroyed and adds a third. -/
theorem owns_destroyed :
    ∃ s, eventProcessor.Reaches (fun s call ↦ s.careful call = true) s ∧ s.activity = .destroyed ∧
      s.objects.length = 3 ∧ Owns s := by
  obtain ⟨s, hs, hdestroyed, hlength⟩ := eventProcessor.exists_reaches (fun s call ↦ s.careful call = true)
    [.AddEvent 10 true, .AddEvent 20 true, .Update 15, .loop true, .readd 30 false, .executed false, .loop true,
      .destructor, .loop true, .AddEvent 20 false, .aborted true, .loop true, .aborted false, .loop true,
      .aborted true, .loop true] (fun s ↦ s.activity = .destroyed ∧ s.objects.length = 3) (by decide +kernel)
  exact ⟨s, hs, hdestroyed, hlength, owns_of_reaches hs⟩

/-- **An event that `Abort` adds for an earlier time, while the processor is destroyed, is never destroyed.** -/
theorem not_owns_addedBefore : ¬ ∀ s, eventProcessor.Reachable s → Owns s := by
  intro h
  obtain ⟨s, hs, hdestroyed, hlength, hcount⟩ := eventProcessor.exists_reachable
    [.AddEvent 10 true, .destructor, .loop true, .AddEvent 5 true, .aborted true, .loop true]
    (fun s ↦ s.activity = .destroyed ∧ 1 < s.objects.length ∧ s.log.count (.destroy 1) = 0) (by decide +kernel)
  have honce := (h s hs).once hdestroyed 1 hlength
  simp [hcount] at honce

end EventProcessor

end Gundrak
