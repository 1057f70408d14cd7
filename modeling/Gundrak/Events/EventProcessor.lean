import Gundrak.Util.Machine
import Gundrak.Util.Multimap

/-!
# The events of an object

An `EventProcessor` owns the events that are in its queue.  `Update` takes the due ones out, executes them
and destroys them, unless they have put themselves back; it aborts the ones whose abortion was scheduled.
`KillAllEvents` aborts all events and destroys them, and a forced one empties the queue at its end.

The callbacks `Execute` and `Abort` may add events, so a call is a sequence of small steps here: the loop
runs up to the next callback (`Call.loop`), the callback adds what it adds, and it returns.

The objects are numbered in the order in which they were made.  `log` is what has been done with them, the
last thing first.
-/

namespace Gundrak

/-- `BasicEvent::AbortState`. -/
inductive AbortState
  | STATE_RUNNING
  | STATE_ABORT_SCHEDULED
  | STATE_ABORTED
  deriving DecidableEq

/-- `BasicEvent`. -/
structure BasicEvent where
  m_abortState : AbortState
  m_addTime : ℕ
  m_execTime : ℕ

/-- `BasicEvent()`. -/
def BasicEvent.new : BasicEvent := ⟨.STATE_RUNNING, 0, 0⟩

namespace EventProcessor

/-- What is done with an event: it is put into the queue, it is executed at `now` though it was due at
`time`, with events in the queue that are due at the times of `pending`, it is aborted or destroyed. -/
inductive Action
  | add (event : ℕ)
  | execute (event : ℕ) (time now : ℤ) (pending : List ℤ)
  | abort (event : ℕ)
  | destroy (event : ℕ)
  deriving DecidableEq

/-- Where a processor is: in the loop of `Update` or in a callback of it, in the loop of `KillAllEvents` or in
`Abort`, and `final` if the destructor called it. -/
inductive Activity
  | idle
  | updating
  | executing (event : ℕ) (readded : Bool)
  | aborting (event : ℕ)
  | killing (force final : Bool) (itr : ℕ)
  | killAborting (force final : Bool) (itr : ℕ)
  | destroyed
  deriving DecidableEq

end EventProcessor

open EventProcessor (Action) in
/-- `EventProcessor`, with the events that there have ever been. -/
structure EventProcessor where
  m_time : ℕ
  m_events : List (ℤ × ℕ)
  objects : List BasicEvent
  activity : EventProcessor.Activity
  log : List Action

namespace EventProcessor

variable (s : EventProcessor)

/-- `EventProcessor::CalculateTime`, of type `uint64`. -/
def CalculateTime (t_offset : ℕ) : ℕ := (s.m_time + t_offset) % 2 ^ 64

def abortState (event : ℕ) : AbortState := (s.objects.getD event .new).m_abortState

def setAbortState (event : ℕ) (state : AbortState) : EventProcessor :=
  { s with objects := s.objects.modify event fun object ↦ { object with m_abortState := state } }

/-- `delete event`. -/
def destroy (event : ℕ) : EventProcessor := { s with log := .destroy event :: s.log }

/-- `EventProcessor::AddEvent`. -/
def AddEvent (event e_time : ℕ) (set_addtime : Bool) : EventProcessor :=
  { s with
    objects := s.objects.modify event fun object ↦
      { object with
        m_addTime := if set_addtime then s.m_time else object.m_addTime
        m_execTime := e_time }
    m_events := Multimap.insert e_time event s.m_events
    log := .add event :: s.log }

/-- `AddEvent` of an event that has just been made. -/
def addNew (e_time : ℕ) (set_addtime : Bool) : EventProcessor :=
  ({ s with objects := s.objects ++ [.new] } : EventProcessor).AddEvent s.objects.length e_time
    set_addtime

/-- `EventProcessor::ModifyEventTime`. -/
def ModifyEventTime (event newTime : ℕ) : EventProcessor :=
  if s.m_events.any (·.2 == event) then
    { s with
      objects := s.objects.modify event fun object ↦ { object with m_execTime := newTime }
      m_events := Multimap.insert newTime event (s.m_events.eraseP (·.2 == event)) }
  else s

/-! ## The loops -/

/-- An event that is over is destroyed, or checked again at the next tick. -/
def release (event : ℕ) (IsDeletable : Bool) : EventProcessor :=
  if IsDeletable then s.destroy event else s.AddEvent event (s.CalculateTime 1) false

/-- What `Update` does with an event that it has taken from the queue, up to a callback. -/
def takeEvent (event : ℕ) (time : ℤ) (IsDeletable : Bool) : EventProcessor :=
  match s.abortState event with
  | .STATE_RUNNING =>
    { s with
      activity := .executing event false
      log := .execute event time s.m_time (s.m_events.map Prod.fst) :: s.log }
  | .STATE_ABORT_SCHEDULED => { s with activity := .aborting event, log := .abort event :: s.log }
  | .STATE_ABORTED => s.release event IsDeletable

/-- A turn of the loop of `EventProcessor::Update`, up to a callback. -/
def updateLoop (IsDeletable : Bool) : EventProcessor :=
  match s.m_events with
  | [] => { s with activity := .idle }
  | (time, event) :: rest =>
    if time ≤ s.m_time then
      ({ s with m_events := rest } : EventProcessor).takeEvent event time IsDeletable
    else { s with activity := .idle }

/-- What `KillAllEvents` does with an event behind `Abort`. -/
def killEvent (force final : Bool) (itr event : ℕ) (IsDeletable : Bool) : EventProcessor :=
  if force = false ∧ IsDeletable = false then { s with activity := .killing force final (itr + 1) }
  else if force then { s.destroy event with activity := .killing force final (itr + 1) }
  else
    { s.destroy event with
      m_events := s.m_events.eraseIdx itr
      activity := .killing force final itr }

/-- The end of `EventProcessor::KillAllEvents`. -/
def killEnd (force final : Bool) : EventProcessor :=
  { s with
    m_events := if force then [] else s.m_events
    activity := if final then .destroyed else .idle }

/-- A turn of the loop of `EventProcessor::KillAllEvents`, up to `Abort`. -/
def killLoop (force final : Bool) (itr : ℕ) (IsDeletable : Bool) : EventProcessor :=
  match s.m_events[itr]? with
  | none => s.killEnd force final
  | some (_, event) =>
    if s.abortState event = .STATE_ABORTED then s.killEvent force final itr event IsDeletable
    else
      { s.setAbortState event .STATE_ABORTED with
        activity := .killAborting force final itr
        log := .abort event :: s.log }

/-! ## Calls -/

/-- What is done with a processor.  `readd` is what an event does that puts itself back, `loop` goes on with
the loop that is running, and `executed` and `aborted` are the returns of the callbacks. -/
inductive Call
  | AddEvent (e_time : ℕ) (set_addtime : Bool)
  | readd (e_time : ℕ) (set_addtime : Bool)
  | ScheduleAbort (event : ℕ)
  | ModifyEventTime (event newTime : ℕ)
  | Update (p_time : ℕ)
  | KillAllEvents (force : Bool)
  | destructor
  | loop (IsDeletable : Bool)
  | executed (result : Bool)
  | aborted (IsDeletable : Bool)

/-- `BasicEvent::ScheduleAbort`, which must not be called for an event that has been destroyed. -/
def ScheduleAbort (event : ℕ) : Option EventProcessor :=
  if event < s.objects.length ∧ .destroy event ∉ s.log ∧ s.abortState event = .STATE_RUNNING then
    some (s.setAbortState event .STATE_ABORT_SCHEDULED)
  else none

/-- A call from outside of the loops, where no callback runs. -/
def nextIdle : Call → Option EventProcessor
  | .AddEvent e_time set_addtime => some (s.addNew e_time set_addtime)
  | .ScheduleAbort event => s.ScheduleAbort event
  | .ModifyEventTime event newTime => some (s.ModifyEventTime event newTime)
  | .Update p_time => some { s with m_time := (s.m_time + p_time) % 2 ^ 64, activity := .updating }
  | .KillAllEvents force => some { s with activity := .killing force false 0 }
  | .destructor => some { s with activity := .killing true true 0 }
  | _ => none

/-- What `Execute` does, and its return: the event is destroyed unless the result is `false`. -/
def nextExecuting (event : ℕ) (readded : Bool) : Call → Option EventProcessor
  | .AddEvent e_time set_addtime => some (s.addNew e_time set_addtime)
  | .readd e_time set_addtime =>
    if readded then none
    else some { s.AddEvent event e_time set_addtime with activity := .executing event true }
  | .ScheduleAbort event => s.ScheduleAbort event
  | .ModifyEventTime event newTime => some (s.ModifyEventTime event newTime)
  | .executed result =>
    some { (if result then s.destroy event else s) with activity := .updating }
  | _ => none

/-- What `Abort` does in `Update`, and `SetAborted` behind it, which asserts that it is the first one. -/
def nextAborting (event : ℕ) : Call → Option EventProcessor
  | .AddEvent e_time set_addtime => some (s.addNew e_time set_addtime)
  | .ModifyEventTime event newTime => some (s.ModifyEventTime event newTime)
  | .aborted IsDeletable =>
    if s.abortState event = .STATE_ABORTED then none
    else
      some (({ s.setAbortState event .STATE_ABORTED with activity := .updating } : EventProcessor).release
        event IsDeletable)
  | _ => none

/-- What `Abort` does in `KillAllEvents`.  The iterator stays where it is. -/
def nextKillAborting (force final : Bool) (itr : ℕ) : Call → Option EventProcessor
  | .AddEvent e_time set_addtime =>
    some { s.addNew e_time set_addtime with
      activity := .killAborting force final (Multimap.stay e_time s.m_events itr) }
  | .aborted IsDeletable =>
    (s.m_events[itr]?).map fun entry ↦ s.killEvent force final itr entry.2 IsDeletable
  | _ => none

/-- What a call does. -/
def next (call : Call) : Option EventProcessor :=
  match s.activity, call with
  | .idle, call => s.nextIdle call
  | .updating, .loop IsDeletable => some (s.updateLoop IsDeletable)
  | .executing event readded, call => s.nextExecuting event readded call
  | .aborting event, call => s.nextAborting event call
  | .killing force final itr, .loop IsDeletable => some (s.killLoop force final itr IsDeletable)
  | .killAborting force final itr, call => s.nextKillAborting force final itr call
  | _, _ => none

/-- `EventProcessor()`. -/
def start : EventProcessor := ⟨0, [], [], .idle, []⟩

end EventProcessor

/-- A processor as a machine. -/
def eventProcessor : Machine EventProcessor EventProcessor.Call where
  start := EventProcessor.start
  next := EventProcessor.next

end Gundrak
