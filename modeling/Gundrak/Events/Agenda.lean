import Gundrak.Util.Multimap

/-!
# What a timetable is for

An `Agenda` says in its own terms what an `EventMap` is meant to do.  Times are integers, an event has an id, a
group and a phase, where `0` stands for no group and no phase, and the active phases are a set.  Everything
that is put on the agenda is an entry with a serial number, so that the same event can be on it more than
once.  The agenda keeps what has become of the entries that are no longer pending.

`Agenda.Sound` is what holds of an agenda at any time: the pending entries are in the order of their due times,
every entry is pending or has met one fate, and every fate has its reason.
-/

namespace Gundrak.Events

/-! There are 8 groups and 8 phases beside `0`, and an id has 16 bits. -/

instance neZero_group : NeZero 9 := ⟨by decide⟩

instance neZero_eventId : NeZero 65536 := ⟨by decide⟩

/-- An event. -/
structure Event where
  eventId : Fin 65536
  group : Fin 9
  phase : Fin 9
  deriving DecidableEq

/-- An event that is on the agenda. -/
structure Entry where
  serial : ℕ
  event : Event
  deriving DecidableEq

/-- What has become of an entry. -/
inductive Fate where
  | returned (due clock : ℤ)
  | skipped (due clock : ℤ) (phases : Finset (Fin 9))
  | cancelled (eventId : Fin 65536)
  | cancelledGroup (group : Fin 9)
  deriving DecidableEq

/-- An event does not happen while other phases are active. -/
def Event.Excluded (event : Event) (phases : Finset (Fin 9)) : Prop :=
  phases.Nonempty ∧ event.phase ≠ 0 ∧ event.phase ∉ phases

instance (event : Event) (phases : Finset (Fin 9)) : Decidable (event.Excluded phases) :=
  inferInstanceAs (Decidable (_ ∧ _))

/-- A fate has its reason. -/
def Fate.Fair (event : Event) : Fate → Prop
  | .returned due clock => due ≤ clock
  | .skipped due clock phases => due ≤ clock ∧ event.Excluded phases
  | .cancelled eventId => event.eventId = eventId
  | .cancelledGroup group => group ≠ 0 ∧ event.group = group

def Fate.isReturned : Fate → Bool
  | .returned _ _ => true
  | _ => false

/-- An agenda. -/
structure Agenda where
  clock : ℤ
  phases : Finset (Fin 9)
  /-- the pending entries by their due times -/
  pending : List (ℤ × Entry)
  /-- the event that has happened last -/
  last : Event
  /-- the number of all entries -/
  entries : ℕ
  /-- the entries that are no longer pending -/
  settled : List (Entry × Fate)

namespace Agenda

variable (a : Agenda)

/-- An empty agenda. -/
def new : Agenda := ⟨0, ∅, [], ⟨0, 0, 0⟩, 0, []⟩

/-- Put an event on the agenda. -/
def add (due : ℤ) (event : Event) : Agenda :=
  { a with
    pending := Multimap.insert due ⟨a.entries, event⟩ a.pending
    entries := a.entries + 1 }

def schedule (event : Event) (time : ℤ) : Agenda := a.add (a.clock + time) event

def repeatLast (time : ℤ) : Agenda := a.add (a.clock + time) a.last

def advance (time : ℤ) : Agenda := { a with clock := a.clock + time }

def setPhase (phase : Fin 9) : Agenda := { a with phases := if phase = 0 then ∅ else {phase} }

def addPhase (phase : Fin 9) : Agenda :=
  { a with phases := if phase = 0 then a.phases else insert phase a.phases }

def removePhase (phase : Fin 9) : Agenda := { a with phases := a.phases.erase phase }

/-- Turn the clock back, but not behind its start. -/
def delayAll (delay : ℤ) : Agenda := { a with clock := max 0 (a.clock - delay) }

/-- The entries of a group. -/
def inGroup (group : Fin 9) (entry : Entry) : Bool := group ≠ 0 ∧ entry.event.group = group

theorem inGroup_zero : inGroup 0 = fun _ ↦ false := by
  funext entry
  exact decide_eq_false fun h ↦ h.1 rfl

/-- Delay the entries of a group. -/
def delayGroup (delay : ℤ) (group : Fin 9) : Agenda :=
  let delayed := (a.pending.filter (inGroup group ·.2)).map fun x ↦ (x.1 + delay, x.2)
  let kept := a.pending.filter (!inGroup group ·.2)
  { a with pending := Multimap.insertAll kept (Multimap.insertAll [] delayed) }

/-- Take the entries that `p` picks from the agenda. -/
def cancelAll (p : Entry → Bool) (fate : Fate) : Agenda :=
  { a with
    pending := a.pending.filter (!p ·.2)
    settled := a.settled ++ (a.pending.filter (p ·.2)).map fun x ↦ (x.2, fate) }

def cancel (eventId : Fin 65536) : Agenda := a.cancelAll (·.event.eventId = eventId) (.cancelled eventId)

def cancelGroup (group : Fin 9) : Agenda := a.cancelAll (inGroup group) (.cancelledGroup group)

/-- Entries that are due while their phase is excluded. -/
def isSkipped (x : ℤ × Entry) : Bool := x.1 ≤ a.clock ∧ x.2.event.Excluded a.phases

/-- Leave out the first entries that are due as long as they are excluded. -/
def skip : Agenda :=
  { a with
    pending := a.pending.dropWhile a.isSkipped
    settled := a.settled ++ (a.pending.takeWhile a.isSkipped).map fun x ↦
      (x.2, .skipped x.1 a.clock a.phases) }

/-- The first entry that is pending, if it is due. -/
def next : Option (ℤ × Entry) := a.pending.head?.filter (·.1 ≤ a.clock)

/-- The event of an entry happens. -/
def settle (x : ℤ × Entry) : Agenda :=
  { a with
    pending := a.pending.tail
    last := x.2.event
    settled := a.settled ++ [(x.2, .returned x.1 a.clock)] }

/-- The next event happens, if one is due. -/
def execute : Option (ℤ × Entry) × Agenda :=
  match a.skip.next with
  | none => (none, a.skip)
  | some x => (some x, a.skip.settle x)

/-! ## What holds at any time -/

/-- The event that has happened last. -/
def lastReturned (settled : List (Entry × Fate)) : Option Event :=
  (settled.reverse.find? (·.2.isReturned)).map (·.1.event)

/-- What holds of an agenda. -/
structure Sound : Prop where
  clock : 0 ≤ a.clock
  due : ∀ x ∈ a.pending, 0 ≤ x.1
  sorted : Multimap.Sorted a.pending
  once : (a.pending.map (·.2.serial) ++ a.settled.map (·.1.serial)).Perm (List.range a.entries)
  fair : ∀ x ∈ a.settled, x.2.Fair x.1.event
  last : ∀ event, lastReturned a.settled = some event → a.last = event

variable {a} {due delay : ℤ} {event : Event} {group : Fin 9} {x : ℤ × Entry}

theorem sound_new : Agenda.new.Sound where
  clock := le_rfl
  due := nofun
  sorted := .nil
  once := .refl _
  fair := nofun
  last := nofun

theorem lastReturned_append {l l' : List (Entry × Fate)} (h : ∀ x ∈ l', x.2.isReturned = false) :
    lastReturned (l ++ l') = lastReturned l := by
  have hnone : l'.reverse.find? (·.2.isReturned) = none := by
    refine List.find?_eq_none.mpr fun x hx ↦ ?_
    rw [h x (List.mem_reverse.mp hx)]
    simp
  simp [lastReturned, hnone]

namespace Sound

section

variable (h : a.Sound)
include h

theorem frame {clock : ℤ} (hclock : 0 ≤ clock) (phases : Finset (Fin 9)) :
    { a with clock := clock, phases := phases }.Sound :=
  { h with clock := hclock }

theorem add (hdue : 0 ≤ due) : (a.add due event).Sound where
  clock := h.clock
  due := by
    intro x hx
    obtain rfl | hx := Multimap.mem_insert.mp hx
    · exact hdue
    · exact h.due x hx
  sorted := h.sorted.insert
  once := by
    have hinsert := (Multimap.insert_perm due ⟨a.entries, event⟩ a.pending).map (·.2.serial)
    refine (hinsert.append_right _).trans ((h.once.cons a.entries).trans ?_)
    rw [Agenda.add, List.range_succ]
    exact (List.perm_append_singleton _ _).symm
  fair := h.fair
  last := h.last

theorem remove (out kept : List (ℤ × Entry)) (fate : ℤ × Entry → Fate) {last : Event}
    (hperm : (out ++ kept).Perm a.pending) (hkept : kept.Sublist a.pending)
    (hfair : ∀ x ∈ out, (fate x).Fair x.2.event)
    (hlast : ∀ event, lastReturned (a.settled ++ out.map fun x ↦ (x.2, fate x)) = some event → last = event) :
    { a with
      pending := kept
      last := last
      settled := a.settled ++ out.map fun x : ℤ × Entry ↦ (x.2, fate x) }.Sound where
  clock := h.clock
  due := fun x hx ↦ h.due x (hkept.subset hx)
  sorted := List.Pairwise.sublist hkept h.sorted
  once := by
    have hserials := (hperm.map fun x ↦ x.2.serial).append_right (a.settled.map fun x ↦ x.1.serial)
    refine List.Perm.trans ?_ (hserials.trans h.once)
    rw [List.map_append, List.map_append, List.map_map]
    refine List.perm_append_comm.trans ?_
    rw [List.append_assoc]
    exact List.perm_append_comm
  fair := by
    intro x hx
    obtain hx | hx := List.mem_append.mp hx
    · exact h.fair x hx
    · obtain ⟨y, hy, rfl⟩ := List.mem_map.mp hx
      exact hfair y hy
  last := hlast

theorem cancelAll {p : Entry → Bool} {fate : Fate} (hnot : fate.isReturned = false)
    (hfair : ∀ x : Entry, p x → fate.Fair x.event) : (a.cancelAll p fate).Sound := by
  refine h.remove _ (a.pending.filter (!p ·.2)) (fun _ ↦ fate) ?_ List.filter_sublist ?_ ?_
  · exact List.filter_append_perm (p ·.2) a.pending
  · exact fun x hx ↦ hfair x.2 (List.mem_filter.mp hx).2
  · intro event hevent
    rw [lastReturned_append] at hevent
    · exact h.last event hevent
    · intro x hx
      obtain ⟨y, -, rfl⟩ := List.mem_map.mp hx
      exact hnot

theorem skip : a.skip.Sound := by
  refine h.remove _ (a.pending.dropWhile a.isSkipped) (fun x ↦ .skipped x.1 a.clock a.phases) ?_
    (List.dropWhile_sublist _) ?_ ?_
  · simp
  · intro x hx
    have hskipped : a.isSkipped x = true := List.mem_takeWhile_imp hx
    exact of_decide_eq_true (p := x.1 ≤ a.clock ∧ x.2.event.Excluded a.phases) hskipped
  · intro event hevent
    rw [lastReturned_append] at hevent
    · exact h.last event hevent
    · intro x hx
      obtain ⟨y, -, rfl⟩ := List.mem_map.mp hx
      rfl

theorem settle (hx : a.next = some x) : (a.settle x).Sound := by
  obtain ⟨hhead, hdue⟩ := Option.filter_eq_some_iff.mp hx
  obtain ⟨rest, hpending⟩ := List.head?_eq_some_iff.mp hhead
  refine h.remove [x] a.pending.tail (fun x ↦ .returned x.1 a.clock) ?_ (List.tail_sublist _) ?_ ?_
  · rw [hpending]
    exact .refl _
  · intro y hy
    obtain rfl := List.mem_singleton.mp hy
    exact of_decide_eq_true (p := y.1 ≤ a.clock) hdue
  · intro event hevent
    rw [lastReturned, List.map_singleton, List.reverse_append, List.reverse_singleton,
      List.singleton_append, List.find?_cons_of_pos rfl] at hevent
    exact Option.some.inj hevent

theorem execute : a.execute.2.Sound := by
  rw [Agenda.execute]
  split
  · exact h.skip
  · rename_i hx
    exact h.skip.settle hx

end

end Sound

/-! ## What the operations do to the entries -/

/-- An entry after a group has been delayed. -/
def delayed (delay : ℤ) (group : Fin 9) (x : ℤ × Entry) : ℤ × Entry :=
  if inGroup group x.2 then (x.1 + delay, x.2) else x

/-- Delaying a group changes the due times of its entries, and nothing else. -/
theorem delayGroup_perm (a : Agenda) (delay : ℤ) (group : Fin 9) :
    (a.delayGroup delay group).pending.Perm (a.pending.map (delayed delay group)) := by
  have hin : (a.pending.filter (inGroup group ·.2)).map (fun x ↦ (x.1 + delay, x.2)) =
      (a.pending.filter (inGroup group ·.2)).map (delayed delay group) := by
    refine List.map_congr_left fun x hx ↦ ?_
    exact (if_pos (List.mem_filter.mp hx).2).symm
  have hout : a.pending.filter (!inGroup group ·.2) =
      (a.pending.filter (!inGroup group ·.2)).map (delayed delay group) := by
    refine (List.map_congr_left fun x hx ↦ ?_).trans (List.map_id _) |>.symm
    have hx := (List.mem_filter.mp hx).2
    exact if_neg (by rw [Bool.not_eq_true]; exact (Bool.not_eq_true' _).mp hx)
  rw [delayGroup]
  refine (Multimap.insertAll_perm _ _).trans (((Multimap.insertAll_perm _ _).append_right _).trans ?_)
  rw [List.append_nil, hin, hout, ← List.map_append]
  exact (List.filter_append_perm (inGroup group ·.2) a.pending).map _

theorem Sound.delayGroup (h : a.Sound) (hdelay : 0 ≤ delay) : (a.delayGroup delay group).Sound where
  clock := h.clock
  due := by
    intro x hx
    obtain ⟨y, hy, rfl⟩ := List.mem_map.mp ((delayGroup_perm a delay group).mem_iff.mp hx)
    rw [delayed]
    split
    · exact Int.add_nonneg (h.due y hy) hdelay
    · exact h.due y hy
  sorted := Multimap.Sorted.insertAll (List.Pairwise.filter _ h.sorted)
  once := by
    have hserials := (delayGroup_perm a delay group).map (·.2.serial)
    refine (hserials.append_right _).trans ?_
    rw [List.map_map]
    have hsame : ((·.2.serial) ∘ delayed delay group : ℤ × Entry → ℕ) = (·.2.serial) := by
      funext x
      rw [Function.comp_apply, delayed]
      split <;> rfl
    rw [hsame]
    exact h.once
  fair := h.fair
  last := h.last

/-- The event that happens is due, and none that is left has been due before it. -/
theorem execute_some (h : Multimap.Sorted a.pending) (hx : a.execute.1 = some x) :
    x ∈ a.pending ∧ x.1 ≤ a.clock ∧ ¬ x.2.event.Excluded a.phases ∧ ∀ y ∈ a.execute.2.pending, x.1 ≤ y.1 := by
  have hsub : a.skip.pending.Sublist a.pending := List.dropWhile_sublist _
  rw [execute] at hx ⊢
  split at hx
  · cases hx
  rename_i y hnext
  obtain rfl := Option.some.inj hx
  obtain ⟨hhead, hdue⟩ := Option.filter_eq_some_iff.mp hnext
  have hdue : y.1 ≤ a.clock := decide_eq_true_iff.mp hdue
  have hstop := List.head?_dropWhile_not a.isSkipped a.pending
  rw [show (a.pending.dropWhile a.isSkipped).head? = some y from hhead] at hstop
  obtain ⟨rest, hpending⟩ := List.head?_eq_some_iff.mp hhead
  refine ⟨hsub.subset (hpending ▸ List.mem_cons_self), hdue, fun hexcluded ↦ ?_, ?_⟩
  · exact absurd ⟨hdue, hexcluded⟩ (of_decide_eq_false hstop)
  · intro z hz
    have hsorted : Multimap.Sorted a.skip.pending := List.Pairwise.sublist hsub h
    rw [hpending] at hsorted
    refine (List.pairwise_cons.mp hsorted).1 z ?_
    simpa only [hnext, settle, hpending, List.tail_cons] using hz

theorem execute_none (h : Multimap.Sorted a.pending) (hx : a.execute.1 = none) :
    ∀ y ∈ a.execute.2.pending, a.clock < y.1 := by
  have hsub : a.skip.pending.Sublist a.pending := List.dropWhile_sublist _
  rw [execute] at hx ⊢
  split at hx
  · rename_i hnext
    have hsorted : Multimap.Sorted a.skip.pending := List.Pairwise.sublist hsub h
    rw [next] at hnext
    intro y hy
    cases hpending : a.skip.pending with
    | nil => rw [hpending] at hy; cases hy
    | cons z rest =>
      rw [hpending, List.head?_cons, Option.filter_eq_none_iff] at hnext
      have hlt : a.skip.clock < z.1 := by simpa using hnext z rfl
      change a.clock < z.1 at hlt
      rw [hpending] at hy hsorted
      obtain rfl | hy := List.mem_cons.mp hy
      · exact hlt
      · exact hlt.trans_le ((List.pairwise_cons.mp hsorted).1 y hy)
  · cases hx

end Agenda

end Gundrak.Events
