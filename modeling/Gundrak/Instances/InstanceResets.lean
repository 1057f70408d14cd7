import Gundrak.Instances.ResetRounds

/-!
# Whose instance is reset

The event of an instance keeps 16 of the 32 bits of its id.  Carrying out the reset of the instance
65536 + 7 calls `_ResetInstance` with 7, and cancelling it may find the event of the instance 7, which
is the same event to `operator==`.

`ResetsRight` says that neither ever happened: every call of `_ResetInstance` got the id its event was
made with, after the time of the event, and every cancelled event was made with the id whose reset was
to be cancelled.  **`resetsRight_of_reaches`** has it for all runs in which the individual events that
come due are of ids below 65536 and in which a cancellation finds no event of another id with the same
low 16 bits in the queue.  `not_resetsRight` is the reset of a wrong instance.
-/

open Std (ExtTreeMap)

namespace Gundrak

/-- The manager, and what it does not keep: the cancellations, as the id that was asked for and the
event that was erased. -/
structure ResetWorld where
  mgr : InstanceSaveManager
  cancels : List (UInt32 × InstResetEvent) := []

/-- The calls that schedule, carry out and cancel the resets of single instances. -/
inductive ResetWorldCall where
  | AddInstanceSave (now : ℤ) (mapId instanceId : UInt32) (difficulty : UInt8) (resetTime : ℤ)
    (canReset : Bool)
  | Update (now : ℤ) (extended : UInt32 → Bool) (rounds : ℕ)
  /-- `ScheduleReset(false, time, event)` for the event of an instance -/
  | CancelReset (time : ℤ) (mapid : UInt16) (difficulty : UInt8) (instanceId : UInt32)

namespace ResetWorld

open InstanceSaveManager

variable (stores : ResetStores)

def next (w : ResetWorld) : ResetWorldCall → Option ResetWorld
  | .AddInstanceSave now mapId instanceId difficulty resetTime canReset =>
    some { w with
      mgr := w.mgr.AddInstanceSave stores now mapId instanceId difficulty resetTime canReset }
  | .Update now extended rounds =>
    (InstanceSaveManager.Update stores now extended rounds w.mgr).map fun m ↦ { w with mgr := m }
  | .CancelReset time mapid difficulty instanceId =>
    let event := InstResetEvent.make 0 mapid difficulty instanceId
    some
      { mgr := { w.mgr with m_resetTimeQueue := cancelReset w.mgr.m_resetTimeQueue time event }
        cancels := ((findReset w.mgr.m_resetTimeQueue time event).map fun x ↦ (instanceId, x.2)).toList ++ w.cancels }

/-- Every reset was that of the instance whose time had come, and every cancellation that of the
instance it was for. -/
def ResetsRight (w : ResetWorld) : Prop := (∀ r ∈ w.mgr.m_resets, r.instanceId = r.event.askedFor ∧ r.due < r.now) ∧
    ∀ c ∈ w.cancels, c.2.askedFor = c.1

/-- The individual events that come due are of ids that fit into 16 bits, and a cancellation finds no
event of another id with the same low bits. -/
def KeepsIds (w : ResetWorld) : ResetWorldCall → Prop
  | .AddInstanceSave _ _ _ _ _ _ => True
  | .Update now _ _ => ∀ x ∈ w.mgr.m_resetTimeQueue, x.1 < now → x.2.type = 0 → x.2.askedFor.toNat < 65536
  | .CancelReset _ _ _ instanceId => ∀ x ∈ w.mgr.m_resetTimeQueue,
      x.2.askedFor.toUInt16 = instanceId.toUInt16 → x.2.askedFor = instanceId

instance (w : ResetWorld) : (c : ResetWorldCall) → Decidable (w.KeepsIds c)
  | .AddInstanceSave _ _ _ _ _ _ => isTrue trivial
  | .Update now _ _ => inferInstanceAs (Decidable (∀ x ∈ w.mgr.m_resetTimeQueue, _))
  | .CancelReset _ _ _ instanceId => inferInstanceAs (Decidable (∀ x ∈ w.mgr.m_resetTimeQueue, _))

end ResetWorld

/-- A manager that was loaded at the time `now`, and the calls that drive it from there. -/
def resetMachine (stores : ResetStores) (now : ℤ) (instances : List InstanceRow)
    (resets : List InstanceResetRow) : Machine ResetWorld ResetWorldCall where
  start := { mgr := InstanceSaveManager.LoadResetTimes stores now instances resets }
  next := ResetWorld.next stores

namespace ResetWorld

open InstanceSaveManager

variable {stores : ResetStores} {w t : ResetWorld} {c : ResetWorldCall} {m m' : InstanceSaveManager}
  {q : ResetTimeQueue} {now : ℤ}

/-! ## Events that were made -/

/-- An event has a type up to 4, and of the id it was made with the low 16 bits. -/
def Made (e : InstResetEvent) : Prop := e.type ≤ 4 ∧ e.instanceId = e.askedFor.toUInt16

theorem made_make {type : UInt8} {mapid : UInt16} {difficulty : UInt8} {instanceId : UInt32}
    (ht : type ≤ 4) : Made (.make type mapid difficulty instanceId) := ⟨ht, rfl⟩

/-- What is said of all entries holds of them when one more is scheduled. -/
theorem forall_scheduleReset {P : ℤ × InstResetEvent → Prop} {time : ℤ} {e : InstResetEvent}
    (hq : ∀ x ∈ q, P x) (he : P (time, e)) : ∀ x ∈ scheduleReset q time e, P x := by
  intro x hx
  rcases Multimap.mem_insert.mp hx with rfl | hx
  · exact he
  · exact hq x hx

theorem mem_of_mem_cancelReset {time : ℤ} {e : InstResetEvent} {x : ℤ × InstResetEvent}
    (hx : x ∈ cancelReset q time e) : x ∈ q := by
  rw [cancelReset] at hx
  split at hx
  · exact List.mem_of_mem_eraseP hx
  · exact List.mem_of_mem_eraseP hx

theorem mem_of_findReset {time : ℤ} {e : InstResetEvent} {x : ℤ × InstResetEvent}
    (hx : findReset q time e = some x) : x ∈ q ∧ e.instanceId = x.2.instanceId := by
  rw [findReset, Option.or_eq_some_iff] at hx
  rcases hx with hx | ⟨_, hx⟩
  · have hs := List.find?_some hx
    rw [Bool.and_eq_true] at hs
    exact ⟨List.mem_of_find?_eq_some hx, of_decide_eq_true hs.2⟩
  · have hs := List.find?_some (p := fun x : ℤ × InstResetEvent ↦ sameEvent x.2 e) hx
    exact ⟨List.mem_of_find?_eq_some hx, of_decide_eq_true hs⟩

theorem addInstanceSave_queue (stores : ResetStores) (m : InstanceSaveManager) (now : ℤ)
    (mapId instanceId : UInt32) (difficulty : UInt8) (resetTime : ℤ) (canReset : Bool) :
    (m.AddInstanceSave stores now mapId instanceId difficulty resetTime canReset).m_resets = m.m_resets ∧
      ((m.AddInstanceSave stores now mapId instanceId difficulty resetTime
          canReset).m_resetTimeQueue = m.m_resetTimeQueue ∨
        (m.AddInstanceSave stores now mapId instanceId difficulty resetTime canReset).m_resetTimeQueue =
          scheduleReset m.m_resetTimeQueue (now + 2 * 3600) (.make 0 mapId.toUInt16 difficulty instanceId)) := by
  rw [AddInstanceSave]
  repeat' split
  all_goals first
    | exact ⟨rfl, .inl rfl⟩
    | exact ⟨rfl, .inr rfl⟩

/-! ## Rounds -/

/-- What the rounds of an update at the time `now` keep, with the ids that are still to come due. -/
structure Going (now : ℤ) (m : InstanceSaveManager) : Prop where
  made : ∀ x ∈ m.m_resetTimeQueue, Made x.2
  fits : ∀ x ∈ m.m_resetTimeQueue, x.1 < now → x.2.type = 0 → x.2.askedFor.toNat < 65536
  right : ∀ r ∈ m.m_resets, r.instanceId = r.event.askedFor ∧ r.due < r.now

theorem toUInt32_toUInt16 {id : UInt32} (h : id.toNat < 65536) : id.toUInt16.toUInt32 = id := by
  rw [← UInt32.toNat_inj, UInt16.toNat_toUInt32, UInt32.toNat_toUInt16]
  exact Nat.mod_eq_of_lt h

theorem Going.round {x : ℤ × InstResetEvent} {rest : ResetTimeQueue} (hm : Going now m)
    (hq : m.m_resetTimeQueue = x :: rest) (hx : x.1 < now) (hr : Round stores now m x rest m') :
    Going now m' := by
  have hmem : x ∈ m.m_resetTimeQueue := by rw [hq]; exact List.mem_cons_self
  have hrest : ∀ y ∈ rest, y ∈ m.m_resetTimeQueue := fun y hy ↦ by rw [hq]; exact List.mem_cons_of_mem _ hy
  cases hr with
  | «instance» ht hq' _ hl =>
    refine ⟨fun y hy ↦ hm.made y (hrest y (hq' ▸ hy)), fun y hy ↦ hm.fits y (hrest y (hq' ▸ hy)), ?_⟩
    rcases hl with hl | hl
    · rw [hl]
      exact hm.right
    · rw [hl]
      refine List.forall_mem_cons.mpr ⟨⟨?_, hx⟩, hm.right⟩
      simp [(hm.made x hmem).2, toUInt32_toUInt16 (hm.fits x hmem hx ht)]
  | warning _ h4 hq' _ hl =>
    obtain ⟨htype, h0, -⟩ := warning_type (hm.made x hmem).1 h4
    have hnew : Made { x.2 with type := x.2.type + 1 } := ⟨htype, (hm.made x hmem).2⟩
    refine ⟨fun y hy ↦ ?_, fun y hy ↦ ?_, hl ▸ hm.right⟩
    · rw [hq'] at hy
      refine forall_scheduleReset (P := fun y ↦ Made y.2) ?_ hnew y (List.mem_of_mem_tail hy)
      exact List.forall_mem_cons.mpr ⟨hnew, fun z hz ↦ hm.made z (hrest z hz)⟩
    · rw [hq'] at hy
      refine forall_scheduleReset (P := fun y ↦ y.1 < now → y.2.type = 0 →
        y.2.askedFor.toNat < 65536) ?_ (fun _ h ↦ absurd h h0) y (List.mem_of_mem_tail hy)
      exact List.forall_mem_cons.mpr ⟨fun _ h ↦ absurd h h0, fun z hz ↦ hm.fits z (hrest z hz)⟩
  | nothing _ hq' _ hl _ =>
    exact ⟨fun y hy ↦ hm.made y (hrest y (hq' ▸ hy)), fun y hy ↦ hm.fits y (hrest y (hq' ▸ hy)), hl ▸ hm.right⟩
  | reset _ hq' _ hl _ =>
    refine ⟨fun y hy ↦ ?_, fun y hy ↦ ?_, hl ▸ hm.right⟩
    · rw [hq'] at hy
      refine forall_scheduleReset (P := fun y ↦ Made y.2) ?_ (made_make (by decide)) y
        (List.mem_of_mem_tail hy)
      exact hq ▸ hm.made
    · rw [hq'] at hy
      refine forall_scheduleReset (P := fun y ↦ y.1 < now → y.2.type = 0 →
        y.2.askedFor.toNat < 65536) ?_ (fun _ h ↦ absurd h (by decide : (1 : UInt8) ≠ 0)) y
        (List.mem_of_mem_tail hy)
      exact hq ▸ hm.fits

/-! ## Loading -/

theorem made_loadResetTimes (stores : ResetStores) (now : ℤ) (instances : List InstanceRow)
    (resets : List InstanceResetRow) :
    (∀ x ∈ (LoadResetTimes stores now instances resets).m_resetTimeQueue, Made x.2) ∧
      (LoadResetTimes stores now instances resets).m_resets = [] := by
  let P (m : InstanceSaveManager) : Prop := (∀ x ∈ m.m_resetTimeQueue, Made x.2) ∧ m.m_resets = []
  have hfirst (t : ℤ) : firstType now t ≤ 4 := by
    rw [firstType]
    repeat' split
    all_goals decide
  have hrow (m : InstanceSaveManager) (row : InstanceRow) (hm : P m) : P (loadInstance now m row) := by
    rw [loadInstance]
    split
    · exact ⟨forall_scheduleReset hm.1 (made_make (by decide)), hm.2⟩
    · exact hm
  have hreset (m : InstanceSaveManager) (row : InstanceResetRow) (hm : P m) :
      P (loadResetTime stores m row) := by
    rw [loadResetTime]
    split
    · exact hm
    · exact hm
  have hpair (rows : List InstanceRow) (m : InstanceSaveManager) (q : MapDifficultyKey × ℕ)
      (hm : P m) : P (loadPair stores now rows m q) := by
    rw [loadPair]
    split
    · exact hm
    · refine ⟨?_, hm.2⟩
      refine List.foldlRecOn (motive := fun queue : ResetTimeQueue ↦ ∀ x ∈ queue, Made x.2) _ _
        (forall_scheduleReset hm.1 (made_make (hfirst _))) fun queue hqueue row _ ↦ ?_
      exact forall_scheduleReset hqueue (made_make (hfirst _))
  rw [LoadResetTimes]
  refine List.foldlRecOn (motive := P) _ _ ?_ fun m hm q _ ↦ hpair _ m q hm
  refine List.foldlRecOn (motive := P) _ _ ?_ fun m hm row _ ↦ hreset m row hm
  exact List.foldlRecOn (motive := P) _ _ ⟨nofun, rfl⟩ fun m hm row _ ↦ hrow m row hm

/-! ## Runs -/

/-- What is kept between the calls. -/
structure Sound (w : ResetWorld) : Prop where
  made : ∀ x ∈ w.mgr.m_resetTimeQueue, Made x.2
  right : w.ResetsRight

theorem Sound.next (hw : w.Sound) (hk : w.KeepsIds c) (hn : w.next stores c = some t) : t.Sound := by
  cases c with
  | AddInstanceSave now mapId instanceId difficulty resetTime canReset =>
    rw [ResetWorld.next, Option.some_inj] at hn
    subst hn
    obtain ⟨hl, hq⟩ := addInstanceSave_queue stores w.mgr now mapId instanceId difficulty resetTime
      canReset
    refine ⟨?_, ?_, hw.right.2⟩
    · dsimp only
      rcases hq with hq | hq
      · exact hq ▸ hw.made
      · exact hq ▸ forall_scheduleReset hw.made (made_make (by decide))
    · dsimp only
      exact hl ▸ hw.right.1
  | Update now extended rounds =>
    rw [ResetWorld.next, Option.map_eq_some_iff] at hn
    obtain ⟨m, hu, rfl⟩ := hn
    have hgoing : Going now w.mgr := ⟨hw.made, hk, hw.right.1⟩
    obtain ⟨hg, _⟩ := update_rule (P := Going now)
      (fun m m' x rest hm hq hx hr ↦ hm.round hq hx hr) hgoing hu
    exact ⟨hg.made, hg.right, hw.right.2⟩
  | CancelReset time mapid difficulty instanceId =>
    rw [ResetWorld.next, Option.some_inj] at hn
    subst hn
    refine ⟨fun x hx ↦ hw.made x (mem_of_mem_cancelReset hx), hw.right.1, fun c hc ↦ ?_⟩
    rcases List.mem_append.mp hc with hc | hc
    · rw [Option.mem_toList, Option.map_eq_some_iff] at hc
      obtain ⟨x, hx, rfl⟩ := hc
      obtain ⟨hmem, hid⟩ := mem_of_findReset hx
      rw [(hw.made x hmem).2] at hid
      exact hk x hmem hid.symm
    · exact hw.right.2 c hc

/-- **The right instance is reset.**  In a run in which the individual events that come due are of ids
below 65536, and no cancellation finds the event of an id that differs only above its low 16 bits, every
reset and every cancellation is that of the instance it was meant for. -/
theorem resetsRight_of_reaches {instances : List InstanceRow} {resets : List InstanceResetRow}
    (h : (resetMachine stores now instances resets).Reaches KeepsIds w) : w.ResetsRight := by
  refine (h.invariant (P := Sound) ?_ fun s a t hs ha hn ↦ hs.next ha hn).right
  obtain ⟨hmade, hresets⟩ := made_loadResetTimes stores now instances resets
  exact ⟨hmade, by
    show ∀ r ∈ (LoadResetTimes stores now instances resets).m_resets, _
    rw [hresets]
    exact nofun, nofun⟩

/-- One map of single instances, and no pair with a reset delay. -/
def sampleStores : ResetStores where
  mapEntry := fun _ ↦ some ⟨false, true⟩
  sMapDifficultyMap := []
  nodup := List.nodup_nil
  scaled := id
  resetTimeHour := 4

/-- Two instances are loaded, a third one is added, the first is cancelled, and the others reset. -/
theorem resetsRight_of_reaches_three :
    ∃ w, (resetMachine sampleStores 0 [⟨7, 1, 0, 500⟩, ⟨8, 1, 0, 600⟩] []).Reaches KeepsIds w ∧
      w.mgr.m_resets.map (·.instanceId) = [9, 8] ∧ w.ResetsRight := by
  let run : List ResetWorldCall := [.AddInstanceSave 10 1 9 0 0 true, .CancelReset 500 1 0 7,
    .Update 8000 (fun _ ↦ false) 4]
  obtain ⟨w, hw, hresets⟩ := (resetMachine sampleStores 0 [⟨7, 1, 0, 500⟩, ⟨8, 1, 0, 600⟩] []).exists_reaches
    KeepsIds run
    (fun w ↦ w.mgr.m_resets.map (·.instanceId) = [9, 8]) (by decide +kernel)
  exact ⟨w, hw, hresets, resetsRight_of_reaches hw⟩

/-- **A wrong instance is reset.**  The instance 65543 is loaded; when its time has come, the instance 7
is deleted and its id is freed. -/
theorem not_resetsRight : ¬ ∀ stores now instances resets w,
      (resetMachine stores now instances resets).Reachable w → w.ResetsRight := by
  intro h
  obtain ⟨w, hw, r, hr, hid, hasked⟩ := (resetMachine sampleStores 0 [⟨65543, 1, 0, 500⟩] []).exists_reachable
    [.Update 501 (fun _ ↦ false) 2]
    (fun w ↦ ∃ r ∈ w.mgr.m_resets, r.instanceId = 7 ∧ r.event.askedFor = 65543) (by decide +kernel)
  have hright := (h _ _ _ _ w hw).1 r hr
  rw [hid, hasked] at hright
  exact absurd hright.1 (by decide)

end ResetWorld

end Gundrak
