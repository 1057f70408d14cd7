import Gundrak.Battlegrounds.BattlegroundQueue

/-!
# The free slots of mixed battlegrounds

When factions are mixed, `FillXPlayersToBG` sends each group to the team with more free slots.  It
does not compute the free slots from the pools but counts them down in `valiFree` and `vhordeFree`.
`FillState.CountsSlots` says that the counters are right, and `countsSlots_iff` when they are right
all through the second loop.

They go wrong in two places.  The counters start at the slots less what `PreAddPlayers` returns,
which is not the number of players it added but the number it could still have added; the two agree
only when it added half of what it was asked for.  And a group that `SelectionPool::AddGroup` does not
add is counted all the same while its pool has room, since `AddGroup` then answers `true`.

`Seating` is the loop as it is meant: it looks at the number of players seated in each team and has no
counters to go wrong.

`fillXPlayersToBG_iff` says when the loop is reached at all for a new battleground: the players in the queue are
counted in a byte.
-/

open Std (ExtTreeMap)

namespace Gundrak

namespace BattlegroundQueue

variable {q : BattlegroundQueue} {bg : Battleground} {free : Team → ℕ} {team : Team} {g x : GroupId}

/-- The counters are the free slots of the teams less the players in their pools. -/
def FillState.CountsSlots (free : Team → ℕ) (s : FillState) : Prop :=
  ∀ team, s.vFree team = free team - s.queue.playerCount team

/-- The second loop of `FillXPlayersToBG` after `n` of the groups. -/
def fillAfter (q : BattlegroundQueue) (bracket_id : BracketId) (bg : Battleground) (start : Bool)
    (n : ℕ) : FillState :=
  ((q.fillEntries bracket_id).take n).foldl (fillStep bg (slots bg start))
    (q.fillStart bracket_id bg start)

/-! ## The loop as it is meant -/

/-- The groups that find a seat when a team may take `left` players, largest first. -/
def pack : ℕ → List (ℕ × GroupId) → List (ℕ × GroupId)
  | _, [] => []
  | left, e :: rest => if e.1 ≤ left then e :: pack (left - e.1) rest else pack left rest

/-- The groups a team takes in advance. -/
def preSeated (q : BattlegroundQueue) (bracket_id : BracketId) (free : Team → ℕ) (team : Team) :
    List (ℕ × GroupId) :=
  pack (q.smallestOfTeams bracket_id free) (q.queuedGroupMap (q.preGroups bracket_id team))

/-- The players in a list of groups. -/
def players (l : List (ℕ × GroupId)) : ℕ := (l.map Prod.fst).sum

/-- How many players are seated in each team, and which groups.  Of `queue` only the groups matter. -/
structure Seating where
  queue : BattlegroundQueue
  count : Team → ℕ
  seated : List GroupId

namespace Seating

/-- The seating before the second loop. -/
def begin (q : BattlegroundQueue) (bracket_id : BracketId) (bg : Battleground) (start : Bool) :
    Seating :=
  if start then
    { queue := q
      count := fun team ↦ players (q.preSeated bracket_id (slots bg start) team)
      seated := (q.preSeated bracket_id (slots bg start) .alliance ++
        q.preSeated bracket_id (slots bg start) .horde).map Prod.snd }
  else { queue := q, count := fun _ ↦ 0, seated := [] }

/-- The team with more free slots; a tie leaves a group where it is. -/
def roomier (free : Team → ℕ) (t : Seating) (g : GroupId) : Team :=
  t.queue.sideFor g fun team ↦ free team - t.count team

/-- A group goes to a team, with or without a seat. -/
def assign (t : Seating) (g : GroupId) (team : Team) : Seating :=
  { t with queue := t.queue.setTeam g team }

/-- A group takes its seats. -/
def seat (t : Seating) (g : GroupId) (team : Team) : Seating :=
  { t with
    count := Function.update t.count team (t.count team + t.queue.size g)
    seated := g :: t.seated }

/-- A group that need not be seated: it is invited or seated already, or both teams have enough. -/
def settled (bg : Battleground) (t : Seating) (g : GroupId) : Prop := t.queue.isInvited g = true ∨ g ∈ t.seated ∨
    (bg.GetMinPlayersPerTeam ≤ t.count .alliance ∧ bg.GetMinPlayersPerTeam ≤ t.count .horde)

instance (bg : Battleground) (t : Seating) (g : GroupId) : Decidable (t.settled bg g) :=
  inferInstanceAs (Decidable (_ ∨ _))

/-- Every group that is not settled finds its seats in the roomier team, or finds it full: none meets
a team that has room, but too little. -/
def Fits (bg : Battleground) (free : Team → ℕ) : Seating → List (ℕ × GroupId) → Prop
  | _, [] => True
  | t, (_, g) :: rest =>
    if t.settled bg g then Fits bg free t rest
    else
      let team := t.roomier free g
      let t := t.assign g team
      if t.count team + t.queue.size g ≤ free team then Fits bg free (t.seat g team) rest
      else free team ≤ t.count team ∧ Fits bg free t rest

end Seating

/-! ## Adding players in advance -/

/-- The team `PreAddPlayers` adds a group to. -/
def preTeam (q : BattlegroundQueue) (g : GroupId) : Team :=
  if (q.group g).CFSTeam = Team.alliance.id then .alliance else .horde

theorem mem_queuedGroupMap {l : List GroupId} {e : ℕ × GroupId} (h : e ∈ q.queuedGroupMap l) :
    e.2 ∈ l ∧ q.size e.2 = e.1 := by
  rw [queuedGroupMap, List.mem_reverse, (List.perm_insertionSort ..).mem_iff, List.mem_map] at h
  obtain ⟨g, hg, rfl⟩ := h
  exact ⟨hg, rfl⟩

theorem mem_preGroups {bracket_id : BracketId} (h : g ∈ q.preGroups bracket_id team) :
    q.isInvited g = false ∧ q.preTeam g = team := by
  rw [preGroups, List.mem_filter, waiting, List.mem_filter] at h
  obtain ⟨⟨-, hi⟩, ht⟩ := h
  refine ⟨by simpa using hi, ?_⟩
  rw [beq_iff_eq, decide_eq_decide] at ht
  rw [preTeam]
  split
  · next hc => exact (ht.mp hc).symm
  · next hc =>
    cases team with
    | alliance => exact absurd (ht.mpr rfl) hc
    | horde => rfl

/-- `PreAddPlayers` adds what `pack` picks, as long as the team has room for what it is asked to add.
In particular every group it offers is really added. -/
theorem PreAddPlayers_eq (MaxInTeam : ℕ) (l : List (ℕ × GroupId)) (q : BattlegroundQueue) (left : ℕ)
    (hl : ∀ e ∈ l, q.isInvited e.2 = false ∧ q.size e.2 = e.1 ∧ q.preTeam e.2 = team)
    (hroom : q.playerCount team + left ≤ MaxInTeam) :
    q.PreAddPlayers MaxInTeam l left =
      (q.setPool team ⟨(q.m_SelectionPools team).SelectedGroups ++ (pack left l).map Prod.snd,
        q.playerCount team + players (pack left l)⟩, left - (players (pack left l) : ℤ)) := by
  induction l generalizing q left with
  | nil =>
    rw [PreAddPlayers, pack, List.map_nil, List.append_nil, players, List.map_nil, List.sum_nil,
      add_zero, Nat.cast_zero, sub_zero]
    exact congrArg (·, (left : ℤ)) (setPool_self q team).symm
  | cons e rest ih =>
    obtain ⟨size, g⟩ := e
    obtain ⟨hinv, hsize, hteam⟩ := hl (size, g) List.mem_cons_self
    dsimp only at hinv hsize hteam
    have hrest : ∀ e ∈ rest, q.isInvited e.2 = false ∧ q.size e.2 = e.1 ∧ q.preTeam e.2 = team :=
      fun e he ↦ hl e (List.mem_cons_of_mem _ he)
    rw [PreAddPlayers, pack]
    dsimp only
    by_cases hle : size ≤ left
    · have hadd := addToPool_of_le q team MaxInTeam hinv
        (show q.playerCount team + q.size g ≤ MaxInTeam by omega)
      rw [if_pos (by exact_mod_cast hle), if_pos hle, ← preTeam, hteam, hadd]
      have hnext := ih (q.setPool team ⟨(q.m_SelectionPools team).SelectedGroups ++ [g],
        q.playerCount team + q.size g⟩) (left - size) hrest (by
          rw [playerCount_setPool, if_pos rfl, hsize]
          dsimp only
          omega)
      dsimp only
      rw [if_pos rfl, ← Nat.cast_sub hle, hnext, setPool_setPool, selectedGroups_setPool, if_pos rfl,
        playerCount_setPool, if_pos rfl]
      simp only [players, List.map_cons, List.sum_cons, List.append_assoc, List.singleton_append, hsize]
      refine Prod.ext ?_ ?_
      · simp only [add_assoc]
      · push_cast [Nat.cast_sub hle]
        ring
    · rw [if_neg (by exact_mod_cast hle), if_neg hle]
      exact ih q left hrest hroom

/-- The running counters and the seating are about the same pools. -/
structure Agrees (s : FillState) (t : Seating) : Prop where
  groups : s.queue.groups = t.queue.groups
  count : ∀ team, s.queue.playerCount team = t.count team
  seated : ∀ g, g ∈ (s.queue.m_SelectionPools .alliance).SelectedGroups ∨
    g ∈ (s.queue.m_SelectionPools .horde).SelectedGroups ↔ g ∈ t.seated

theorem players_pack_le (left : ℕ) (l : List (ℕ × GroupId)) : players (pack left l) ≤ left := by
  induction l generalizing left with
  | nil => exact Nat.zero_le _
  | cons e rest ih =>
    rw [pack]
    split
    · next h =>
      have hrest := ih (left - e.1)
      rw [players, List.map_cons, List.sum_cons]
      rw [players] at hrest
      omega
    · exact ih left

section

variable (q : BattlegroundQueue) (bracket_id : BracketId) (bg : Battleground)

/-- The state before the second loop when the battleground is only starting. -/
theorem fillStart_true :
    let picks := q.preSeated bracket_id (slots bg true)
    let most : ℤ := q.smallestOfTeams bracket_id (slots bg true)
    q.fillStart bracket_id bg true = ⟨(((q.init .alliance).init .horde).setPool .alliance
          ⟨(picks .alliance).map Prod.snd, players (picks .alliance)⟩).setPool .horde
            ⟨(picks .horde).map Prod.snd, players (picks .horde)⟩,
        Team.choose (slots bg true .alliance - (most - players (picks .alliance)))
          (slots bg true .horde - (most - players (picks .horde)))⟩ := by
  have hentry : ∀ team, ∀ e ∈ q.queuedGroupMap (q.preGroups bracket_id team),
      q.isInvited e.2 = false ∧ q.size e.2 = e.1 ∧ q.preTeam e.2 = team := by
    intro team e he
    obtain ⟨hmem, hsize⟩ := mem_queuedGroupMap he
    exact ⟨(mem_preGroups hmem).1, hsize, (mem_preGroups hmem).2⟩
  have hmost : ∀ team, q.smallestOfTeams bracket_id (slots bg true) ≤ slots bg true team := by
    intro team
    rw [smallestOfTeams]
    cases team <;> omega
  have hcount : ∀ team, ((q.init .alliance).init .horde).playerCount team = 0 := fun team ↦ by
    cases team <;> rfl
  have hali := PreAddPlayers_eq (slots bg true .alliance)
    (q.queuedGroupMap (q.preGroups bracket_id .alliance))
    ((q.init .alliance).init .horde) (q.smallestOfTeams bracket_id (slots bg true))
    (hentry .alliance) (by
      rw [hcount, zero_add]
      exact hmost .alliance)
  have hhorde := PreAddPlayers_eq (slots bg true .horde)
    (q.queuedGroupMap (q.preGroups bracket_id .horde))
    (((q.init .alliance).init .horde).setPool .alliance
      ⟨(q.preSeated bracket_id (slots bg true) .alliance).map Prod.snd,
        players (q.preSeated bracket_id (slots bg true) .alliance)⟩)
    (q.smallestOfTeams bracket_id (slots bg true))
    (hentry .horde) (by
      rw [playerCount_setPool, if_neg (by decide), hcount, zero_add]
      exact hmost .horde)
  have hpre : ∀ team, ((q.init .alliance).init .horde).queuedGroupMap
      (((q.init .alliance).init .horde).preGroups bracket_id team) =
        q.queuedGroupMap (q.preGroups bracket_id team) := fun _ ↦ rfl
  have hmost' : ((q.init .alliance).init .horde).smallestOfTeams bracket_id (slots bg true) =
      q.smallestOfTeams bracket_id (slots bg true) := rfl
  have hselected : ∀ team, (((q.init .alliance).init .horde).m_SelectionPools team).SelectedGroups = [] := fun team ↦ by
    cases team <;> rfl
  simp only [preSeated, hselected, hcount, selectedGroups_setPool, playerCount_setPool,
    reduceCtorEq, if_false, List.nil_append, zero_add] at hali hhorde
  simp [fillStart, preSeated, hpre, hmost', hali, hhorde]

/-- What is known before the second loop: the pools hold the groups taken in advance, and each
counter is off by what could still have been taken. -/
theorem fillStart_spec (start : Bool) : Agrees (q.fillStart bracket_id bg start) (Seating.begin q bracket_id bg start) ∧
      ((q.fillStart bracket_id bg start).CountsSlots (slots bg start) ↔
        (start = true → ∀ team, q.smallestOfTeams bracket_id (slots bg start) =
          2 * players (q.preSeated bracket_id (slots bg start) team))) := by
  cases start with
  | false =>
    refine ⟨⟨rfl, fun team ↦ by cases team <;> rfl, fun g ↦ ?_⟩, ?_⟩
    · simp [fillStart, Seating.begin, init, selectedGroups_setPool]
    · refine ⟨fun _ h ↦ absurd h (by simp), fun _ team ↦ ?_⟩
      cases team <;> simp [fillStart, init]
  | true =>
    rw [fillStart_true]
    refine ⟨⟨rfl, fun team ↦ by cases team <;> rfl, fun g ↦ ?_⟩, ?_⟩
    · simp [Seating.begin, selectedGroups_setPool]
    · simp only [FillState.CountsSlots, playerCount_setPool, true_implies]
      refine forall_congr' fun team ↦ ?_
      have hle := players_pack_le (q.smallestOfTeams bracket_id (slots bg true))
        (q.queuedGroupMap (q.preGroups bracket_id team))
      rw [← preSeated] at hle
      cases team
      · simp only [Team.choose, reduceCtorEq, if_false, if_true]
        omega
      · simp only [Team.choose, if_true]
        omega

end

/-! ## The second loop -/

theorem sideFor_congr {q q' : BattlegroundQueue} (h : q.groups = q'.groups) (g : GroupId)
    (vFree : Team → ℤ) : q.sideFor g vFree = q'.sideFor g vFree := by
  simp [sideFor, group, h]

section

variable {s : FillState}

theorem fillStep_of_le {size : ℕ} (hpassed : s.queue.passedOver bg g = false) (hteam : s.queue.sideFor g s.vFree = team)
    (hfits : s.queue.playerCount team + s.queue.size g ≤ free team) :
    fillStep bg free s (size, g) = ⟨(s.queue.setTeam g team).setPool team
          ⟨(s.queue.m_SelectionPools team).SelectedGroups ++ [g], s.queue.playerCount team + s.queue.size g⟩,
        Function.update s.vFree team (s.vFree team - s.queue.size g)⟩ := by
  have hinv : s.queue.isInvited g = false := by
    simp only [passedOver, Bool.or_eq_false_iff] at hpassed
    exact hpassed.1.1.1
  have hadd := addToPool_of_le (s.queue.setTeam g team) team (free team)
    (by rw [isInvited_setTeam, hinv]) (by rw [size_setTeam]; exact hfits)
  rw [fillStep]
  simp only [hpassed, Bool.false_eq_true, if_false, hteam, hadd, if_true, size_setPool, size_setTeam]
  rfl

/-- A pass that does not add its group, but counts it as long as there is room. -/
theorem fillStep_of_lt {size : ℕ} (hpassed : s.queue.passedOver bg g = false) (hteam : s.queue.sideFor g s.vFree = team)
    (hfits : free team < s.queue.playerCount team + s.queue.size g) :
    fillStep bg free s (size, g) = ⟨s.queue.setTeam g team, if s.queue.playerCount team < free team then
        Function.update s.vFree team (s.vFree team - s.queue.size g) else s.vFree⟩ := by
  have hadd := addToPool_of_lt (s.queue.setTeam g team) team (free team)
    (by rw [size_setTeam]; exact hfits)
  have hcount : (s.queue.setTeam g team).playerCount team = s.queue.playerCount team := rfl
  simp [fillStep, hpassed, hteam, hadd, size_setTeam, hcount]

theorem Agrees.passedOver {t : Seating} (hst : Agrees s t) : s.queue.passedOver bg g = true ↔ t.settled bg g := by
  simp only [BattlegroundQueue.passedOver, Bool.or_eq_true, Bool.and_eq_true, decide_eq_true_eq,
    List.contains_iff_mem, or_assoc, hst.count, Seating.settled, ← hst.seated, isInvited, group,
    hst.groups]

theorem Agrees.assign {t : Seating} (hst : Agrees s t) (g : GroupId) (team : Team) (vFree : Team → ℤ) :
    Agrees ⟨s.queue.setTeam g team, vFree⟩ (t.assign g team) where
  groups := by
    show s.queue.groups.modify g _ = t.queue.groups.modify g _
    rw [hst.groups]
  count := hst.count
  seated := hst.seated

theorem Agrees.seat {t : Seating} (hst : Agrees s t) (g : GroupId) (team : Team) (vFree : Team → ℤ) :
    Agrees ⟨s.queue.setPool team ⟨(s.queue.m_SelectionPools team).SelectedGroups ++ [g],
      s.queue.playerCount team + s.queue.size g⟩, vFree⟩ (t.seat g team) where
  groups := hst.groups
  count x := by
    have hsize : s.queue.size g = t.queue.size g := by rw [size, size, group, group, hst.groups]
    simp only [playerCount_setPool, Seating.seat, Function.update_apply, hst.count, hsize]
  seated x := by
    rw [Seating.seat, List.mem_cons, ← hst.seated, selectedGroups_setPool, selectedGroups_setPool]
    cases team
    · simp only [if_true, reduceCtorEq, if_false, List.mem_append, List.mem_singleton]
      tauto
    · simp only [if_true, reduceCtorEq, if_false, List.mem_append, List.mem_singleton]
      tauto

/-- Seating a group takes its players off the counter of its team. -/
theorem countsSlots_update (hs : s.CountsSlots free) {q : BattlegroundQueue}
    {n : ℕ} (hq : ∀ t, q.playerCount t = if t = team then s.queue.playerCount t + n
      else s.queue.playerCount t) :
    FillState.CountsSlots free ⟨q, Function.update s.vFree team (s.vFree team - n)⟩ := by
  intro t
  dsimp only
  rw [hq, Function.update_apply]
  split
  · next h =>
    subst h
    rw [hs t]
    push_cast
    ring
  · exact hs t

/-- One pass of the loop, from a state with true counters.  Either the pass keeps the counters true
and the group is dealt with as it should be, or the group meets a team that has room, but too little,
and the counters are wrong afterwards. -/
theorem fillStep_spec {t : Seating} (bg : Battleground) (g : GroupId) (size : ℕ)
    (hst : Agrees s t) (hs : s.CountsSlots free) :
    let s' := fillStep bg free s (size, g)
    let t' := t.assign g (t.roomier free g)
    if t.settled bg g then Agrees s' t ∧ s'.CountsSlots free
    else if t'.count (t.roomier free g) + t'.queue.size g ≤ free (t.roomier free g) then
      Agrees s' (t'.seat g (t.roomier free g)) ∧ s'.CountsSlots free
    else if free (t.roomier free g) ≤ t'.count (t.roomier free g) then
      Agrees s' t' ∧ s'.CountsSlots free
    else ¬s'.CountsSlots free := by
  dsimp only
  have hvFree : s.vFree = fun team ↦ (free team : ℤ) - t.count team := funext fun team ↦ by rw [hs team, hst.count team]
  have hteam : s.queue.sideFor g s.vFree = t.roomier free g := by
    rw [hvFree, Seating.roomier, sideFor_congr hst.groups]
  generalize t.roomier free g = team at hteam
  have hassigned := hst.assign g team s.vFree
  have hsize : s.queue.size g = (t.assign g team).queue.size g := by
    rw [← size_setTeam s.queue g g team, BattlegroundQueue.size, BattlegroundQueue.size, group, group, hassigned.groups]
  have hcount : s.queue.playerCount team = (t.assign g team).count team := hst.count team
  by_cases hsettled : t.settled bg g
  · rw [if_pos hsettled, fillStep, if_pos (hst.passedOver.mpr hsettled)]
    exact ⟨hst, hs⟩
  have hpassed : s.queue.passedOver bg g = false := by
    rwa [← Bool.not_eq_true, hst.passedOver]
  rw [if_neg hsettled, ← hcount, ← hsize]
  by_cases hfits : s.queue.playerCount team + s.queue.size g ≤ free team
  · rw [if_pos hfits, fillStep_of_le hpassed hteam hfits]
    refine ⟨?_, countsSlots_update hs fun x ↦ ?_⟩
    · have hseated := hassigned.seat g team
        (Function.update s.vFree team (s.vFree team - s.queue.size g))
      rw [size_setTeam] at hseated
      exact hseated
    · rw [playerCount_setPool]
      split
      · next h => subst h; rfl
      · rfl
  · rw [if_neg hfits, fillStep_of_lt hpassed hteam (not_le.mp hfits)]
    by_cases hfull : free team ≤ s.queue.playerCount team
    · rw [if_pos hfull, if_neg (not_lt.mpr hfull)]
      exact ⟨hassigned, hs⟩
    · rw [if_neg hfull, if_pos (not_le.mp hfull)]
      intro hc
      have hteam := hc team
      dsimp only at hteam
      rw [Function.update_self, hs team, show (s.queue.setTeam g team).playerCount team =
        s.queue.playerCount team from rfl] at hteam
      omega

end

theorem fits_iff (entries : List (ℕ × GroupId)) {s : FillState} {t : Seating} (hst : Agrees s t)
    (hs : s.CountsSlots free) :
    (∀ n, ((entries.take n).foldl (fillStep bg free) s).CountsSlots free) ↔ t.Fits bg free entries := by
  induction entries generalizing s t with
  | nil => simp [Seating.Fits, hs]
  | cons e rest ih =>
    obtain ⟨size, g⟩ := e
    have hcons : (∀ n, (((size, g) :: rest).take n |>.foldl (fillStep bg free) s).CountsSlots free) ↔
        ∀ n, ((rest.take n).foldl (fillStep bg free) (fillStep bg free s (size, g))).CountsSlots
          free := by
      refine ⟨fun h n ↦ h (n + 1), fun h n ↦ ?_⟩
      cases n with
      | zero => exact hs
      | succ n => exact h n
    have hstep := fillStep_spec bg g size hst hs
    rw [hcons, Seating.Fits]
    dsimp only at hstep ⊢
    split at hstep
    · next hsettled =>
      rw [if_pos hsettled]
      exact ih hstep.1 hstep.2
    · next hsettled =>
      rw [if_neg hsettled]
      split at hstep
      · next hfits =>
        rw [if_pos hfits]
        exact ih hstep.1 hstep.2
      · next hfits =>
        rw [if_neg hfits]
        split at hstep
        · next hfull =>
          rw [ih hstep.1 hstep.2, and_iff_right hfull]
        · next hfull =>
          exact iff_of_false (fun h ↦ hstep (h 0)) fun h ↦ hfull h.1

/-- **The free slots of mixed battlegrounds.**  The counters of `FillXPlayersToBG` are right all
through its second loop exactly when the groups taken in advance are half of what was asked for, in
both teams, and no group after them meets a team that has room, but too little. -/
theorem countsSlots_iff (q : BattlegroundQueue) (config : BattlegroundConfig)
    (bracket_id : BracketId) (bg : Battleground) (start : Bool) :
    (q.fillsX config bracket_id bg start = true →
      ∀ n, (q.fillAfter bracket_id bg start n).CountsSlots (slots bg start)) ↔
    (q.fillsX config bracket_id bg start = true →
      (start = true → ∀ team, q.smallestOfTeams bracket_id (slots bg start) =
        2 * players (q.preSeated bracket_id (slots bg start) team)) ∧
      (Seating.begin q bracket_id bg start).Fits bg (slots bg start) (q.fillEntries bracket_id)) := by
  refine imp_congr_right fun _ ↦ ?_
  obtain ⟨hagrees, hstart⟩ := fillStart_spec q bracket_id bg start
  by_cases h : (q.fillStart bracket_id bg start).CountsSlots (slots bg start)
  · rw [← fits_iff (q.fillEntries bracket_id) hagrees h, and_iff_right (hstart.mp h)]
    rfl
  · exact iff_of_false (fun hall ↦ h (hall 0)) fun hc ↦ h (hstart.mpr hc.1)

/-- A server that mixes factions. -/
def mixedConfig : BattlegroundConfig where
  crossfactionEnabled := true
  invitationType := .noBalance
  premadeGroupWaitForMatch := 1800000
  isTesting := false
  isArenaTesting := false
  GetMaxRatingDifference := 150
  GetRatingDiscardTimer := 600000
  GetGameTimeMS := 1000

/-- A running battleground with one free slot in each team. -/
def nearlyFull : Battleground where
  GetInstanceID := 1
  GetTypeID := 2
  GetBracketId := 0
  GetStatus := 3
  GetMinPlayersPerTeam := 5
  GetMaxPlayersPerTeam := 10
  GetFreeSlotsForTeam _ := 1
  isArena := false
  isRated := false

/-- Two friends who join together. -/
def pairRequest : JoinRequest where
  leader := 1
  team := .alliance
  grp := some [1, 2]
  BgTypeId := 2
  bracketId := 0
  ArenaType := 0
  isRated := false
  isPremade := false
  ArenaRating := 0
  MatchmakerRating := 0
  arenateamid := 0
  CFSTeam := 0

/-- The queue the two are in. -/
def pairQueued : BattlegroundQueue := new.AddGroup mixedConfig pairRequest

/-- The pair is not added to the alliance, but counted there. -/
theorem not_countsSlots_pairQueued : pairQueued.fillsX mixedConfig 0 nearlyFull false = true ∧
      ¬∀ n, (pairQueued.fillAfter 0 nearlyFull false n).CountsSlots (slots nearlyFull false) :=
  ⟨by decide +kernel, fun h ↦ absurd (h 1 .alliance) (by decide +kernel)⟩

/-! ## Counting the queue

`FillXPlayersToBG` counts the waiting players in a byte, so a queue of 256 players is taken for an empty one. -/

/-- The number of players in the groups that are not invited. -/
def waitingPlayers (q : BattlegroundQueue) (bracket_id : BracketId) : ℕ := ((q.waiting bracket_id).map q.size).sum

/-- **A new battleground is filled** exactly if the number of players in the queue is large enough modulo 256, or
battlegrounds are being tested. -/
theorem fillXPlayersToBG_iff (q : BattlegroundQueue) (config : BattlegroundConfig) (bracket_id : BracketId)
    (bg : Battleground) (henabled : config.crossfactionEnabled = true) :
    (q.FillXPlayersToBG config bracket_id bg true).2 = true ↔
      config.isTesting = true ∨ 2 * bg.GetMinPlayersPerTeam ≤ q.waitingPlayers bracket_id % 2 ^ 8 := by
  have hbranch : (q.FillXPlayersToBG config bracket_id bg true).2 = q.fillsX config bracket_id bg true := by
    rw [FillXPlayersToBG]
    split
    · next h => exact h.symm
    · next h => exact (Bool.not_eq_true _ ▸ h).symm
  rw [hbranch, fillsX, henabled, ← waitingPlayers, Bool.true_and, Bool.not_true, Bool.or_false, Bool.or_eq_true,
    decide_eq_true_iff, Nat.mul_comm 2]

/-- A new battleground of five players a team. -/
def newBattleground : Battleground where
  GetInstanceID := 0
  GetTypeID := 2
  GetBracketId := 0
  GetStatus := 0
  GetMinPlayersPerTeam := 5
  GetMaxPlayersPerTeam := 10
  GetFreeSlotsForTeam _ := 10
  isArena := false
  isRated := false

/-- The pair fills a battleground of one player a team. -/
theorem fillXPlayersToBG_pairQueued :
    (pairQueued.FillXPlayersToBG mixedConfig 0 { newBattleground with GetMinPlayersPerTeam := 1 } true).2 = true :=
  (fillXPlayersToBG_iff pairQueued mixedConfig 0 { newBattleground with GetMinPlayersPerTeam := 1 } rfl).mpr
    (.inr (by decide +kernel))

/-- A player who waits alone. -/
def single (guid : ObjectGuid) : GroupQueueInfo := { (default : GroupQueueInfo) with Players := {guid} }

/-- A queue of `n` players, each in a group of his own. -/
def singles (n : ℕ) : BattlegroundQueue where
  m_QueuedPlayers := .ofList ((List.range n).map fun g ↦ (g + 1, (⟨0, g⟩ : PlayerQueueInfo)))
  m_QueuedGroups _ index := if index = .crossfaction then List.range n else []
  m_SelectionPools _ := ⟨[], 0⟩
  groups := .ofList ((List.range n).map fun g ↦ (g, single (g + 1)))
  nextGroup := n

theorem group_singles {n g : ℕ} (hg : g < n) : (singles n).group g = single (g + 1) := by
  have hget : (singles n).groups[g]? = some (single (g + 1)) := by
    refine ExtTreeMap.getElem?_ofList_of_mem (Std.LawfulEqCmp.compare_eq_iff_eq.mpr rfl) ?_
      (List.mem_map.mpr ⟨g, List.mem_range.mpr hg, rfl⟩)
    rw [List.pairwise_map]
    refine List.nodup_range.imp fun hne heq ↦ hne ?_
    exact Std.LawfulEqCmp.compare_eq_iff_eq.mp heq
  simp [group, hget]

theorem waitingPlayers_singles (n : ℕ) (bracket_id : BracketId) : (singles n).waitingPlayers bracket_id = n := by
  have hwaiting : (singles n).waiting bracket_id = List.range n := by
    refine List.filter_eq_self.mpr fun g hg ↦ ?_
    rw [isInvited, group_singles (List.mem_range.mp hg)]
    rfl
  have hsize : ∀ g ∈ List.range n, (singles n).size g = 1 := fun g hg ↦ by
    rw [size, group_singles (List.mem_range.mp hg)]
    exact Finset.card_singleton _
  rw [waitingPlayers, hwaiting, List.map_congr_left hsize, List.map_const', List.sum_replicate, List.length_range]
  simp

/-- A queue of 256 players does not fill a battleground. -/
theorem not_fillXPlayersToBG :
    ¬ ∀ (q : BattlegroundQueue) (config : BattlegroundConfig) (bracket_id : BracketId) (bg : Battleground),
      config.crossfactionEnabled = true → 2 * bg.GetMinPlayersPerTeam ≤ q.waitingPlayers bracket_id →
        (q.FillXPlayersToBG config bracket_id bg true).2 = true := by
  intro h
  have hwaiting := waitingPlayers_singles 256 0
  have hfilled := h (singles 256) mixedConfig 0 newBattleground rfl (by rw [hwaiting]; decide)
  rw [FillXPlayersToBG, if_neg] at hfilled
  · exact absurd hfilled (by decide)
  · rw [waitingPlayers] at hwaiting
    rw [fillsX, hwaiting]
    decide

end BattlegroundQueue

end Gundrak
