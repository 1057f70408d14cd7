import Gundrak.Battlegrounds.QueueConsistency

/-!
# The update of the battleground queue keeps it consistent

An update is mostly selection: it fills the two pools from the lists, which stay as they are
(`Frame`).  Besides, it sends groups of the mixed list to a team, moves groups between lists and
invites the groups it has selected.  `Sound.BattlegroundQueueUpdate` puts these together, and
`queue_bookkept_of_reachable` says what a client of the queue can rely on in every state it reaches.
-/

open Std (ExtTreeMap)

namespace Gundrak

namespace BattlegroundQueue

variable {q q' q'' : BattlegroundQueue} {g x last : GroupId} {b b' : BracketId}
variable {j : QueueGroupType} {team side : Team} {l left : List GroupId}
variable {config : BattlegroundConfig} {bg : Battleground} {live : GroupId → Prop}

/-- What an update keeps, for the groups that are `live` before it. -/
structure Sound (live : GroupId → Prop) (q : BattlegroundQueue) : Prop where
  consistent : q.Consistent
  teams : q.TeamsMatch
  groups : ∀ g, g ∈ q.groups ↔ live g

/-! ## Selecting -/

/-- At most the selection pools differ. -/
def Frame (q q' : BattlegroundQueue) : Prop := ∃ p, q' = { q with m_SelectionPools := p }

namespace Frame

theorem refl (q : BattlegroundQueue) : Frame q q := ⟨q.m_SelectionPools, rfl⟩

theorem trans (h : Frame q q') (h' : Frame q' q'') : Frame q q'' := by
  obtain ⟨p, rfl⟩ := h
  obtain ⟨p', rfl⟩ := h'
  exact ⟨p', rfl⟩

theorem lists (h : Frame q q') : q'.m_QueuedGroups = q.m_QueuedGroups := by
  obtain ⟨p, rfl⟩ := h
  rfl

theorem sound (h : Frame q q') (hq : Sound live q) : Sound live q' := by
  obtain ⟨p, rfl⟩ := h
  exact ⟨hq.consistent.of_occurrences rfl rfl rfl fun _ ↦ rfl, hq.teams, hq.groups⟩

section

variable (q : BattlegroundQueue) (team : Team)

theorem setPool (pool : SelectionPool) : Frame q (q.setPool team pool) := ⟨_, rfl⟩

theorem init : Frame q (q.init team) := setPool ..

theorem addToPool (g : GroupId) (desired : ℕ) : Frame q (q.addToPool team g desired).1 := by
  rw [BattlegroundQueue.addToPool]
  split
  · exact setPool ..
  · exact refl q

theorem kickGroup (size : ℕ) : Frame q (q.kickGroup team size).1 := by
  rw [BattlegroundQueue.kickGroup]
  split
  · exact setPool ..
  · exact refl q

end

section

variable (team : Team) (desired : ℕ) (l : List GroupId) (q : BattlegroundQueue)

theorem addWhile : Frame q (BattlegroundQueue.addWhile team desired q l).1 := by
  induction l generalizing q with
  | nil => exact refl q
  | cons g gs ih =>
    rw [BattlegroundQueue.addWhile]
    have hadd := addToPool q team g desired
    split
    · next h =>
      rw [h] at hadd
      exact hadd.trans (ih _)
    · next h =>
      simpa [h] using hadd

theorem addUninvited : Frame q (BattlegroundQueue.addUninvited team desired q l) := by
  induction l generalizing q with
  | nil => exact refl q
  | cons g gs ih =>
    rw [BattlegroundQueue.addUninvited]
    have hadd := addToPool q team g desired
    split
    · exact ih q
    · split
      · next h =>
        rw [h] at hadd
        exact hadd.trans (ih _)
      · next h =>
        simpa [h] using hadd

end

theorem selectEnough (team : Team) (minPlayers maxPlayers : ℕ) (l : List GroupId) (q : BattlegroundQueue) :
    Frame q (BattlegroundQueue.selectEnough team minPlayers maxPlayers q l).1 := by
  induction l generalizing q with
  | nil => exact refl q
  | cons g gs ih =>
    rw [BattlegroundQueue.selectEnough]
    split
    · exact ih q
    · dsimp only
      split
      · exact addToPool ..
      · exact (addToPool ..).trans (ih _)

theorem PreAddPlayers (MaxInTeam : ℕ) (l : List (ℕ × GroupId)) (q : BattlegroundQueue)
    (LeftToAdd : ℤ) : Frame q (BattlegroundQueue.PreAddPlayers MaxInTeam q l LeftToAdd).1 := by
  induction l generalizing q LeftToAdd with
  | nil => exact refl q
  | cons e rest ih =>
    rw [BattlegroundQueue.PreAddPlayers]
    split
    · exact (addToPool ..).trans (ih ..)
    · exact ih ..

theorem fillStart (q : BattlegroundQueue) (b : BracketId) (bg : Battleground) (start : Bool) :
    Frame q (q.fillStart b bg start).queue := by
  rw [BattlegroundQueue.fillStart]
  have hinit := (init q .alliance).trans (init _ .horde)
  split
  · exact (hinit.trans (PreAddPlayers ..)).trans (PreAddPlayers ..)
  · exact hinit

theorem balanceStep (free : Team → ℤ) (team : Team) (s : Balance) :
    Frame s.queue (BattlegroundQueue.balanceStep free team s).1.queue := by
  rw [BattlegroundQueue.balanceStep]
  dsimp only
  generalize hkick : s.queue.kickGroup team _ = r
  have hframe : Frame s.queue r.1 := hkick ▸ kickGroup ..
  have hadded : ∀ desired, Frame s.queue (if r.2 = true then
      BattlegroundQueue.addWhile team desired r.1 (s.rest team) else (r.1, s.rest team)).1 := by
    intro desired
    split
    · exact hframe.trans (addWhile ..)
    · exact hframe
  generalize hdesired : (if s.diff free team.other ≤ free team then _ else _ : ℤ).toNat = desired
  have hleft := hadded desired
  generalize (if r.2 = true then BattlegroundQueue.addWhile team desired r.1 (s.rest team)
    else (r.1, s.rest team)) = r' at hleft ⊢
  split
  · split
    · exact hleft
    · exact hleft.trans (kickGroup ..)
  · exact hleft

theorem balanceLoop (free : Team → ℤ) (fuel : ℕ) (s : Balance) :
    Frame s.queue (BattlegroundQueue.balanceLoop free fuel s) := by
  induction fuel generalizing s with
  | zero => exact refl _
  | succ fuel ih =>
    rw [BattlegroundQueue.balanceLoop]
    split
    · have hstep := balanceStep free
        (if s.diff free .alliance < s.diff free .horde then .alliance else .horde) s
      split
      · next h =>
        rw [h] at hstep
        exact hstep.trans (ih _)
      · next h =>
        simpa [h] using hstep
    · exact refl _

theorem CheckNormalMatch {minPlayers maxPlayers : ℕ} {matched : Bool}
    (h : q.CheckNormalMatch config bg b minPlayers maxPlayers = some (q', matched)) :
    Frame q q' := by
  rw [BattlegroundQueue.CheckNormalMatch] at h
  have hali := selectEnough .alliance minPlayers maxPlayers (q.m_QueuedGroups b (.normal .alliance)) q
  generalize BattlegroundQueue.selectEnough .alliance minPlayers maxPlayers q
    (q.m_QueuedGroups b (.normal .alliance)) = r at h hali
  dsimp only at h
  have hhorde := selectEnough .horde minPlayers maxPlayers (r.1.m_QueuedGroups b (.normal .horde)) r.1
  generalize BattlegroundQueue.selectEnough .horde minPlayers maxPlayers r.1
    (r.1.m_QueuedGroups b (.normal .horde)) = r' at h hhorde
  have hboth := hali.trans hhorde
  generalize (if r'.1.playerCount .horde < r'.1.playerCount .alliance then Team.horde
    else Team.alliance) = team at h
  split at h
  · obtain ⟨left, -, h⟩ := Option.map_eq_some_iff.mp h
    split at h
    · obtain ⟨rfl, -⟩ := Prod.mk.inj h
      exact hboth.trans (addUninvited ..)
    · obtain ⟨rfl, -⟩ := Prod.mk.inj h
      exact hboth.trans (addUninvited ..)
  · obtain ⟨rfl, -⟩ := Prod.mk.inj (Option.some_inj.mp h)
    exact hboth

end Frame

/-! ## Mixed factions -/

theorem Sound.setTeam (hq : Sound live q) (h : g ∈ q.m_QueuedGroups b .crossfaction) (team : Team) :
    Sound live (q.setTeam g team) := by
  refine ⟨hq.consistent.modifyGroup g fun _ ↦ rfl, hq.teams.modifyGroup g fun _ b' j hj ↦ ?_,
    fun x ↦ (mem_modifyGroup q g x _).trans (hq.groups x)⟩
  rw [(hq.consistent.unique h hj).2]
  trivial

theorem fillStep_sound {s : FillState} {free : Team → ℕ} {e : ℕ × GroupId} (hs : Sound live s.queue)
    (he : e.2 ∈ s.queue.m_QueuedGroups b .crossfaction) :
    Sound live (fillStep bg free s e).queue ∧ (fillStep bg free s e).queue.m_QueuedGroups = s.queue.m_QueuedGroups := by
  rw [fillStep]
  split
  · exact ⟨hs, rfl⟩
  · dsimp only
    generalize s.queue.sideFor e.2 s.vFree = team
    have hadd := Frame.addToPool (s.queue.setTeam e.2 team) team e.2 (free team)
    exact ⟨hadd.sound (hs.setTeam he team), hadd.lists⟩

theorem foldl_fillStep_sound {free : Team → ℕ} (entries : List (ℕ × GroupId)) {s : FillState}
    (hs : Sound live s.queue) (he : ∀ e ∈ entries, e.2 ∈ s.queue.m_QueuedGroups b .crossfaction) :
    Sound live (entries.foldl (fillStep bg free) s).queue := by
  induction entries generalizing s with
  | nil => exact hs
  | cons e rest ih =>
    have hstep : Sound live (fillStep bg free s e).queue ∧
        (fillStep bg free s e).queue.m_QueuedGroups = s.queue.m_QueuedGroups :=
      fillStep_sound hs (he e List.mem_cons_self)
    refine ih hstep.1 fun e' he' ↦ ?_
    rw [hstep.2]
    exact he e' (List.mem_cons_of_mem _ he')

theorem Sound.FillXPlayersToBG (hq : Sound live q) (config : BattlegroundConfig) (b : BracketId)
    (bg : Battleground) (start : Bool) : Sound live (q.FillXPlayersToBG config b bg start).1 := by
  rw [BattlegroundQueue.FillXPlayersToBG]
  split
  · have hstart := Frame.fillStart q b bg start
    refine foldl_fillStep_sound (b := b) _ (hstart.sound hq) fun e he ↦ ?_
    rw [hstart.lists]
    rw [fillEntries, queuedGroupMap, List.mem_reverse, (List.perm_insertionSort ..).mem_iff, List.mem_map] at he
    obtain ⟨g, hg, rfl⟩ := he
    exact hg
  · exact hq

theorem Sound.CheckCrossFactionMatch (hq : Sound live q) : Sound live (q.CheckCrossFactionMatch config b bg).1 := by
  rw [BattlegroundQueue.CheckCrossFactionMatch]
  split
  · exact hq
  · dsimp only
    split <;> exact hq.FillXPlayersToBG ..

theorem Sound.FillPlayersToBG (hq : Sound live q) : Sound live (q.FillPlayersToBG config bg b) := by
  rw [BattlegroundQueue.FillPlayersToBG]
  have hfill : Sound live (if bg.isArena then (q, false)
      else q.FillXPlayersToBG config b bg false).1 := by
    split
    · exact hq
    · exact hq.FillXPlayersToBG ..
  generalize (if bg.isArena = true then (q, false) else q.FillXPlayersToBG config b bg false) = r
    at hfill
  dsimp only
  split
  · exact hfill
  · split
    · exact ((Frame.addWhile ..).trans (Frame.addWhile ..)).sound hfill
    · refine Frame.sound ?_ hfill
      exact ((Frame.addWhile ..).trans (Frame.addWhile ..)).trans (Frame.balanceLoop ..)

/-! ## Moving groups -/

theorem Sound.demotePremade (hq : Sound live q) (config : BattlegroundConfig) (minPlayers : ℕ)
    (team : Team) : Sound live (demotePremade config b minPlayers q team) := by
  rw [BattlegroundQueue.demotePremade]
  split
  · exact hq
  · next g rest hlist =>
    split
    · have hmem : g ∈ q.m_QueuedGroups b (.premade team) := by
        simp [hlist]
      have hmove : (q.setList b (.normal team) (g :: q.m_QueuedGroups b (.normal team))).setList b
          (.premade team) rest = q.move b (.premade team) (.normal team) g := by
        simp [move, hlist]
      rw [hmove]
      refine ⟨hq.consistent.move hmem (by simp), ?_, hq.groups⟩
      refine hq.teams.move hq.consistent hmem (by simp) fun hinv ↦ ?_
      exact hq.teams b (.premade team) g hmem hinv
    · exact hq

theorem Sound.CheckPremadeMatch (hq : Sound live q) {minPlayers maxPlayers : ℕ} :
    Sound live (q.CheckPremadeMatch config b minPlayers maxPlayers).1 := by
  rw [BattlegroundQueue.CheckPremadeMatch]
  split
  · refine Frame.sound ?_ hq
    exact (((Frame.addToPool ..).trans (Frame.addToPool ..)).trans (Frame.addUninvited ..)).trans
      (Frame.addUninvited ..)
  · exact (hq.demotePremade ..).demotePremade ..

theorem listAfter_sublist (h : listAfter last l = some left) : left.Sublist l := by
  induction l with
  | nil => exact absurd h (by simp [listAfter])
  | cons y ys ih =>
    rw [listAfter] at h
    split at h
    · rw [← Option.some_inj.mp h]
      exact List.sublist_cons_self y ys
    · exact (ih h).cons y

/-- In a list without duplicates it does not matter where the search for a group begins. -/
theorem eraseAfter_eq (hl : l.Nodup) (h : listAfter last l = some left) (hg : g ∈ left) :
    eraseAfter last g l = l.erase g ∧ listAfter last (l.erase g) = some (left.erase g) := by
  induction l with
  | nil => exact absurd h (by simp [listAfter])
  | cons y ys ih =>
    rw [listAfter] at h
    rw [List.nodup_cons] at hl
    split at h
    · next hy =>
      obtain rfl := Option.some_inj.mp h
      have hyg : y ≠ g := fun hyg ↦ hl.1 (hyg ▸ hg)
      rw [eraseAfter, if_pos hy, List.erase_cons_tail (by simpa using hyg), listAfter, if_pos hy]
      exact ⟨rfl, rfl⟩
    · next hy =>
      have hyg : y ≠ g := fun hyg ↦ hl.1 (hyg ▸ (listAfter_sublist h).subset hg)
      rw [eraseAfter, if_neg hy, List.erase_cons_tail (by simpa using hyg), listAfter, if_neg hy]
      exact ⟨congrArg (y :: ·) (ih hl.2 h).1, (ih hl.2 h).2⟩

theorem other_ne (team : Team) : team.other ≠ team := by
  cases team <;> decide

theorem changeSides_sound (hq : Sound live q)
    (h : listAfter last (q.m_QueuedGroups b (.normal team)) = some left) (hg : g ∈ left) :
    Sound live (changeSides b team last q g) ∧
      listAfter last ((changeSides b team last q g).m_QueuedGroups b (.normal team)) = some (left.erase g) := by
  have hmem := (listAfter_sublist h).subset hg
  have hne : (QueueGroupType.normal team) ≠ .normal team.other := by
    simpa using (other_ne team).symm
  have herase := eraseAfter_eq (hq.consistent.nodup b _) h hg
  have heq : changeSides b team last q g = (q.move b (.normal team) (.normal team.other) g).setTeam g team.other := by
    rw [changeSides]
    rw [setList_of_ne _ _ fun hc ↦ hne hc.2]
    show ((q.setTeam g team.other).setList b _ _).setList b _ (eraseAfter last g
      (q.m_QueuedGroups b (.normal team))) = _
    rw [herase.1]
    rfl
  rw [heq]
  refine ⟨⟨(hq.consistent.move hmem hne).modifyGroup g fun _ ↦ rfl, ?_, fun x ↦ ?_⟩, ?_⟩
  · intro b' j x hx hinv
    have hx : x ∈ (q.move b (.normal team) (.normal team.other) g).m_QueuedGroups b' j := hx
    rw [isInvited_setTeam] at hinv
    rw [BattlegroundQueue.setTeam, group_modifyGroup]
    by_cases hxg : x = g
    · subst hxg
      obtain ⟨rfl, rfl⟩ := hq.consistent.mem_move_self hmem hne hx
      rw [if_pos ⟨rfl, hq.consistent.live hmem⟩]
      rfl
    · rw [if_neg fun hc ↦ hxg hc.1.symm]
      exact hq.teams b' j x ((mem_move_of_ne q b _ _ hxg b' j).mp hx) hinv
  · exact (mem_modifyGroup (q.move b _ _ g) g x fun i ↦ { i with Team := team.other }).trans
      (hq.groups x)
  · show listAfter last ((q.move b (.normal team) (.normal team.other) g).m_QueuedGroups b
      (.normal team)) = _
    rw [move, setList_same]
    exact herase.2

theorem foldl_changeSides_sound (S : List GroupId) (hS : S.Nodup) (hsub : ∀ x ∈ S, x ∈ left)
    (hq : Sound live q) (h : listAfter last (q.m_QueuedGroups b (.normal team)) = some left) :
    Sound live (S.foldl (changeSides b team last) q) := by
  induction S generalizing q left with
  | nil => exact hq
  | cons g S ih =>
    have hstep := changeSides_sound hq h (hsub g List.mem_cons_self)
    rw [List.nodup_cons] at hS
    refine ih hS.2 (fun x hx ↦ ?_) hstep.1 hstep.2
    have hxg : x ≠ g := fun hxg ↦ hS.1 (hxg ▸ hx)
    exact (List.mem_erase_of_ne hxg).mpr (hsub x (List.mem_cons_of_mem _ hx))

/-- What `addUninvited` adds to a pool comes from the list, in its order. -/
theorem addUninvited_sublist (team : Team) (desired : ℕ) (l : List GroupId) (q : BattlegroundQueue) :
    ∃ S, S.Sublist l ∧ ((addUninvited team desired q l).m_SelectionPools team).SelectedGroups =
      (q.m_SelectionPools team).SelectedGroups ++ S := by
  induction l generalizing q with
  | nil => exact ⟨[], List.Sublist.refl _, (List.append_nil _).symm⟩
  | cons g gs ih =>
    rw [addUninvited]
    split
    · obtain ⟨S, hS, heq⟩ := ih q
      exact ⟨S, hS.cons g, heq⟩
    · by_cases hle : q.playerCount team + q.size g ≤ desired
      · next hinv =>
        rw [addToPool_of_le q team desired (by simpa using hinv) hle]
        obtain ⟨S, hS, heq⟩ := ih (q.setPool team
          ⟨(q.m_SelectionPools team).SelectedGroups ++ [g], q.playerCount team + q.size g⟩)
        refine ⟨g :: S, hS.cons_cons g, heq.trans ?_⟩
        simp [selectedGroups_setPool]
      · rw [addToPool_of_lt q team desired (not_le.mp hle)]
        split
        · next h =>
          obtain ⟨S, hS, heq⟩ := ih q
          refine ⟨S, hS.cons g, ?_⟩
          rw [← (Prod.mk.inj h).1]
          exact heq
        · next h =>
          refine ⟨[], List.nil_sublist _, ?_⟩
          simp [← (Prod.mk.inj h).1]

theorem Sound.CheckSkirmishForSameFaction (hq : Sound live q) {minPlayers : ℕ} {matched : Bool}
    (h : q.CheckSkirmishForSameFaction b minPlayers = some (q', matched)) : Sound live q' := by
  rw [BattlegroundQueue.CheckSkirmishForSameFaction] at h
  split at h
  · obtain ⟨rfl, -⟩ := Prod.mk.inj (Option.some_inj.mp h)
    exact hq
  · dsimp only at h
    generalize (if q.playerCount .horde = minPlayers then Team.horde else Team.alliance) = team at h
    have hinit := Frame.init q team.other
    obtain ⟨last, -, h⟩ := Option.map_eq_some_iff.mp h
    split at h
    · obtain ⟨rfl, -⟩ := Prod.mk.inj h
      exact hinit.sound hq
    · next left hleft =>
      have hadd := Frame.addUninvited team.other minPlayers left (q.init team.other)
      have hsound := hadd.sound (hinit.sound hq)
      split at h
      · obtain ⟨rfl, -⟩ := Prod.mk.inj h
        exact hsound
      · obtain ⟨rfl, -⟩ := Prod.mk.inj h
        obtain ⟨S, hS, heq⟩ := addUninvited_sublist team.other minPlayers left (q.init team.other)
        have hnodup : left.Nodup := (hq.consistent.nodup b _).sublist (listAfter_sublist hleft)
        have hempty : ((q.init team.other).m_SelectionPools team.other).SelectedGroups = [] := by
          simp [init, selectedGroups_setPool]
        rw [heq, hempty, List.nil_append]
        refine foldl_changeSides_sound S (hnodup.sublist hS) (fun x hx ↦ hS.subset hx) hsound ?_
        rw [hadd.lists]
        exact hleft

/-! ## Inviting -/

theorem mem_InviteGroupToBG (q : BattlegroundQueue) (config : BattlegroundConfig) (g : GroupId)
    (bg : Battleground) (side : Option Team) :
    x ∈ (q.InviteGroupToBG config g bg side).groups ↔ x ∈ q.groups := by
  obtain ⟨f, -, -, heq⟩ := InviteGroupToBG_eq q config g bg side
  rw [heq, mem_modifyGroup]

theorem Sound.InviteGroupToBG (hq : Sound live q) (config : BattlegroundConfig) (g : GroupId)
    (bg : BattlegroundInstance) (side : Option Team) :
    Sound live (q.InviteGroupToBG config g bg.1 side) := by
  refine ⟨hq.consistent.InviteGroupToBG .., hq.teams.InviteGroupToBG config g bg side, fun x ↦ ?_⟩
  rw [mem_InviteGroupToBG, hq.groups]

theorem Sound.invitePools (hq : Sound live q) (config : BattlegroundConfig)
    (bg : BattlegroundInstance) : Sound live (q.invitePools config bg.1) := by
  have hfold : ∀ (l : List GroupId) {q : BattlegroundQueue}, Sound live q → Sound live
      (l.foldl (fun q g ↦ q.InviteGroupToBG config g bg.1 (some (q.group g).Team)) q) := by
    intro l
    induction l with
    | nil => exact id
    | cons g l ih => exact fun hq ↦ ih (hq.InviteGroupToBG config g bg _)
  exact hfold _ (hfold _ hq)

theorem Sound.fillRunning (hq : Sound live q) (c : UpdateCall) (bg : BattlegroundInstance) :
    Sound live (fillRunning c q bg) := by
  rw [BattlegroundQueue.fillRunning]
  split
  · have hinit := (Frame.init q .alliance).trans (Frame.init _ .horde)
    exact (hinit.sound hq).FillPlayersToBG.invitePools c.config bg
  · exact hq

theorem Sound.updateNormal (hq : Sound live q) {c : UpdateCall} {minPlayers maxPlayers : ℕ}
    (h : q.updateNormal c bg minPlayers maxPlayers = some q') : Sound live q' := by
  rw [BattlegroundQueue.updateNormal] at h
  obtain ⟨⟨q₁, matched₁⟩, hnormal, h⟩ := Option.bind_eq_some_iff.mp h
  obtain ⟨⟨q₂, matched₂⟩, hskirmish, h⟩ := Option.map_eq_some_iff.mp h
  have hq₁ := (Frame.CheckNormalMatch hnormal).sound hq
  have hq₂ : Sound live q₂ := by
    split at hskirmish
    · exact hq₁.CheckSkirmishForSameFaction hskirmish
    · exact (Prod.mk.inj (Option.some_inj.mp hskirmish)).1 ▸ hq₁
  have hq₃ : Sound live (if !matched₂ then q₂.CheckCrossFactionMatch c.config c.bracket_id bg
      else (q₂, matched₂)).1 := by
    split
    · exact hq₂.CheckCrossFactionMatch
    · exact hq₂
  dsimp only at h
  generalize (if (!matched₂) = true then q₂.CheckCrossFactionMatch c.config c.bracket_id bg
    else (q₂, matched₂)) = r at h hq₃
  split at h
  · exact h ▸ hq₃.invitePools ..
  · exact h ▸ hq₃

/-! ## Rated arenas -/

section

variable (q : BattlegroundQueue) (b : BracketId) (side : Team)

theorem moveRated_eq (g : GroupId) : moveRated b side q g =
      if (q.group g).Team ≠ side then q.move b (.premade side.other) (.premade side) g else q := by
  rw [moveRated]
  dsimp only
  split
  · rw [setList_of_ne _ _ fun hc ↦ other_ne side (QueueGroupType.premade.inj hc.2)]
    rfl
  · rfl

theorem mem_moveRated_of_ne (hxg : x ≠ g) (b' : BracketId) (j : QueueGroupType) :
    x ∈ (moveRated b side q g).m_QueuedGroups b' j ↔ x ∈ q.m_QueuedGroups b' j := by
  rw [moveRated_eq]
  split
  · exact mem_move_of_ne q b _ _ hxg b' j
  · rfl

theorem moveRated_groups (g : GroupId) : (moveRated b side q g).groups = q.groups := by
  rw [moveRated_eq]
  split <;> rfl

end

/-- `TeamsMatch` for all groups but those of a list. -/
def TeamsMatchBut (q : BattlegroundQueue) (S : List GroupId) : Prop :=
  ∀ b j g, g ∈ q.m_QueuedGroups b j → g ∉ S → q.isInvited g = false → j.admits (q.group g).Team

namespace TeamsMatchBut

variable {S : List GroupId}

theorem modifyGroup (hq : q.TeamsMatchBut S) (hg : g ∈ S) (f : GroupQueueInfo → GroupQueueInfo) :
    (q.modifyGroup g f).TeamsMatchBut S := by
  intro b j x hx hxS hinv
  have hgx : ¬(g = x ∧ g ∈ q.groups) := fun hc ↦ hxS (hc.1 ▸ hg)
  rw [isInvited, group_modifyGroup, if_neg hgx] at hinv
  rw [group_modifyGroup, if_neg hgx]
  exact hq b j x hx hxS hinv

theorem moveRated (hq : q.TeamsMatchBut S) (hg : g ∈ S) : (moveRated b side q g).TeamsMatchBut S := by
  intro b' j x hx hxS
  have hxg : x ≠ g := fun hxg ↦ hxS (hxg ▸ hg)
  rw [isInvited, group, moveRated_groups]
  exact hq b' j x ((mem_moveRated_of_ne q b side hxg b' j).mp hx) hxS

/-- A group that has been invited need not be left out any longer. -/
theorem InviteGroupToBG (hq : q.TeamsMatchBut (g :: S)) (hg : g ∈ q.groups)
    (config : BattlegroundConfig) (bg : BattlegroundInstance) (side : Team) :
    (q.InviteGroupToBG config g bg.1 (some side)).TeamsMatchBut S := by
  obtain ⟨f, -, hinvited, heq⟩ := InviteGroupToBG_eq q config g bg.1 (some side)
  rw [heq]
  intro b j x hx hxS hinv
  rw [isInvited, group_modifyGroup] at hinv
  rw [group_modifyGroup]
  by_cases hgx : g = x
  · subst hgx
    rw [if_pos ⟨rfl, hg⟩] at hinv
    exact absurd hinv (by simpa using hinvited bg.2 _)
  · rw [if_neg fun hc ↦ hgx hc.1] at hinv ⊢
    refine hq b j x hx (fun hc ↦ ?_) hinv
    rcases List.mem_cons.mp hc with rfl | hc
    · exact hgx rfl
    · exact hxS hc

end TeamsMatchBut

theorem Consistent.moveRated (hq : q.Consistent) (hg : g ∈ q.m_QueuedGroups b (.premade team))
    (hteam : (q.group g).Team = team) : (moveRated b side q g).Consistent := by
  rw [moveRated_eq]
  split
  · next hne =>
    have hother : side.other = team := by
      rw [hteam] at hne
      cases side <;> cases team <;> simp_all [Team.other]
    rw [hother]
    refine hq.move hg ?_
    rintro hc
    exact other_ne side (hother.trans (QueueGroupType.premade.inj hc))
  · exact hq

/-- The teams found for a rated match wait in premade lists and are different teams. -/
theorem ratedTeams_spec (hq : q.Consistent) {arenaRating : UInt32} {h : GroupId} {s t : Team}
    (heq : q.ratedTeams config b arenaRating = some ((g, s), (h, t))) :
    (g ∈ q.m_QueuedGroups b (.premade s) ∧ q.isInvited g = false) ∧
      (h ∈ q.m_QueuedGroups b (.premade t) ∧ q.isInvited h = false) ∧ g ≠ h := by
  have hsuits : ∀ {x : GroupId}, q.suits config arenaRating x = true → q.isInvited x = false := by
    intro x hx
    rw [suits, Bool.and_eq_true] at hx
    simpa using hx.1
  have hfind : ∀ {team : Team} {x : GroupId},
      (q.m_QueuedGroups b (.premade team)).find? (q.suits config arenaRating) = some x →
        x ∈ q.m_QueuedGroups b (.premade team) ∧ q.isInvited x = false :=
    fun hx ↦ ⟨List.mem_of_find?_eq_some hx, hsuits (List.find?_some hx)⟩
  -- the second team of the same list
  have hsecond : ∀ {team : Team} {x : GroupId},
      (((q.m_QueuedGroups b (.premade team)).dropWhile fun y ↦ y != x).find? fun y ↦
        q.suits config arenaRating y && (q.group x).ArenaTeamId != (q.group y).ArenaTeamId).map
          (fun y ↦ ((x, team), (y, team))) = some ((g, s), (h, t)) →
        x = g ∧ s = team ∧ t = team ∧ (h ∈ q.m_QueuedGroups b (.premade team) ∧ q.isInvited h = false) ∧ g ≠ h := by
    intro team x hx
    obtain ⟨y, hy, hpair⟩ := Option.map_eq_some_iff.mp hx
    simp only [Prod.mk.injEq] at hpair
    obtain ⟨⟨rfl, rfl⟩, rfl, rfl⟩ := hpair
    have hmem := (List.dropWhile_sublist _).subset (List.mem_of_find?_eq_some hy)
    have hy := List.find?_some hy
    rw [Bool.and_eq_true] at hy
    refine ⟨rfl, rfl, rfl, ⟨hmem, hsuits hy.1⟩, ?_⟩
    rintro rfl
    exact absurd hy.2 (by simp)
  rw [ratedTeams] at heq
  split at heq
  · exact absurd heq (by simp)
  · next x hx _ =>
    obtain ⟨rfl, rfl, rfl, hh, hne⟩ := hsecond heq
    exact ⟨hfind hx, hh, hne⟩
  · next x _ hx =>
    obtain ⟨rfl, rfl, rfl, hh, hne⟩ := hsecond heq
    exact ⟨hfind hx, hh, hne⟩
  · next x y hx hy =>
    simp only [Option.some.injEq, Prod.mk.injEq] at heq
    obtain ⟨⟨rfl, rfl⟩, rfl, rfl⟩ := heq
    refine ⟨hfind hx, hfind hy, ?_⟩
    rintro rfl
    exact absurd (hq.unique (hfind hx).1 (hfind hy).1).2 (by simp)

/-- A rated match: both teams are moved to the side they play for, and invited. -/
theorem startRated_sound {h : GroupId} {s t : Team} (hq : q.Consistent)
    (hbut : q.TeamsMatchBut [h, g]) (hlive : ∀ x, x ∈ q.groups ↔ live x)
    (hg : g ∈ q.m_QueuedGroups b (.premade s)) (hgteam : (q.group g).Team = s)
    (hh : h ∈ q.m_QueuedGroups b (.premade t)) (hhteam : (q.group h).Team = t) (hne : g ≠ h)
    (config : BattlegroundConfig) (arena : BattlegroundInstance) :
    Sound live (((moveRated b .horde (moveRated b .alliance q g) h).InviteGroupToBG config g arena.1
      (some .alliance)).InviteGroupToBG config h arena.1 (some .horde)) := by
  have hfirst : (moveRated b .alliance q g).Consistent := hq.moveRated hg hgteam
  have hboth : (moveRated b .horde (moveRated b .alliance q g) h).Consistent := by
    refine hfirst.moveRated ((mem_moveRated_of_ne q b .alliance hne.symm b _).mpr hh) ?_
    rw [group, moveRated_groups]
    exact hhteam
  have hgroups : (moveRated b .horde (moveRated b .alliance q g) h).groups = q.groups := by
    simp [moveRated_groups]
  have hbut : (moveRated b .horde (moveRated b .alliance q g) h).TeamsMatchBut [h, g] :=
    (hbut.moveRated (by simp)).moveRated (by simp)
  have hswap : (moveRated b .horde (moveRated b .alliance q g) h).TeamsMatchBut [g, h] := by
    intro b' j x hx hxS
    exact hbut b' j x hx (by simpa [and_comm] using hxS)
  have hglive : g ∈ (moveRated b .horde (moveRated b .alliance q g) h).groups := hgroups ▸ hq.live hg
  have hhlive : h ∈ ((moveRated b .horde (moveRated b .alliance q g) h).InviteGroupToBG config g arena.1
      (some .alliance)).groups := by
    rw [mem_InviteGroupToBG, hgroups]
    exact hq.live hh
  refine ⟨(hboth.InviteGroupToBG ..).InviteGroupToBG .., ?_, fun x ↦ ?_⟩
  · have hnone := (hswap.InviteGroupToBG hglive config arena .alliance).InviteGroupToBG hhlive config
      arena .horde
    exact fun b' j x hx hinv ↦ hnone b' j x hx List.not_mem_nil hinv
  · rw [mem_InviteGroupToBG, mem_InviteGroupToBG, hgroups]
    exact hlive x

theorem setOpponents_team (q : BattlegroundQueue) (g x : GroupId) (opponents : GroupQueueInfo) :
    ((q.setOpponents g opponents).group x).Team = (q.group x).Team :=
  group_modifyGroup_field (·.Team) q g x (fun i ↦
      { i with
        OpponentsTeamRating := opponents.ArenaTeamRating
        OpponentsMatchmakerRating := opponents.ArenaMatchmakerRating }) fun _ ↦ rfl

theorem Consistent.setOpponents (hq : q.Consistent) (g : GroupId) (opponents : GroupQueueInfo) :
    (q.setOpponents g opponents).Consistent :=
  hq.modifyGroup g fun _ ↦ rfl

theorem Sound.updateRated (hq : Sound live q) (c : UpdateCall) : Sound live (q.updateRated c) := by
  rw [BattlegroundQueue.updateRated]
  split
  · exact hq
  · split
    · next g s h t arena hteams _ =>
      obtain ⟨⟨hg, hginv⟩, ⟨hh, hhinv⟩, hne⟩ := ratedTeams_spec hq.consistent hteams
      have hall : q.TeamsMatchBut [h, g] := fun b' j x hx _ ↦ hq.teams b' j x hx
      have hteam : ∀ x, (((q.setOpponents g (q.group h)).setOpponents h (q.group g)).group x).Team =
          (q.group x).Team := by
        intro x
        simp [setOpponents_team]
      refine startRated_sound ((hq.consistent.setOpponents ..).setOpponents ..)
        ((hall.modifyGroup (by simp) _).modifyGroup (by simp) _) (fun x ↦ ?_) hg ?_ hh ?_ hne ..
      · simp [setOpponents, mem_modifyGroup, hq.groups]
      · exact (hteam g).trans (hq.teams c.bracket_id (.premade s) g hg hginv)
      · exact (hteam h).trans (hq.teams c.bracket_id (.premade t) h hh hhinv)
    · exact hq

/-! ## The update and the other calls -/

theorem Sound.BattlegroundQueueUpdate (hq : Sound live q) {c : UpdateCall}
    (h : q.BattlegroundQueueUpdate c = some q') : Sound live q' := by
  rw [BattlegroundQueue.BattlegroundQueueUpdate] at h
  split at h
  · exact Option.some_inj.mp h ▸ hq
  · have hrunning : ∀ (l : List BattlegroundInstance) {q : BattlegroundQueue}, Sound live q →
        Sound live (l.foldl (BattlegroundQueue.fillRunning c) q) := by
      intro l
      induction l with
      | nil => exact id
      | cons bg l ih => exact fun hq ↦ ih (hq.fillRunning c bg)
    have hfilled := hrunning c.bgQueues hq
    generalize c.bgQueues.foldl (BattlegroundQueue.fillRunning c) q = q₁ at h hfilled
    dsimp only at h
    split at h
    · exact Option.some_inj.mp h ▸ hfilled
    · next bg _ =>
      have hinit := ((Frame.init q₁ .alliance).trans (Frame.init _ .horde)).sound hfilled
      generalize (q₁.init .alliance).init .horde = q₂ at h hinit
      generalize (teamSizes c bg).1 = minPlayers at h
      generalize (teamSizes c bg).2 = maxPlayers at h
      have hpremade : Sound live (if bg.isArena then (q₂, false)
          else q₂.CheckPremadeMatch c.config c.bracket_id minPlayers maxPlayers).1 := by
        split
        · exact hinit
        · exact hinit.CheckPremadeMatch
      generalize (if bg.isArena = true then (q₂, false)
        else q₂.CheckPremadeMatch c.config c.bracket_id minPlayers maxPlayers) = r at h hpremade
      split at h
      · exact Option.some_inj.mp h ▸ hpremade
      · next bg2 _ _ =>
        have hinvited := hpremade.invitePools c.config bg2
        have hinit := ((Frame.init _ .alliance).trans (Frame.init _ .horde)).sound hinvited
        split at h
        · exact hinit.updateNormal h
        · exact Option.some_inj.mp h ▸ hinit
      · split at h
        · exact hpremade.updateNormal h
        · split at h
          · exact Option.some_inj.mp h ▸ hpremade.updateRated c
          · exact Option.some_inj.mp h ▸ hpremade

theorem Consistent.sound (hq : q.Consistent) (ht : q.TeamsMatch) : Sound (· ∈ q.groups) q := ⟨hq, ht, fun _ ↦ Iff.rfl⟩

theorem next_consistent {call : Call} (hq : q.Consistent ∧ q.TeamsMatch)
    (h : next q call = some q') : q'.Consistent ∧ q'.TeamsMatch := by
  cases call with
  | AddGroup config r =>
    obtain ⟨⟨hleader, hnew⟩, h⟩ := Option.ite_none_right_eq_some.mp h
    rw [← Option.some_inj.mp h]
    exact ⟨hq.1.AddGroup hleader hnew, hq.2.AddGroup hq.1⟩
  | RemovePlayer guid =>
    rw [← Option.some_inj.mp h]
    exact removePlayerAux_consistent _ hq.1 hq.2
  | InviteGroupToBG config g bg side =>
    obtain ⟨-, h⟩ := Option.ite_none_right_eq_some.mp h
    rw [← Option.some_inj.mp h]
    exact ⟨hq.1.InviteGroupToBG .., hq.2.InviteGroupToBG config g bg side⟩
  | BattlegroundQueueUpdate c =>
    have hsound := (hq.1.sound hq.2).BattlegroundQueueUpdate h
    exact ⟨hsound.consistent, hsound.teams⟩

theorem consistent_of_reachable (h : battlegroundQueueMachine.Reachable q) : q.Consistent ∧ q.TeamsMatch :=
  h.invariant (P := fun q ↦ q.Consistent ∧ q.TeamsMatch) ⟨.new, .new⟩
    fun _ _ _ hq _ hn ↦ next_consistent hq hn

/-- An update moves groups, but each of them is in as many lists as before. -/
theorem occurrences_update (h : battlegroundQueueMachine.Reachable q) {c : UpdateCall}
    (hn : q.BattlegroundQueueUpdate c = some q') (g : GroupId) :
    q'.occurrences g = q.occurrences g := by
  obtain ⟨hq, ht⟩ := consistent_of_reachable h
  have hsound := (hq.sound ht).BattlegroundQueueUpdate hn
  simp [hsound.consistent.once, hq.once, hsound.groups]

/-- The books of a queue are in order. -/
structure Bookkept (q : BattlegroundQueue) : Prop where
  /-- Every group is in exactly one list, and there once. -/
  once : ∀ g ∈ q.groups, q.occurrences g = 1
  /-- The lists hold nothing but groups that exist. -/
  live : ∀ b j, ∀ g ∈ q.m_QueuedGroups b j, g ∈ q.groups
  /-- Every group has players. -/
  nonempty : ∀ (g : GroupId) (i : GroupQueueInfo), q.groups[g]? = some i → i.Players ≠ ∅
  /-- The entry of a player points to a group that exists, and the player is in it. -/
  entry : ∀ (guid : ObjectGuid) (entry : PlayerQueueInfo), q.m_QueuedPlayers[guid]? = some entry →
    ∃ i : GroupQueueInfo, q.groups[entry.GroupInfo]? = some i ∧ guid ∈ i.Players
  /-- A player of a group has an entry, and it points to this group. -/
  queued : ∀ (g : GroupId) (i : GroupQueueInfo), q.groups[g]? = some i → ∀ guid ∈ i.Players,
    ∃ entry : PlayerQueueInfo, q.m_QueuedPlayers[guid]? = some entry ∧ entry.GroupInfo = g

/-- **Consistency of the battleground queue.**  In every state reachable by groups that join, players
who leave, invitations and updates the books of the queue are in order, and the next update neither
loses a group nor duplicates one. -/
theorem queue_bookkept_of_reachable (h : battlegroundQueueMachine.Reachable q) :
    q.Bookkept ∧ ∀ c q', q.BattlegroundQueueUpdate c = some q' →
      ∀ g, q'.occurrences g = q.occurrences g := by
  obtain ⟨hq, -⟩ := consistent_of_reachable h
  refine ⟨⟨fun g hg ↦ ?_, fun b j g hg ↦ hq.live hg, fun g i hi ↦ ?_, fun guid e he ↦ ?_,
    fun g i hi guid hguid ↦ ?_⟩, fun c q' hn ↦ occurrences_update h hn⟩
  · rw [hq.once, if_pos hg]
  · exact (hq.nonempty g i hi).ne_empty
  · exact hq.group_of_entry he
  · exact Option.map_eq_some_iff.mp ((hq.entry guid g).mpr ⟨i, hi, hguid⟩)

/-- A server that mixes no factions. -/
def plainConfig : BattlegroundConfig where
  crossfactionEnabled := false
  invitationType := .noBalance
  premadeGroupWaitForMatch := 1800000
  isTesting := false
  isArenaTesting := false
  GetMaxRatingDifference := 150
  GetRatingDiscardTimer := 600000
  GetGameTimeMS := 1000000

/-- An arena for two against two. -/
def arena (id : ℕ) : Battleground where
  GetInstanceID := id
  GetTypeID := 4
  GetBracketId := 14
  GetStatus := 1
  GetMinPlayersPerTeam := 2
  GetMaxPlayersPerTeam := 2
  GetFreeSlotsForTeam _ := 2
  isArena := true
  isRated := true

/-- Two players of an arena team of the alliance join. -/
def arenaTeam (id : ℕ) (first second : ObjectGuid) : JoinRequest where
  leader := first
  team := .alliance
  grp := some [first, second]
  BgTypeId := 4
  bracketId := 14
  ArenaType := 2
  isRated := true
  isPremade := false
  ArenaRating := 1500
  MatchmakerRating := 1500
  arenateamid := id
  CFSTeam := 0

/-- Two teams of the alliance are paired for a rated match, one playing for the horde; then a player
leaves. -/
def twoTeams : List Call := [.AddGroup plainConfig (arenaTeam 1 1 2), .AddGroup plainConfig (arenaTeam 2 3 4),
    .BattlegroundQueueUpdate
      { config := plainConfig, bgTypeId := 4, bracket_id := 14, arenaType := 2, isRated := true
        arenaRating := 1500, bgQueues := [], bg_template := some (arena 0)
        premadeBattleground := none, newBattleground := some ⟨arena 7, by decide⟩ },
    .RemovePlayer 3]

theorem bookkept_twoTeams : ∃ q, battlegroundQueueMachine.exec (fun _ _ ↦ True) new twoTeams = some q ∧
      q.m_QueuedGroups 14 (.premade .alliance) = [0] ∧ q.m_QueuedGroups 14 (.premade .horde) = [1] ∧
      q.Bookkept :=
  ⟨_, rfl, by decide +kernel, by decide +kernel,
    (queue_bookkept_of_reachable (Machine.reaches_of_exec twoTeams rfl)).1⟩

end BattlegroundQueue

end Gundrak
