import Gundrak.Groups.RollTally

/-!
# What becomes of an item that is rolled for

`CountTheRoll` ends a roll.  It has three sections: the players who need the item draw numbers, then those
who are greedy or want it disenchanted, and last the item is given free.  Which of them are entered is
decided by the counters of the roll, and the first two sections change these on their way: a player who
is offline or on another map is taken off the counter, and when nobody is left the counter is set to 0.

`RollResult` is what can become of the item, and `Justified` says when a result is due: it goes to a player
with the highest number among those who are there, the ones who need it first.
**`CountTheRoll_outcome`** says that for a tallied roll there is exactly one result that is due and is
what `CountTheRoll` does.  So no two sections give the item away, and it does not stay blocked.
-/

open Std (ExtTreeMap)

namespace Gundrak.Looting

/-! ## The end of a roll -/

/-- A player who is connected when a roll ends. -/
structure RollPlayer where
  IsInWorld : Bool
  FindMap : Option ℕ
  /-- whether `CanStoreNewItem` finds room for the item -/
  canStore : Bool

/-- The players that `FindConnectedPlayer` finds. -/
abbrev ConnectedPlayers := ObjectGuid → Option RollPlayer

/-- `ObjectAccessor::FindPlayer`. -/
def ConnectedPlayers.FindPlayer (connected : ConnectedPlayers) (guid : ObjectGuid) : Option RollPlayer :=
  (connected guid).filter RollPlayer.IsInWorld

/-- Whether a player who has voted draws a number. -/
def ConnectedPlayers.draws (connected : ConnectedPlayers) (allowedMap : Option ℕ) (guid : ObjectGuid) :
    Bool :=
  match connected.FindPlayer guid with
  | none => false
  | some player => !(allowedMap.isSome && player.FindMap != allowedMap)

namespace Loot

variable (loot : Loot)

/-- The item that the slot of a roll names. -/
def itemAt (itemSlot : UInt8) : Option LootItem :=
  if itemSlot.toNat ≥ loot.items.length then loot.quest_items[itemSlot.toNat - loot.items.length]?
  else loot.items[itemSlot.toNat]?

/-- Change the item that the slot of a roll names. -/
def modifyAt (itemSlot : UInt8) (f : LootItem → LootItem) : Loot :=
  if itemSlot.toNat ≥ loot.items.length then
    { loot with quest_items := loot.quest_items.modify (itemSlot.toNat - loot.items.length) f }
  else { loot with items := loot.items.modify itemSlot.toNat f }

/-- The item is marked looted, and counted off. -/
def markLooted (itemSlot : UInt8) : Loot :=
  { loot.modifyAt itemSlot fun item ↦ { item with is_looted := true } with
    unlootedCount := loot.unlootedCount - 1 }

/-- The item is kept for a player. -/
def reserve (itemSlot : UInt8) (guid : ObjectGuid) : Loot :=
  loot.modifyAt itemSlot fun item ↦ { item with is_blocked := false, rollWinnerGUID := guid }

/-- The item is free for everybody. -/
def unblock (itemSlot : UInt8) : Loot := loot.modifyAt itemSlot fun item ↦ { item with is_blocked := false }

end Loot

/-- The local variables of a loop through the votes, with the counter that it changes, and how many numbers
have been drawn. -/
structure RollLoop where
  maxresul : UInt8
  maxguid : ObjectGuid
  rollvote : RollVote
  total : UInt8
  drawn : ℕ

/-- One pass of the loop, for the votes that `counts` tells.  `urand n` is one less than the number that is
drawn after `n` others. -/
def RollLoop.pass (counts : RollVote → Bool) (draws : ObjectGuid → Bool) (urand : ℕ → Fin 100)
    (s : RollLoop) (entry : ObjectGuid × RollVote) : RollLoop :=
  if !counts entry.2 then s
  else if !draws entry.1 then { s with total := s.total - 1 }
  else
    let randomN := UInt8.ofNat ((urand s.drawn).val + 1)
    if s.maxresul < randomN then ⟨randomN, entry.1, entry.2, s.total, s.drawn + 1⟩
    else { s with drawn := s.drawn + 1 }

/-- Where `CountTheRoll` is: the counters, the loot, and what it has done for players, which are the calls
of `StoreNewItem` with an item and its count, and the items disenchanted, with whether the result is
sent by mail. -/
structure RollEnd where
  totalNeed : UInt8
  totalGreed : UInt8
  drawn : ℕ
  loot : Loot
  storeNewItem : List (ObjectGuid × ℕ × ℕ)
  disenchant : List (ObjectGuid × Bool)

namespace RollEnd

variable (c : RollEnd) (roll : Roll) (connected : ConnectedPlayers) (allowedMap : Option ℕ)
  (urand : ℕ → Fin 100)

/-- The winner gets the item, or it is kept for him if he has no room. -/
def award (maxguid : ObjectGuid) (player : RollPlayer) : RollEnd :=
  match c.loot.itemAt roll.itemSlot with
  | none => c
  | some item =>
    if player.canStore then
      { c with
        loot := c.loot.markLooted roll.itemSlot
        storeNewItem := c.storeNewItem ++ [(maxguid, roll.itemid, item.count)] }
    else { c with loot := c.loot.reserve roll.itemSlot maxguid }

/-- The winner gets what the item is disenchanted to. -/
def disenchantFor (maxguid : ObjectGuid) (player : RollPlayer) : RollEnd :=
  { c with
    loot := c.loot.markLooted roll.itemSlot
    disenchant := c.disenchant ++ [(maxguid, !player.canStore)] }

/-- The section about the players who need the item. -/
def needSection : RollEnd :=
  if 0 < c.totalNeed then
    if roll.playerVote.isEmpty then c
    else
      let s := roll.playerVote.toList.foldl
        (RollLoop.pass (· == .NEED) (connected.draws allowedMap) urand)
        ⟨0, ObjectGuid.Empty, .NOT_VALID, c.totalNeed, c.drawn⟩
      let c := { c with totalNeed := s.total, drawn := s.drawn }
      if s.maxguid ≠ ObjectGuid.Empty then
        match connected s.maxguid with
        | none => c
        | some player => c.award roll s.maxguid player
      else { c with totalNeed := 0 }
  else c

/-- The section about the players who are greedy or want to disenchant the item. -/
def greedSection : RollEnd :=
  if c.totalNeed = 0 ∧ 0 < c.totalGreed then
    if roll.playerVote.isEmpty then c
    else
      let s := roll.playerVote.toList.foldl
        (RollLoop.pass Roll.isGreed (connected.draws allowedMap) urand)
        ⟨0, ObjectGuid.Empty, .NOT_VALID, c.totalGreed, c.drawn⟩
      let c := { c with totalGreed := s.total, drawn := s.drawn }
      if s.maxguid ≠ ObjectGuid.Empty then
        match connected s.maxguid with
        | none => c
        | some player =>
          if s.rollvote = .GREED then c.award roll s.maxguid player
          else if s.rollvote = .DISENCHANT then c.disenchantFor roll s.maxguid player
          else c
      else { c with totalGreed := 0 }
  else c

/-- The section for the case that everybody has passed. -/
def passSection : RollEnd :=
  if c.totalNeed = 0 ∧ c.totalGreed = 0 then { c with loot := c.loot.unblock roll.itemSlot } else c

end RollEnd

/-- `Group::CountTheRoll`, without the removal of the roll; `none` when the loot has been deleted. -/
def CountTheRoll (roll : Roll) (loot : Option Loot) (connected : ConnectedPlayers)
    (allowedMap : Option ℕ) (urand : ℕ → Fin 100) : Option RollEnd :=
  match loot with
  | none => none
  | some loot =>
    let c : RollEnd := ⟨roll.totalNeed, roll.totalGreed, 0, loot, [], []⟩
    let c := c.needSection roll connected allowedMap urand
    let c := c.greedSection roll connected allowedMap urand
    some (c.passSection roll)

/-! ## What is claimed -/

/-- What becomes of an item that is rolled for. -/
inductive RollResult where
  | stored (guid : ObjectGuid)
  | reserved (guid : ObjectGuid)
  | disenchanted (guid : ObjectGuid) (byMail : Bool)
  | unblocked

namespace RollResult

variable (roll : Roll) (loot : Loot)

/-- The loot afterwards. -/
def loot' : RollResult → Loot
  | stored _ => loot.markLooted roll.itemSlot
  | reserved guid => loot.reserve roll.itemSlot guid
  | disenchanted _ _ => loot.markLooted roll.itemSlot
  | unblocked => loot.unblock roll.itemSlot

/-- The items that players get. -/
def storeNewItem : RollResult → List (ObjectGuid × ℕ × ℕ)
  | stored guid => ((loot.itemAt roll.itemSlot).map fun item ↦ (guid, roll.itemid, item.count)).toList
  | _ => []

/-- The players the item is disenchanted for. -/
def disenchant : RollResult → List (ObjectGuid × Bool)
  | disenchanted guid byMail => [(guid, byMail)]
  | _ => []

/-- Whether the item is marked looted. -/
def looted : RollResult → Bool
  | stored _ | disenchanted _ _ => true
  | reserved _ | unblocked => false

end RollResult

/-- The players with a vote of some kind who draw a number, in the order in which they do. -/
def Roll.drawers (roll : Roll) (counts : RollVote → Bool) (draws : ObjectGuid → Bool) :
    List (ObjectGuid × RollVote) :=
  roll.playerVote.toList.filter fun entry ↦ counts entry.2 && draws entry.1

/-- The players who may win: those who need the item, or if none of these is there, those who are greedy or
want to disenchant it. -/
def Roll.contenders (roll : Roll) (draws : ObjectGuid → Bool) : List (ObjectGuid × RollVote) :=
  if roll.drawers (· == .NEED) draws = [] then roll.drawers Roll.isGreed draws
  else roll.drawers (· == .NEED) draws

/-- An entry of a list that has the highest of the numbers drawn for it. -/
def Wins (urand : ℕ → Fin 100) (contenders : List (ObjectGuid × RollVote)) (guid : ObjectGuid)
    (vote : RollVote) : Prop :=
  ∃ k, contenders[k]? = some (guid, vote) ∧ ∀ j < contenders.length, urand j ≤ urand k

/-- The results that are due, with the players connected and the numbers drawn. -/
def RollResult.Justified (roll : Roll) (connected : ConnectedPlayers) (allowedMap : Option ℕ)
    (urand : ℕ → Fin 100) : RollResult → Prop
  | stored guid => ∃ vote player, Wins urand (roll.contenders (connected.draws allowedMap)) guid vote ∧
      vote ≠ .DISENCHANT ∧ connected guid = some player ∧ player.canStore = true
  | reserved guid => ∃ vote player, Wins urand (roll.contenders (connected.draws allowedMap)) guid vote ∧
      vote ≠ .DISENCHANT ∧ connected guid = some player ∧ player.canStore = false
  | disenchanted guid byMail => ∃ player, Wins urand (roll.contenders (connected.draws allowedMap)) guid .DISENCHANT ∧
        connected guid = some player ∧ byMail = !player.canStore
  | unblocked => roll.contenders (connected.draws allowedMap) = []

/-- What `CountTheRoll` has done is what the result says. -/
structure RollEnd.Is (c : RollEnd) (roll : Roll) (loot : Loot) (result : RollResult) : Prop where
  loot_eq : c.loot = result.loot' roll loot
  storeNewItem_eq : c.storeNewItem = result.storeNewItem roll loot
  disenchant_eq : c.disenchant = result.disenchant

/-! ## The loop through the votes -/

theorem toNat_urand (urand : ℕ → Fin 100) (n : ℕ) : (UInt8.ofNat ((urand n).val + 1)).toNat = (urand n).val + 1 := by
  have hlt := (urand n).isLt
  rw [UInt8.toNat_ofNat']
  omega

theorem Roll.votes_eq_countP (roll : Roll) (p : RollVote → Bool) :
    roll.votes p = roll.playerVote.toList.countP fun entry ↦ p entry.2 := by
  unfold votes TreeMap.total
  induction roll.playerVote.toList with
  | nil => rfl
  | cons entry rest ih =>
    rw [List.map_cons, List.sum_cons, List.countP_cons, ih]
    exact Nat.add_comm _ _

namespace RollLoop

variable {counts : RollVote → Bool} {draws : ObjectGuid → Bool} {urand : ℕ → Fin 100}

/-- What the loop makes of `s`, when `counted` players have a vote that counts and `drawers` are those of
them who are there: these are left on the counter, and one of these with the highest number is
remembered, if this is higher than the one the loop started with. -/
structure Looped (urand : ℕ → Fin 100) (counted : ℕ) (drawers : List (ObjectGuid × RollVote))
    (s s' : RollLoop) : Prop where
  total : s'.total.toNat + counted = s.total.toNat + drawers.length
  drawn : s'.drawn = s.drawn + drawers.length
  le_maxresul : s.maxresul.toNat ≤ s'.maxresul.toNat
  highest : ∀ j < drawers.length, (urand (s.drawn + j)).val + 1 ≤ s'.maxresul.toNat
  winner : s' = { s with total := s'.total, drawn := s'.drawn } ∨
    ∃ k, drawers[k]? = some (s'.maxguid, s'.rollvote) ∧ s'.maxresul.toNat = (urand (s.drawn + k)).val + 1

theorem foldl_pass (votes : List (ObjectGuid × RollVote)) (s : RollLoop)
    (htotal : votes.countP (fun entry ↦ counts entry.2) ≤ s.total.toNat) :
    Looped urand (votes.countP fun entry ↦ counts entry.2) (votes.filter fun entry ↦ counts entry.2 && draws entry.1) s
      (votes.foldl (pass counts draws urand) s) := by
  induction votes generalizing s with
  | nil => exact ⟨rfl, rfl, le_rfl, by simp, .inl rfl⟩
  | cons entry rest ih =>
    rw [List.foldl_cons]
    rw [List.countP_cons] at htotal ⊢
    cases hcounts : counts entry.2 with
    | false =>
      have hpass : pass counts draws urand s entry = s := by
        simp [pass, hcounts]
      rw [hcounts, if_neg (by simp), add_zero] at htotal
      rw [hpass, List.filter_cons_of_neg (by simp [hcounts]), if_neg (by simp), add_zero]
      exact ih s htotal
    | true =>
      rw [hcounts, if_pos rfl] at htotal
      rw [if_pos rfl]
      cases hdraws : draws entry.1 with
      | false =>
        have hpass : pass counts draws urand s entry = { s with total := s.total - 1 } := by
          simp [pass, hcounts, hdraws]
        have hsub : (s.total - 1).toNat + 1 = s.total.toNat := Roll.toNat_sub_one (by omega)
        obtain ⟨htotal', hdrawn, hmax, hall, hbest⟩ :=
          ih { s with total := s.total - 1 } (by show _ ≤ (s.total - 1).toNat; omega)
        rw [hpass, List.filter_cons_of_neg (by simp [hdraws])]
        refine ⟨?_, hdrawn, hmax, hall, hbest⟩
        have htotal' : _ = (s.total - 1).toNat + _ := htotal'
        omega
      | true =>
        rw [List.filter_cons_of_pos (by simp [hcounts, hdraws])]
        generalize rest.filter (fun entry ↦ counts entry.2 && draws entry.1) = drawers at ih ⊢
        have hlength : (entry :: drawers).length = drawers.length + 1 := rfl
        by_cases hlt : s.maxresul < UInt8.ofNat ((urand s.drawn).val + 1)
        · have hpass : pass counts draws urand s entry =
              ⟨UInt8.ofNat ((urand s.drawn).val + 1), entry.1, entry.2, s.total, s.drawn + 1⟩ := by
            rw [pass, hcounts, hdraws]
            exact if_pos hlt
          have hlt := UInt8.lt_iff_toNat_lt.mp hlt
          rw [toNat_urand] at hlt
          obtain ⟨htotal', hdrawn, hmax, hall, hbest⟩ := ih ⟨UInt8.ofNat ((urand s.drawn).val + 1),
            entry.1, entry.2, s.total, s.drawn + 1⟩ (by show _ ≤ s.total.toNat; omega)
          dsimp only at htotal' hdrawn hmax hall hbest
          rw [toNat_urand] at hmax
          rw [hpass]
          refine ⟨by omega, by omega, by omega, fun j hj ↦ ?_, .inr ?_⟩
          · cases j with
            | zero => exact hmax
            | succ j =>
              have hle := hall j (by omega)
              rwa [show s.drawn + (j + 1) = s.drawn + 1 + j by omega]
          · rcases hbest with hbest | ⟨k, hk, hbest⟩
            · refine ⟨0, ?_, ?_⟩
              · rw [List.getElem?_cons_zero, hbest]
              · rw [hbest, add_zero]
                exact toNat_urand urand s.drawn
            · refine ⟨k + 1, by rw [List.getElem?_cons_succ, hk], ?_⟩
              rwa [show s.drawn + (k + 1) = s.drawn + 1 + k by omega]
        · have hpass : pass counts draws urand s entry = { s with drawn := s.drawn + 1 } := by
            rw [pass, hcounts, hdraws]
            exact if_neg hlt
          have hle := UInt8.le_iff_toNat_le.mp (UInt8.not_lt.mp hlt)
          rw [toNat_urand] at hle
          obtain ⟨htotal', hdrawn, hmax, hall, hbest⟩ := ih { s with drawn := s.drawn + 1 }
            (by show _ ≤ s.total.toNat; omega)
          dsimp only at htotal' hdrawn hmax hall hbest
          rw [hpass]
          refine ⟨by omega, by omega, hmax, fun j hj ↦ ?_, ?_⟩
          · cases j with
            | zero => exact hle.trans hmax
            | succ j =>
              have hle := hall j (by omega)
              rwa [show s.drawn + (j + 1) = s.drawn + 1 + j by omega]
          · rcases hbest with hbest | ⟨k, hk, hbest⟩
            · exact .inl hbest
            · refine .inr ⟨k + 1, by rw [List.getElem?_cons_succ, hk], ?_⟩
              rwa [show s.drawn + (k + 1) = s.drawn + 1 + k by omega]

variable {roll : Roll} {connected : ConnectedPlayers} {allowedMap : Option ℕ} {total : UInt8}

/-- The loop of a section, when the counter is right: nobody is found if nobody is there, and else a winner
among those who are. -/
theorem foldl_pass_roll (htotal : total.toNat = roll.votes counts)
    (hempty : ObjectGuid.Empty ∉ roll.playerVote) {s : RollLoop}
    (hs : s = roll.playerVote.toList.foldl (pass counts (connected.draws allowedMap) urand)
      ⟨0, ObjectGuid.Empty, .NOT_VALID, total, 0⟩) :
    (roll.drawers counts (connected.draws allowedMap) = [] → s.maxguid = ObjectGuid.Empty ∧ s.drawn = 0) ∧
      (roll.drawers counts (connected.draws allowedMap) ≠ [] →
        s.maxguid ≠ ObjectGuid.Empty ∧ 0 < s.total ∧ counts s.rollvote = true ∧
          Wins urand (roll.drawers counts (connected.draws allowedMap)) s.maxguid s.rollvote ∧
          ∃ player, connected s.maxguid = some player) := by
  have hcounted := roll.votes_eq_countP counts
  have hloop : Looped urand _ (roll.drawers counts (connected.draws allowedMap))
      ⟨0, ObjectGuid.Empty, .NOT_VALID, total, 0⟩ s :=
    hs ▸ foldl_pass _ _ (by show _ ≤ total.toNat; omega)
  obtain ⟨htotal', hdrawn, -, hhighest, hwinner⟩ := hloop
  dsimp only at htotal' hdrawn hhighest hwinner
  constructor
  · intro hnone
    rw [hnone] at hdrawn hwinner
    rcases hwinner with hwinner | ⟨k, hk, -⟩
    · exact ⟨by rw [hwinner], hdrawn⟩
    · cases hk
  · intro hsome
    have hlength := List.length_pos_of_ne_nil hsome
    have hzero := hhighest 0 hlength
    rcases hwinner with hwinner | ⟨k, hk, hmax⟩
    · rw [hwinner] at hzero
      exact absurd hzero (by simp)
    · obtain ⟨hmem, hentry⟩ := List.mem_filter.mp (List.mem_of_getElem? hk)
      obtain ⟨hcounts, hdraws⟩ := (Bool.and_eq_true _ _).mp hentry
      have hget := ExtTreeMap.mem_toList_iff_getElem?_eq_some.mp hmem
      refine ⟨fun hguid ↦ hempty ?_, UInt8.lt_iff_toNat_lt.mpr ?_, hcounts, ⟨k, hk, fun j hj ↦ ?_⟩, ?_⟩
      · rw [← hguid]
        exact (TreeMap.mem_iff _ _).mpr ⟨_, hget⟩
      · show 0 < s.total.toNat
        omega
      · have hle := hhighest j hj
        rw [hmax, zero_add, zero_add] at hle
        exact Fin.le_def.mpr (by omega)
      · unfold ConnectedPlayers.draws ConnectedPlayers.FindPlayer at hdraws
        dsimp only at hdraws
        cases hplayer : connected s.maxguid with
        | none =>
          simp [hplayer] at hdraws
        | some player => exact ⟨player, rfl⟩

end RollLoop

/-! ## The sections -/

section

variable {roll : Roll} {counts : RollVote → Bool}

theorem Roll.not_isEmpty_of_votes (h : 0 < roll.votes counts) : ¬ roll.playerVote.isEmpty = true := by
  intro hempty
  have hle := roll.votes_le_size counts
  have hsize : roll.playerVote.size = 0 := by
    rw [ExtTreeMap.isEmpty_iff.mp hempty]
    simp
  omega

theorem Roll.drawers_of_votes (h : roll.votes counts = 0)
    (draws : ObjectGuid → Bool) : roll.drawers counts draws = [] := by
  rw [votes_eq_countP, List.countP_eq_zero] at h
  rw [drawers, List.filter_eq_nil_iff]
  intro entry hentry
  simp [h entry hentry]

theorem Roll.votes_pos_of_drawers {draws : ObjectGuid → Bool}
    (h : roll.drawers counts draws ≠ []) : 0 < roll.votes counts := by
  rcases Nat.eq_zero_or_pos (roll.votes counts) with hzero | hpos
  · exact absurd (Roll.drawers_of_votes hzero draws) h
  · exact hpos

end

theorem eq_zero_of_not_pos {x : UInt8} (h : ¬ 0 < x) : x = 0 := by
  rw [UInt8.lt_iff_toNat_lt] at h
  exact UInt8.toNat_inj.mp (Nat.eq_zero_of_not_pos h)

theorem pos_iff_of_toNat_eq {x : UInt8} {n : ℕ} (h : x.toNat = n) : 0 < x ↔ 0 < n := by
  rw [UInt8.lt_iff_toNat_lt, h]
  rfl

namespace RollEnd

variable {c : RollEnd} {roll : Roll} {connected : ConnectedPlayers} {allowedMap : Option ℕ}
  {urand : ℕ → Fin 100}

section need

variable (ht : c.totalNeed.toNat = roll.votes (· == .NEED)) (hdrawn : c.drawn = 0)
  (hempty : ObjectGuid.Empty ∉ roll.playerVote)
include ht hdrawn hempty

/-- When nobody who needs the item is there, the first section only sets the counter to 0. -/
theorem needSection_of_nil (h : roll.drawers (· == .NEED) (connected.draws allowedMap) = []) :
    c.needSection roll connected allowedMap urand = { c with totalNeed := 0 } := by
  unfold needSection
  by_cases hpos : 0 < c.totalNeed
  · rw [if_pos hpos, if_neg (Roll.not_isEmpty_of_votes ((pos_iff_of_toNat_eq ht).mp hpos)), hdrawn]
    generalize hs : roll.playerVote.toList.foldl _ _ = s
    obtain ⟨hguid, hdrawn'⟩ := (RollLoop.foldl_pass_roll ht hempty hs.symm).1 h
    rw [if_neg (not_not_intro hguid), hdrawn', ← hdrawn]
  · have hzero := eq_zero_of_not_pos hpos
    rw [if_neg hpos, ← hzero]

variable (urand) in
/-- Otherwise a winner is found and the counter is not 0 afterwards. -/
theorem needSection_of_ne_nil (h : roll.drawers (· == .NEED) (connected.draws allowedMap) ≠ []) :
    ∃ guid player total drawn, 0 < total ∧ connected guid = some player ∧
      Wins urand (roll.drawers (· == .NEED) (connected.draws allowedMap)) guid .NEED ∧
      c.needSection roll connected allowedMap urand =
        award { c with totalNeed := total, drawn := drawn } roll guid player := by
  have hvotes := Roll.votes_pos_of_drawers h
  unfold needSection
  rw [if_pos ((pos_iff_of_toNat_eq ht).mpr hvotes), if_neg (Roll.not_isEmpty_of_votes hvotes), hdrawn]
  generalize hs : roll.playerVote.toList.foldl _ _ = s
  obtain ⟨hguid, htotal, hvote, hwins, player, hplayer⟩ := (RollLoop.foldl_pass_roll ht hempty hs.symm).2 h
  refine ⟨s.maxguid, player, s.total, s.drawn, htotal, hplayer, ?_, ?_⟩
  · rwa [beq_iff_eq.mp hvote] at hwins
  · rw [if_pos hguid, hplayer]

end need

section greed

variable (hneed : c.totalNeed = 0) (ht : c.totalGreed.toNat = roll.votes Roll.isGreed)
  (hdrawn : c.drawn = 0) (hempty : ObjectGuid.Empty ∉ roll.playerVote)
include hneed ht hdrawn hempty

/-- When nobody who is greedy is there either, the second section only sets its counter to 0. -/
theorem greedSection_of_nil (h : roll.drawers Roll.isGreed (connected.draws allowedMap) = []) :
    c.greedSection roll connected allowedMap urand = { c with totalGreed := 0 } := by
  unfold greedSection
  by_cases hpos : 0 < c.totalGreed
  · rw [if_pos ⟨hneed, hpos⟩, if_neg (Roll.not_isEmpty_of_votes ((pos_iff_of_toNat_eq ht).mp hpos)), hdrawn]
    generalize hs : roll.playerVote.toList.foldl _ _ = s
    obtain ⟨hguid, hdrawn'⟩ := (RollLoop.foldl_pass_roll ht hempty hs.symm).1 h
    rw [if_neg (not_not_intro hguid), hdrawn', ← hdrawn]
  · have hzero := eq_zero_of_not_pos hpos
    simp [← hzero]

variable (urand) in
/-- Otherwise a winner is found, who gets the item or what it is disenchanted to. -/
theorem greedSection_of_ne_nil (h : roll.drawers Roll.isGreed (connected.draws allowedMap) ≠ []) :
    ∃ guid vote player total drawn, 0 < total ∧ connected guid = some player ∧
      Wins urand (roll.drawers Roll.isGreed (connected.draws allowedMap)) guid vote ∧
      (vote = .GREED ∧ c.greedSection roll connected allowedMap urand =
          award { c with totalGreed := total, drawn := drawn } roll guid player ∨
        vote = .DISENCHANT ∧ c.greedSection roll connected allowedMap urand =
          disenchantFor { c with totalGreed := total, drawn := drawn } roll guid player) := by
  have hvotes := Roll.votes_pos_of_drawers h
  unfold greedSection
  rw [if_pos ⟨hneed, (pos_iff_of_toNat_eq ht).mpr hvotes⟩, if_neg (Roll.not_isEmpty_of_votes hvotes), hdrawn]
  generalize hs : roll.playerVote.toList.foldl _ _ = s
  obtain ⟨hguid, htotal, hvote, hwins, player, hplayer⟩ := (RollLoop.foldl_pass_roll ht hempty hs.symm).2 h
  refine ⟨s.maxguid, s.rollvote, player, s.total, s.drawn, htotal, hplayer, hwins, ?_⟩
  rw [if_pos hguid, hplayer]
  unfold Roll.isGreed at hvote
  rcases (Bool.or_eq_true _ _).mp hvote with hvote | hvote
  · have hvote := beq_iff_eq.mp hvote
    exact .inl ⟨hvote, if_pos hvote⟩
  · have hvote := beq_iff_eq.mp hvote
    refine .inr ⟨hvote, ?_⟩
    rw [hvote]
    rfl

end greed

/-- After a winner among those who need the item, the second section is not entered. -/
theorem greedSection_of_pos (h : 0 < c.totalNeed) : c.greedSection roll connected allowedMap urand = c := by
  unfold greedSection
  refine if_neg fun hboth ↦ ?_
  simp [hboth.1] at h

theorem passSection_of_pos (h : 0 < c.totalNeed ∨ 0 < c.totalGreed) : c.passSection roll = c := by
  unfold passSection
  refine if_neg fun hboth ↦ ?_
  simp [hboth.1, hboth.2] at h

@[simp] theorem award_totalNeed (c : RollEnd) (guid : ObjectGuid) (player : RollPlayer) :
    (c.award roll guid player).totalNeed = c.totalNeed := by
  unfold award
  split
  · rfl
  · split_ifs <;> rfl

@[simp] theorem award_totalGreed (c : RollEnd) (guid : ObjectGuid) (player : RollPlayer) :
    (c.award roll guid player).totalGreed = c.totalGreed := by
  unfold award
  split
  · rfl
  · split_ifs <;> rfl

variable {loot : Loot} {item : LootItem} {guid : ObjectGuid} {player : RollPlayer}

theorem award_is (hitem : loot.itemAt roll.itemSlot = some item) (hloot : c.loot = loot)
    (hstore : c.storeNewItem = []) (hdisenchant : c.disenchant = []) :
    (c.award roll guid player).Is roll loot (if player.canStore = true then .stored guid else .reserved guid) := by
  unfold award
  rw [hloot, hitem, hstore]
  split_ifs
  · exact ⟨rfl, by simp [RollResult.storeNewItem, hitem], hdisenchant⟩
  · exact ⟨rfl, rfl, hdisenchant⟩

theorem disenchantFor_is (hloot : c.loot = loot) (hstore : c.storeNewItem = []) (hdisenchant : c.disenchant = []) :
    (c.disenchantFor roll guid player).Is roll loot (.disenchanted guid !player.canStore) := by
  unfold disenchantFor
  rw [hloot, hdisenchant]
  exact ⟨rfl, hstore, rfl⟩

end RollEnd

/-! ## The outcome -/

namespace Loot

variable (loot : Loot) (itemSlot : UInt8)

theorem itemAt_modifyAt (f : LootItem → LootItem) :
    (loot.modifyAt itemSlot f).itemAt itemSlot = (loot.itemAt itemSlot).map f := by
  unfold itemAt modifyAt
  by_cases hquest : itemSlot.toNat ≥ loot.items.length
  · simp [hquest]
  · rw [if_neg hquest, if_neg hquest, if_neg (by rwa [List.length_modify]), List.getElem?_modify_eq]
    rfl

theorem unlootedCount_modifyAt (f : LootItem → LootItem) :
    (loot.modifyAt itemSlot f).unlootedCount = loot.unlootedCount := by
  unfold modifyAt
  split_ifs <;> rfl

theorem itemAt_markLooted : (loot.markLooted itemSlot).itemAt itemSlot =
      (loot.itemAt itemSlot).map fun item ↦ { item with is_looted := true } :=
  loot.itemAt_modifyAt itemSlot _

end Loot

namespace RollResult

variable {roll : Roll} {loot : Loot} {connected : ConnectedPlayers} {allowedMap : Option ℕ}
  {urand : ℕ → Fin 100} {result other : RollResult} {c : RollEnd} {item : LootItem}

theorem wins_ne_nil {contenders : List (ObjectGuid × RollVote)} {guid : ObjectGuid} {vote : RollVote}
    (h : Wins urand contenders guid vote) : contenders ≠ [] := by
  rintro rfl
  obtain ⟨k, hk, -⟩ := h
  cases hk

theorem storeNewItem_stored (hitem : loot.itemAt roll.itemSlot = some item) (guid : ObjectGuid) :
    (stored guid).storeNewItem roll loot = [(guid, roll.itemid, item.count)] := by
  rw [storeNewItem, hitem]
  rfl

theorem eq_of_is (hitem : loot.itemAt roll.itemSlot = some item)
    (hresult : Justified roll connected allowedMap urand result)
    (hother : Justified roll connected allowedMap urand other) (his : c.Is roll loot result)
    (his' : c.Is roll loot other) : result = other := by
  have hstore := his.storeNewItem_eq.symm.trans his'.storeNewItem_eq
  have hdisenchant := his.disenchant_eq.symm.trans his'.disenchant_eq
  have hloot := congrArg (Loot.itemAt · roll.itemSlot) (his.loot_eq.symm.trans his'.loot_eq)
  have hfree {vote : RollVote} {guid : ObjectGuid}
      (h : Wins urand (roll.contenders (connected.draws allowedMap)) guid vote) :
      ¬ Justified roll connected allowedMap urand .unblocked := wins_ne_nil h
  cases result with
  | stored guid =>
    cases other with
    | stored guid' =>
      rw [storeNewItem_stored hitem, storeNewItem_stored hitem] at hstore
      simp only [List.cons.injEq, Prod.mk.injEq] at hstore
      rw [hstore.1.1]
    | _ =>
      rw [storeNewItem_stored hitem] at hstore
      cases hstore
  | reserved guid =>
    cases other with
    | stored guid' =>
      rw [storeNewItem_stored hitem] at hstore
      cases hstore
    | reserved guid' =>
      rw [loot', loot', Loot.reserve, Loot.reserve] at hloot
      rw [Loot.itemAt_modifyAt, Loot.itemAt_modifyAt, hitem] at hloot
      simp only [Option.map_some, Option.some_inj, LootItem.mk.injEq] at hloot
      rw [hloot.2.2.2.2.1]
    | disenchanted guid' byMail => cases hdisenchant
    | unblocked =>
      obtain ⟨vote, player, hwins, -⟩ := hresult
      exact absurd hother (hfree hwins)
  | disenchanted guid byMail =>
    cases other with
    | disenchanted guid' byMail' =>
      rw [disenchant, disenchant] at hdisenchant
      simp only [List.cons.injEq, Prod.mk.injEq] at hdisenchant
      rw [hdisenchant.1.1, hdisenchant.1.2]
    | _ => cases hdisenchant
  | unblocked =>
    cases other with
    | stored guid' =>
      rw [storeNewItem_stored hitem] at hstore
      cases hstore
    | reserved guid' =>
      obtain ⟨vote, player, hwins, -⟩ := hother
      exact absurd hresult (hfree hwins)
    | disenchanted guid' byMail => cases hdisenchant
    | unblocked => rfl

end RollResult

theorem exists_justified {roll : Roll} {loot : Loot} (connected : ConnectedPlayers)
    (allowedMap : Option ℕ) (urand : ℕ → Fin 100) (ht : roll.Tallied)
    (hempty : ObjectGuid.Empty ∉ roll.playerVote) {item : LootItem}
    (hitem : loot.itemAt roll.itemSlot = some item) :
    ∃ c result, CountTheRoll roll (some loot) connected allowedMap urand = some c ∧
      RollResult.Justified roll connected allowedMap urand result ∧ c.Is roll loot result := by
  have hdue {guid : ObjectGuid} {vote : RollVote} {player : RollPlayer} (hvote : vote ≠ .DISENCHANT)
      (hplayer : connected guid = some player)
      (hwins : Wins urand (roll.contenders (connected.draws allowedMap)) guid vote) :
      RollResult.Justified roll connected allowedMap urand
        (if player.canStore = true then .stored guid else .reserved guid) := by
    split_ifs with hstore
    · exact ⟨vote, player, hwins, hvote, hplayer, hstore⟩
    · exact ⟨vote, player, hwins, hvote, hplayer, Bool.eq_false_iff.mpr hstore⟩
  suffices h : ∃ result, RollResult.Justified roll connected allowedMap urand result ∧
      ((((⟨roll.totalNeed, roll.totalGreed, 0, loot, [], []⟩ : RollEnd).needSection roll connected
        allowedMap urand).greedSection roll connected allowedMap urand).passSection roll).Is roll loot
          result by
    obtain ⟨result, hresult⟩ := h
    exact ⟨_, result, rfl, hresult⟩
  by_cases hneed : roll.drawers (· == .NEED) (connected.draws allowedMap) = []
  · rw [RollEnd.needSection_of_nil ht.need rfl hempty hneed]
    have hcontenders : roll.contenders (connected.draws allowedMap) =
        roll.drawers Roll.isGreed (connected.draws allowedMap) := if_pos hneed
    by_cases hgreed : roll.drawers Roll.isGreed (connected.draws allowedMap) = []
    · rw [RollEnd.greedSection_of_nil rfl ht.greed rfl hempty hgreed]
      refine ⟨.unblocked, hcontenders.trans hgreed, ?_⟩
      rw [RollEnd.passSection, if_pos ⟨rfl, rfl⟩]
      exact ⟨rfl, rfl, rfl⟩
    · obtain ⟨guid, vote, player, total, drawn, hpos, hplayer, hwins, ⟨rfl, hsection⟩ | ⟨rfl, hsection⟩⟩ :=
        RollEnd.greedSection_of_ne_nil (c := ⟨0, roll.totalGreed, 0, loot, [], []⟩) urand rfl ht.greed rfl
          hempty hgreed
      · rw [hsection, RollEnd.passSection_of_pos (.inr (by simpa using hpos))]
        rw [← hcontenders] at hwins
        exact ⟨_, hdue (by decide) hplayer hwins, RollEnd.award_is hitem rfl rfl rfl⟩
      · rw [hsection, RollEnd.passSection_of_pos (.inr hpos)]
        rw [← hcontenders] at hwins
        exact ⟨.disenchanted guid !player.canStore, ⟨player, hwins, hplayer, rfl⟩, RollEnd.disenchantFor_is rfl rfl rfl⟩
  · have hcontenders : roll.contenders (connected.draws allowedMap) =
        roll.drawers (· == .NEED) (connected.draws allowedMap) := if_neg hneed
    obtain ⟨guid, player, total, drawn, hpos, hplayer, hwins, hsection⟩ :=
      RollEnd.needSection_of_ne_nil (c := ⟨roll.totalNeed, roll.totalGreed, 0, loot, [], []⟩) urand ht.need
        rfl hempty hneed
    rw [hsection, RollEnd.greedSection_of_pos (by simpa using hpos),
      RollEnd.passSection_of_pos (.inl (by simpa using hpos))]
    rw [← hcontenders] at hwins
    exact ⟨_, hdue (by decide) hplayer hwins, RollEnd.award_is hitem rfl rfl rfl⟩

/-- **The outcome of a roll.**  When the counters of a roll match its votes, `CountTheRoll` ends with exactly
one result that is due: the item goes to, is kept for or is disenchanted for a player with the highest
number among those who are there and need it, or are greedy if none of these is there, or it is free for
everybody if nobody is there.  And `unlootedCount` drops by one exactly when the item is marked looted. -/
theorem CountTheRoll_outcome (roll : Roll) (loot : Loot) (connected : ConnectedPlayers)
    (allowedMap : Option ℕ) (urand : ℕ → Fin 100) (ht : roll.Tallied)
    (hempty : ObjectGuid.Empty ∉ roll.playerVote) (hslot : (loot.itemAt roll.itemSlot).isSome = true) :
    ∃ c, CountTheRoll roll (some loot) connected allowedMap urand = some c ∧
      (∃! result, RollResult.Justified roll connected allowedMap urand result ∧ c.Is roll loot result) ∧
      ((c.loot.unlootedCount = loot.unlootedCount - 1 ∧
          (c.loot.itemAt roll.itemSlot).map LootItem.is_looted = some true ∧
          (c.storeNewItem ≠ [] ∨ c.disenchant ≠ [])) ∨
        (c.loot.unlootedCount = loot.unlootedCount ∧
          (c.loot.itemAt roll.itemSlot).map LootItem.is_looted =
            (loot.itemAt roll.itemSlot).map LootItem.is_looted ∧
          c.storeNewItem = [] ∧ c.disenchant = [])) := by
  obtain ⟨item, hitem⟩ := Option.isSome_iff_exists.mp hslot
  obtain ⟨c, result, hcount, hdue, his⟩ := exists_justified connected allowedMap urand ht hempty hitem
  refine ⟨c, hcount, ⟨result, ⟨hdue, his⟩, fun other hother ↦ ?_⟩, ?_⟩
  · exact RollResult.eq_of_is hitem hother.1 hdue hother.2 his
  · rw [his.loot_eq, his.storeNewItem_eq, his.disenchant_eq]
    cases result with
    | stored guid =>
      refine .inl ⟨rfl, ?_, .inl ?_⟩
      · simp [RollResult.loot', Loot.itemAt_markLooted, hitem]
      · simp [RollResult.storeNewItem, hitem]
    | reserved guid =>
      refine .inr ⟨loot.unlootedCount_modifyAt _ _, ?_, rfl, rfl⟩
      rw [RollResult.loot', Loot.reserve, Loot.itemAt_modifyAt, hitem]
      rfl
    | disenchanted guid byMail =>
      refine .inl ⟨rfl, ?_, .inr (by simp [RollResult.disenchant])⟩
      rw [RollResult.loot', Loot.itemAt_markLooted, hitem]
      rfl
    | unblocked =>
      refine .inr ⟨loot.unlootedCount_modifyAt _ _, ?_, rfl, rfl⟩
      rw [RollResult.loot', Loot.unblock, Loot.itemAt_modifyAt, hitem]
      rfl

/-- The roll of three members, of whom two need the item and the third passes automatically. -/
def rolledByTwo : Roll :=
  ((Roll.start true threeRollers 100 (LootItem.new ⟨1, ⟨1, false, false, false, 2⟩, false, false⟩ 1) 0).vote
    1 1).vote 2 1

/-- The second player draws the higher number and gets the item. -/
theorem CountTheRoll_rolledByTwo : ∃ c,
    CountTheRoll rolledByTwo (some oneItem) (fun _ ↦ some ⟨true, none, true⟩) none (fun n ↦ Fin.ofNat 100 n) =
      some c ∧
    c.storeNewItem = [(2, 1, 1)] ∧
    ∃! result, RollResult.Justified rolledByTwo (fun _ ↦ some ⟨true, none, true⟩) none
      (fun n ↦ Fin.ofNat 100 n) result ∧ c.Is rolledByTwo oneItem result := by
  have ht : rolledByTwo.Tallied :=
    ⟨by decide +kernel, by decide +kernel, by decide +kernel, by decide +kernel⟩
  obtain ⟨c, hc, hunique, -⟩ := CountTheRoll_outcome rolledByTwo oneItem (fun _ ↦ some ⟨true, none, true⟩)
    none (fun n ↦ Fin.ofNat 100 n) ht (by decide +kernel) (by decide +kernel)
  have hstore : (CountTheRoll rolledByTwo (some oneItem) (fun _ ↦ some ⟨true, none, true⟩) none
      (fun n ↦ Fin.ofNat 100 n)).map RollEnd.storeNewItem = some [(2, 1, 1)] := by
    decide +kernel
  rw [hc, Option.map_some, Option.some_inj] at hstore
  exact ⟨c, hc, hstore, hunique⟩

end Gundrak.Looting
