import Gundrak.Util.ObjectGuid

/-!
# Roles and states of the dungeon finder

Players choose one or more of the roles tank, healer and damage; a role value is a byte with one bit
for each of them and one more for wanting to lead.  `CheckGroupRoles` tries to give everybody one of
the roles they chose, such that there are at most one tank, one healer and three of damage.  It takes
chosen roles away one by one and starts again, and puts back what did not help.

`CheckGroupRoles_assigns` is what a successful search means; `checkRoles_fuel` says that the bound on
the depth of the search that the definition needs is never met.
-/

open Std (ExtTreeMap)

namespace Gundrak.Lfg

/-! ## Constants of the dungeon finder -/

/-- `MAXGROUPSIZE`. -/
def MAXGROUPSIZE : ℕ := 5

/-- `LFG_TANKS_NEEDED`. -/
def LFG_TANKS_NEEDED : ℕ := 1

/-- `LFG_HEALERS_NEEDED`. -/
def LFG_HEALERS_NEEDED : ℕ := 1

/-- `LFG_DPS_NEEDED`. -/
def LFG_DPS_NEEDED : ℕ := 3

/-- `PLAYER_ROLE_NONE`. -/
def PLAYER_ROLE_NONE : UInt8 := 0x00

/-- `PLAYER_ROLE_LEADER`. -/
def PLAYER_ROLE_LEADER : UInt8 := 0x01

/-- `PLAYER_ROLE_TANK`. -/
def PLAYER_ROLE_TANK : UInt8 := 0x02

/-- `PLAYER_ROLE_HEALER`. -/
def PLAYER_ROLE_HEALER : UInt8 := 0x04

/-- `PLAYER_ROLE_DAMAGE`. -/
def PLAYER_ROLE_DAMAGE : UInt8 := 0x08

/-- `LfgState`. -/
inductive LfgState where
  | none
  | rolecheck
  | queued
  | proposal
  | dungeon
  | finishedDungeon
  | raidbrowser
deriving DecidableEq, Repr

/-- `LfgAnswer`. -/
inductive LfgAnswer where
  | pending
  | deny
  | agree
deriving DecidableEq, Repr

/-- `LfgRolesMap`. -/
abbrev LfgRolesMap := ExtTreeMap ObjectGuid UInt8

/-- `LfgDungeonSet`: dungeon ids, in ascending order as a `std::set` keeps them. -/
structure LfgDungeonSet where
  ids : List ℕ
  ascending : ids.Pairwise (· < ·)
deriving DecidableEq

namespace LfgDungeonSet

/-- The dungeons that are in both sets, by `std::set_intersection`. -/
def intersection (dungeons others : LfgDungeonSet) : LfgDungeonSet where
  ids := dungeons.ids.filter (· ∈ others.ids)
  ascending := dungeons.ascending.filter _

@[simp]
theorem mem_intersection {dungeons others : LfgDungeonSet} {id : ℕ} :
    id ∈ (dungeons.intersection others).ids ↔ id ∈ dungeons.ids ∧ id ∈ others.ids := by
  simp [intersection]

end LfgDungeonSet

/-! ## Giving everybody one role -/

/-- The roles a player chose; the wish to lead is none of them. -/
def chosen (value : UInt8) : UInt8 := value &&& ~~~PLAYER_ROLE_LEADER

/-- The part of the loop of `CheckGroupRoles` that is about one of the three roles, at the player
`guid` who has chosen `role`.  A player with nothing else counts, if one more is needed.  Otherwise
`CheckGroupRoles` is called again with the role taken away from the player.

`.error` leaves the loop with the result it carries, `.ok` is the new count. -/
def countRole (recheck : List (ObjectGuid × UInt8) → Option (List (ObjectGuid × UInt8)))
    (before after : List (ObjectGuid × UInt8)) (guid : ObjectGuid) (value flag : UInt8)
    (needed count : ℕ) : Except (Option (List (ObjectGuid × UInt8))) ℕ :=
  if chosen value &&& flag = 0 then .ok count
  else if chosen value ≠ flag then
    match recheck (before ++ (guid, value - flag) :: after) with
    | some groles => .error (some groles)
    | none => .ok count
  else if count = needed then .error none
  else .ok (count + 1)

/-- The loop of `CheckGroupRoles`; `before` are the players it has gone past. -/
def checkRolesLoop (recheck : List (ObjectGuid × UInt8) → Option (List (ObjectGuid × UInt8)))
    (before : List (ObjectGuid × UInt8)) (damage healer tank : ℕ) :
    List (ObjectGuid × UInt8) → Option (List (ObjectGuid × UInt8))
  | [] => if tank + healer + damage = before.length % 256 then some before else none
  | (guid, value) :: after =>
    if chosen value = PLAYER_ROLE_NONE then none
    else match countRole recheck before after guid value PLAYER_ROLE_DAMAGE LFG_DPS_NEEDED damage with
      | .error result => result
      | .ok damage =>
        match countRole recheck before after guid value PLAYER_ROLE_HEALER LFG_HEALERS_NEEDED
            healer with
        | .error result => result
        | .ok healer =>
          match countRole recheck before after guid value PLAYER_ROLE_TANK LFG_TANKS_NEEDED tank with
          | .error result => result
          | .ok tank =>
            checkRolesLoop recheck (before ++ [(guid, value)]) damage healer tank after

/-- `CheckGroupRoles` on the entries of the map.  A call that fails has put back all it has taken
away, so it has no result but that. -/
def checkRoles : ℕ → List (ObjectGuid × UInt8) → Option (List (ObjectGuid × UInt8))
  | 0, _ => none
  | fuel + 1, groles => if groles = [] then none else checkRolesLoop (checkRoles fuel) [] 0 0 0 groles

/-- The number of roles that can be taken away from a player, one for each call. -/
def flagCount (value : UInt8) : ℕ := (if value &&& PLAYER_ROLE_TANK = 0 then 0 else 1) +
    (if value &&& PLAYER_ROLE_HEALER = 0 then 0 else 1) +
    (if value &&& PLAYER_ROLE_DAMAGE = 0 then 0 else 1)

/-- The number of roles that can be taken away from all the players. -/
def flagsCount (groles : List (ObjectGuid × UInt8)) : ℕ := (groles.map fun entry ↦ flagCount entry.2).sum

/-- `LFGMgr::CheckGroupRoles`: the roles it leaves behind if it returns true.  If it returns false it
leaves behind what it was given. -/
def CheckGroupRoles (groles : LfgRolesMap) : Option LfgRolesMap :=
  (checkRoles (flagsCount groles.toList + 1) groles.toList).map fun roles ↦
    groles.map fun guid value ↦ (roles.lookup guid).getD value

/-! ## What a successful search means -/

/-- How many of the players have exactly the role `flag`. -/
def countFlag (flag : UInt8) (groles : List (ObjectGuid × UInt8)) : ℕ := groles.countP fun entry ↦ chosen entry.2 = flag

/-- How many of the players have exactly the role `flag`. -/
def roleCount (flag : UInt8) (groles : LfgRolesMap) : ℕ := countFlag flag groles.toList

theorem countFlag_concat (flag : UInt8) (before : List (ObjectGuid × UInt8)) (guid : ObjectGuid)
    (value : UInt8) : countFlag flag (before ++ [(guid, value)]) =
      countFlag flag before + if chosen value = flag then 1 else 0 := by
  simp [countFlag]

/-- What the counters and the size of the list say at the end of a successful search. -/
structure Assigned (groles : List (ObjectGuid × UInt8)) : Prop where
  tank : countFlag PLAYER_ROLE_TANK groles ≤ LFG_TANKS_NEEDED
  healer : countFlag PLAYER_ROLE_HEALER groles ≤ LFG_HEALERS_NEEDED
  damage : countFlag PLAYER_ROLE_DAMAGE groles ≤ LFG_DPS_NEEDED
  total : countFlag PLAYER_ROLE_TANK groles + countFlag PLAYER_ROLE_HEALER groles +
    countFlag PLAYER_ROLE_DAMAGE groles = groles.length % 256

section

variable {recheck : List (ObjectGuid × UInt8) → Option (List (ObjectGuid × UInt8))}
variable {before after : List (ObjectGuid × UInt8)} {guid : ObjectGuid} {value flag : UInt8}
variable {needed count : ℕ}

/-- The ways `countRole` leaves the loop: with the result of the new call or with false. -/
theorem countRole_error {result : Option (List (ObjectGuid × UInt8))}
    (h : countRole recheck before after guid value flag needed count = .error result) :
    result = none ∨ ∃ groles, result = some groles ∧
      recheck (before ++ (guid, value - flag) :: after) = some groles := by
  unfold countRole at h
  split_ifs at h with h0 h1 h2
  · cases hr : recheck (before ++ (guid, value - flag) :: after) with
    | none => simp [hr] at h
    | some groles =>
      simp only [hr, Except.error.injEq] at h
      exact .inr ⟨groles, h.symm, rfl⟩
  · exact .inl (by simpa using h.symm)

/-- The count goes up exactly at a player who has chosen the role and nothing else. -/
theorem countRole_ok (hflag : flag ≠ 0) {count' : ℕ} (hle : count ≤ needed)
    (h : countRole recheck before after guid value flag needed count = .ok count') :
    count' = count + (if chosen value = flag then 1 else 0) ∧ count' ≤ needed := by
  unfold countRole at h
  split_ifs at h with h0 h1 h2
  · have hne : chosen value ≠ flag := by
      rintro rfl
      exact hflag (by simpa using h0)
    have hcount : count = count' := by simpa using h
    rw [if_neg hne, ← hcount]
    exact ⟨rfl, hle⟩
  · cases hr : recheck (before ++ (guid, value - flag) :: after) with
    | none =>
      have hcount : count = count' := by simpa [hr] using h
      rw [if_neg h1, ← hcount]
      exact ⟨rfl, hle⟩
    | some groles => simp [hr] at h
  · have hcount : count + 1 = count' := by simpa using h
    rw [if_pos (not_not.mp h1)]
    omega

/-- The loop ends with success through a successful new call, or at the end of the list with the
counters it has then. -/
theorem checkRolesLoop_some {damage healer tank : ℕ} {groles : List (ObjectGuid × UInt8)}
    (hrecheck : ∀ roles roles', recheck roles = some roles' →
      roles'.map Prod.fst = roles.map Prod.fst ∧ Assigned roles')
    (hdamage : damage = countFlag PLAYER_ROLE_DAMAGE before) (hd : damage ≤ LFG_DPS_NEEDED)
    (hhealer : healer = countFlag PLAYER_ROLE_HEALER before) (hh : healer ≤ LFG_HEALERS_NEEDED)
    (htank : tank = countFlag PLAYER_ROLE_TANK before) (ht : tank ≤ LFG_TANKS_NEEDED)
    (h : checkRolesLoop recheck before damage healer tank after = some groles) :
    groles.map Prod.fst = (before ++ after).map Prod.fst ∧ Assigned groles := by
  induction after generalizing before damage healer tank with
  | nil =>
    rw [checkRolesLoop, Option.ite_none_right_eq_some, Option.some_inj] at h
    obtain ⟨htotal, rfl⟩ := h
    rw [List.append_nil]
    subst hdamage hhealer htank
    exact ⟨rfl, ht, hh, hd, htotal⟩
  | cons entry after ih =>
    obtain ⟨guid, value⟩ := entry
    have hguids : ∀ flag, (before ++ (guid, value - flag) :: after).map Prod.fst =
        (before ++ (guid, value) :: after).map Prod.fst := fun flag ↦ by simp
    have hleave : ∀ {flag needed count result},
        countRole recheck before after guid value flag needed count = .error result →
        result = some groles → groles.map Prod.fst = (before ++ (guid, value) :: after).map Prod.fst ∧
          Assigned groles := by
      intro flag needed count result herror hresult
      rcases countRole_error herror with hnone | ⟨groles', hsome, hagain⟩
      · simp [hnone] at hresult
      · rw [hsome, Option.some_inj] at hresult
        subst hresult
        simpa [hguids flag] using hrecheck _ _ hagain
    rw [checkRolesLoop, Option.ite_none_left_eq_some] at h
    replace h := h.2
    cases hcd : countRole recheck before after guid value PLAYER_ROLE_DAMAGE LFG_DPS_NEEDED damage with
    | error result => exact hleave hcd (by simpa [hcd] using h)
    | ok damage' =>
      rw [hcd] at h
      cases hch : countRole recheck before after guid value PLAYER_ROLE_HEALER LFG_HEALERS_NEEDED
          healer with
      | error result => exact hleave hch (by simpa [hch] using h)
      | ok healer' =>
        simp only [hch] at h
        cases hct : countRole recheck before after guid value PLAYER_ROLE_TANK LFG_TANKS_NEEDED
            tank with
        | error result => exact hleave hct (by simpa [hct] using h)
        | ok tank' =>
          simp only [hct] at h
          obtain ⟨hdamage', hd'⟩ := countRole_ok (by decide) hd hcd
          obtain ⟨hhealer', hh'⟩ := countRole_ok (by decide) hh hch
          obtain ⟨htank', ht'⟩ := countRole_ok (by decide) ht hct
          have hdone := ih (by rw [countFlag_concat, hdamage', hdamage]) hd'
            (by rw [countFlag_concat, hhealer', hhealer]) hh'
            (by rw [countFlag_concat, htank', htank]) ht' h
          simpa using hdone

end

theorem checkRoles_some {fuel : ℕ} {groles roles : List (ObjectGuid × UInt8)}
    (h : checkRoles fuel groles = some roles) :
    roles.map Prod.fst = groles.map Prod.fst ∧ Assigned roles := by
  induction fuel generalizing groles roles with
  | zero => cases h
  | succ fuel ih =>
    rw [checkRoles, Option.ite_none_left_eq_some] at h
    have hdone := checkRolesLoop_some (fun _ _ ↦ ih) rfl (by decide) rfl (by decide) rfl (by decide) h.2
    simpa using hdone

/-! ## The bound on the depth of the search -/

section

variable {recheck recheck' : List (ObjectGuid × UInt8) → Option (List (ObjectGuid × UInt8))}

theorem uint8_cases {P : UInt8 → Prop} (h : ∀ n : Fin 256, P (UInt8.ofFin n)) (value : UInt8) : P value := by
  rw [← UInt8.ofFin_toFin value]
  exact h value.toFin

/-- The bits `CheckGroupRoles` takes away. -/
def IsRoleFlag (flag : UInt8) : Prop := flag = PLAYER_ROLE_DAMAGE ∨ flag = PLAYER_ROLE_HEALER ∨ flag = PLAYER_ROLE_TANK

theorem flagCount_sub {flag value : UInt8} (hflag : IsRoleFlag flag) (h : chosen value &&& flag ≠ 0) :
    flagCount (value - flag) + 1 = flagCount value := by
  rcases hflag with rfl | rfl | rfl <;>
    exact uint8_cases (P := fun value ↦ chosen value &&& _ ≠ 0 →
      flagCount (value - _) + 1 = flagCount value) (by decide +kernel) value h

theorem countRole_congr {before after : List (ObjectGuid × UInt8)} {guid : ObjectGuid}
    {value flag : UInt8} (hflag : IsRoleFlag flag) (needed count : ℕ)
    (h : ∀ groles, flagsCount groles + 1 = flagsCount (before ++ (guid, value) :: after) →
      recheck groles = recheck' groles) :
    countRole recheck before after guid value flag needed count =
      countRole recheck' before after guid value flag needed count := by
  unfold countRole
  by_cases h0 : chosen value &&& flag = 0
  · simp [h0]
  · have hless : flagsCount (before ++ (guid, value - flag) :: after) + 1 =
        flagsCount (before ++ (guid, value) :: after) := by
      have hflagCount := flagCount_sub hflag h0
      simp only [flagsCount, List.map_append, List.map_cons, List.sum_append, List.sum_cons]
      omega
    rw [h _ hless]

theorem checkRolesLoop_congr {before after : List (ObjectGuid × UInt8)} (damage healer tank : ℕ)
    (h : ∀ groles, flagsCount groles + 1 = flagsCount (before ++ after) → recheck groles = recheck' groles) :
    checkRolesLoop recheck before damage healer tank after =
      checkRolesLoop recheck' before damage healer tank after := by
  induction after generalizing before damage healer tank with
  | nil => rfl
  | cons entry after ih =>
    obtain ⟨guid, value⟩ := entry
    have hrest : ∀ damage healer tank, checkRolesLoop recheck (before ++ [(guid, value)]) damage healer tank after =
          checkRolesLoop recheck' (before ++ [(guid, value)]) damage healer tank after :=
      fun damage healer tank ↦ ih damage healer tank fun groles hg ↦ h groles (by
        rw [hg, List.append_assoc, List.singleton_append])
    simp only [checkRolesLoop, countRole_congr (.inl rfl) _ _ h, countRole_congr (.inr (.inl rfl)) _ _ h,
      countRole_congr (.inr (.inr rfl)) _ _ h, hrest]

/-- **The search never meets the bound.**  Every new call has one role less to take away, so with
more fuel than there are roles any more fuel changes nothing. -/
theorem checkRoles_fuel {fuel : ℕ} {groles : List (ObjectGuid × UInt8)}
    (h : flagsCount groles < fuel) : checkRoles fuel groles = checkRoles (fuel + 1) groles := by
  induction fuel generalizing groles with
  | zero => omega
  | succ fuel ih =>
    rw [checkRoles, checkRoles, checkRolesLoop_congr]
    intro roles hroles
    rw [List.nil_append] at hroles
    exact ih (by omega)

end

/-! ## The search on the map -/

theorem map_lookup_eq {groles roles : List (ObjectGuid × UInt8)}
    (h : roles.map Prod.fst = groles.map Prod.fst) (hnodup : (groles.map Prod.fst).Nodup) :
    (groles.map fun entry ↦ (entry.1, (roles.lookup entry.1).getD entry.2)) = roles := by
  induction groles generalizing roles with
  | nil => simpa using h.symm
  | cons entry groles ih =>
    rcases roles with - | ⟨role, roles⟩
    · cases h
    obtain ⟨hhead, htail⟩ := List.cons.inj h
    have hrest : ∀ other ∈ groles, (role :: roles).lookup other.1 = roles.lookup other.1 := by
      intro other hother
      have hne : other.1 ≠ role.1 := by
        rw [hhead]
        exact fun heq ↦ (List.nodup_cons.mp hnodup).1 (heq ▸ List.mem_map_of_mem hother)
      rw [List.lookup_cons, beq_false_of_ne hne]
    rw [List.map_cons]
    congr 1
    · rw [← hhead, List.lookup_cons, beq_self_eq_true]
      rfl
    · refine Eq.trans (List.map_congr_left fun other hother ↦ ?_)
        (ih htail (List.nodup_cons.mp hnodup).2)
      rw [hrest other hother]

theorem toList_nodup (groles : LfgRolesMap) : (groles.toList.map Prod.fst).Nodup := by
  rw [ExtTreeMap.map_fst_toList_eq_keys]
  exact ExtTreeMap.nodup_keys

/-- **What `CheckGroupRoles` promises.**  If it returns true, the players are those it was given, and
there are at most one tank, one healer and three of damage.  They are as many as the players, counted
in a byte. -/
theorem CheckGroupRoles_assigns {groles roles : LfgRolesMap} (h : CheckGroupRoles groles = some roles) :
    roles.keys = groles.keys ∧ Assigned roles.toList := by
  rw [CheckGroupRoles, Option.map_eq_some_iff] at h
  obtain ⟨assigned, hsome, rfl⟩ := h
  obtain ⟨hguids, hassigned⟩ := checkRoles_some hsome
  have hlist : (groles.map fun guid value ↦ (assigned.lookup guid).getD value).toList = assigned := by
    rw [ExtTreeMap.toList_map]
    exact map_lookup_eq hguids (toList_nodup groles)
  refine ⟨?_, by rwa [hlist]⟩
  rw [← ExtTreeMap.map_fst_toList_eq_keys, hlist, hguids, ExtTreeMap.map_fst_toList_eq_keys]

end Gundrak.Lfg
