import Gundrak.Util.Exploration
import Gundrak.Util.TreeMap

/-!
# Role based access control

A permission can be linked to others, which are given with it.  `AccountMgr` knows all permissions, and which
ones an account has by default.  `RBACData` has what one account is granted and denied, and what it comes to:
the list of the granted permissions with everything linked to them, without the denied ones and everything
linked to those.

**`permissions_of_run`** says that this is what an account has after its permissions have been loaded from the
database and then changed by any number of commands, and that nothing is granted and denied at the same time.
What is written to the database and to the log is left out.
-/

open Std (ExtTreeMap)

namespace Gundrak.Accounts

/-- `RBACPermissionContainer`, a set of permissions. -/
abbrev RBACPermissionContainer := Finset ℕ

/-- `RBACCommandResult`. -/
inductive RBACCommandResult where
  | RBAC_OK
  | RBAC_CANT_ADD_ALREADY_ADDED
  | RBAC_CANT_REVOKE_NOT_IN_LIST
  | RBAC_IN_GRANTED_LIST
  | RBAC_IN_DENIED_LIST
  | RBAC_ID_DOES_NOT_EXISTS
  deriving DecidableEq

/-- What `AccountMgr` knows of permissions. -/
structure AccountMgr where
  /-- the permissions that each one is linked to -/
  _permissions : ExtTreeMap ℕ RBACPermissionContainer
  /-- the default permissions of each security level -/
  _defaultPermissions : UInt8 → RBACPermissionContainer

namespace AccountMgr

variable (mgr : AccountMgr)

/-- `AccountMgr::GetRBACPermission`. -/
def GetRBACPermission (permissionId : ℕ) : Option RBACPermissionContainer := mgr._permissions[permissionId]?

/-- `AccountMgr::GetRBACDefaultPermissions`. -/
def GetRBACDefaultPermissions (secLevel : UInt8) : RBACPermissionContainer := mgr._defaultPermissions secLevel

/-- All permissions. -/
def ids : Finset ℕ := mgr._permissions.keys.toFinset

variable {mgr} in
theorem mem_ids {permissionId : ℕ} {linkedPerms : RBACPermissionContainer}
    (h : mgr.GetRBACPermission permissionId = some linkedPerms) : permissionId ∈ mgr.ids := by
  rw [ids, List.mem_toFinset, ExtTreeMap.mem_keys, TreeMap.mem_iff]
  exact ⟨linkedPerms, h⟩

end AccountMgr

/-! ## Linked permissions -/

section

variable {toCheck permissions : Finset ℕ} (h : Disjoint toCheck permissions) (id : ℕ)
include h

theorem disjoint_erase : Disjoint (toCheck.erase id) permissions := h.mono_left (Finset.erase_subset id toCheck)

/-- What is added to the permissions to be checked has not been expanded. -/
theorem disjoint_visit (linkedPerms : Finset ℕ) :
    Disjoint (toCheck.erase id ∪ linkedPerms.filter (· ∉ insert id permissions)) (insert id permissions) := by
  refine Finset.disjoint_left.mpr fun p hp hmem ↦ ?_
  rcases Finset.mem_union.mp hp with hp | hp
  · obtain ⟨hne, hp⟩ := Finset.mem_erase.mp hp
    exact Finset.disjoint_left.mp h hp (Finset.mem_of_mem_insert_of_ne hmem hne)
  · exact (Finset.mem_filter.mp hp).2 hmem

end

/-- The loop of `RBACData::ExpandPermissions`.  A permission that is expanded is one more of those there are,
and any other one leaves fewer to check, so the loop ends. -/
def expandLoop (mgr : AccountMgr) (toCheck permissions : RBACPermissionContainer)
    (h : Disjoint toCheck permissions) : RBACPermissionContainer :=
  if hne : toCheck.Nonempty then
    let permissionId := toCheck.min' hne
    match _hp : mgr.GetRBACPermission permissionId with
    | none => expandLoop mgr (toCheck.erase permissionId) permissions (disjoint_erase h permissionId)
    | some linkedPerms =>
      expandLoop mgr
        (toCheck.erase permissionId ∪ linkedPerms.filter (· ∉ insert permissionId permissions))
        (insert permissionId permissions) (disjoint_visit h permissionId linkedPerms)
  else permissions
termination_by ((mgr.ids \ permissions).card, toCheck.card)
decreasing_by
  · have hmem : toCheck.min' hne ∈ toCheck := toCheck.min'_mem hne
    have hlt : (toCheck.erase (toCheck.min' hne)).card < toCheck.card := Finset.card_erase_lt_of_mem hmem
    exact Prod.Lex.right _ hlt
  · have hmem : toCheck.min' hne ∈ toCheck := toCheck.min'_mem hne
    have hnot : toCheck.min' hne ∉ permissions := Finset.disjoint_left.mp h hmem
    refine Prod.Lex.left _ _ (Finset.card_lt_card ?_)
    refine (Finset.ssubset_iff_of_subset ?_).mpr
      ⟨toCheck.min' hne, Finset.mem_sdiff.mpr ⟨AccountMgr.mem_ids _hp, hnot⟩, ?_⟩
    · exact Finset.sdiff_subset_sdiff (Finset.Subset.refl _) (Finset.subset_insert _ _)
    · exact fun hin ↦ (Finset.mem_sdiff.mp hin).2 (Finset.mem_insert_self _ _)

/-- `RBACData::ExpandPermissions`. -/
def ExpandPermissions (mgr : AccountMgr) (permissions : RBACPermissionContainer) :
    RBACPermissionContainer :=
  expandLoop mgr permissions ∅ (Finset.disjoint_empty_right permissions)

/-- A permission that exists and is linked, over others or not, to one of some permissions. -/
def IsLinkedTo (mgr : AccountMgr) (permissions : RBACPermissionContainer) (permissionId : ℕ) : Prop :=
  Exploration.Reached mgr.GetRBACPermission permissions permissionId

theorem mem_expandLoop {mgr : AccountMgr} {perms toCheck permissions : RBACPermissionContainer}
    {h : Disjoint toCheck permissions} {permissionId : ℕ}
    (hexplored : Exploration.Explored mgr.GetRBACPermission perms toCheck permissions) :
    permissionId ∈ expandLoop mgr toCheck permissions h ↔ IsLinkedTo mgr perms permissionId := by
  induction toCheck, permissions, h using expandLoop.induct mgr with
  | case1 toCheck permissions h hne id hp ih =>
    rw [expandLoop, dif_pos hne]
    dsimp only
    split
    · exact ih (hexplored.skip hp)
    · rename_i linkedPerms hsome
      exact absurd (hp.symm.trans hsome) nofun
  | case2 toCheck permissions h hne id linkedPerms hp ih =>
    rw [expandLoop, dif_pos hne]
    dsimp only
    split
    · rename_i hnone
      exact absurd (hp.symm.trans hnone) nofun
    · rename_i linkedPerms' hsome
      obtain rfl : linkedPerms = linkedPerms' := Option.some.inj (hp.symm.trans hsome)
      exact ih (hexplored.visit (toCheck.min'_mem hne) hp)
  | case3 toCheck permissions h hne =>
    rw [expandLoop, dif_neg hne]
    obtain rfl := Finset.not_nonempty_iff_eq_empty.mp hne
    exact hexplored.finish

/-- **Expanding** gives the permissions that exist and are linked to the ones that are given. -/
theorem mem_ExpandPermissions {mgr : AccountMgr} {permissions : RBACPermissionContainer}
    {permissionId : ℕ} : permissionId ∈ ExpandPermissions mgr permissions ↔ IsLinkedTo mgr permissions permissionId :=
  mem_expandLoop Exploration.Explored.init

/-! ## An account -/

/-- What is used of `RBACData`. -/
structure RBACData where
  _secLevel : UInt8
  _grantedPerms : RBACPermissionContainer
  _deniedPerms : RBACPermissionContainer
  _globalPerms : RBACPermissionContainer

namespace RBACData

variable (mgr : AccountMgr) (data : RBACData)

/-- An account of which no permissions have been loaded. -/
def new (secLevel : UInt8) : RBACData := ⟨secLevel, ∅, ∅, ∅⟩

/-- `RBACData::CalculateNewPermissions`. -/
def CalculateNewPermissions : RBACData :=
  { data with
    _globalPerms := ExpandPermissions mgr data._grantedPerms \ ExpandPermissions mgr data._deniedPerms }

/-- What ends a change to the lists, unless the permissions are being loaded. -/
def recalculate (realmId : ℤ) : RBACData :=
  if realmId ≠ 0 then data.CalculateNewPermissions mgr else data

/-- `RBACData::GrantPermission`. -/
def GrantPermission (permissionId : ℕ) (realmId : ℤ) : RBACCommandResult × RBACData :=
  if mgr.GetRBACPermission permissionId = none then (.RBAC_ID_DOES_NOT_EXISTS, data)
  else if permissionId ∈ data._deniedPerms then (.RBAC_IN_DENIED_LIST, data)
  else if permissionId ∈ data._grantedPerms then (.RBAC_CANT_ADD_ALREADY_ADDED, data)
  else
    let data' := { data with _grantedPerms := insert permissionId data._grantedPerms }
    (.RBAC_OK, data'.recalculate mgr realmId)

/-- `RBACData::DenyPermission`. -/
def DenyPermission (permissionId : ℕ) (realmId : ℤ) : RBACCommandResult × RBACData :=
  if mgr.GetRBACPermission permissionId = none then (.RBAC_ID_DOES_NOT_EXISTS, data)
  else if permissionId ∈ data._grantedPerms then (.RBAC_IN_GRANTED_LIST, data)
  else if permissionId ∈ data._deniedPerms then (.RBAC_CANT_ADD_ALREADY_ADDED, data)
  else
    let data' := { data with _deniedPerms := insert permissionId data._deniedPerms }
    (.RBAC_OK, data'.recalculate mgr realmId)

/-- `RBACData::RevokePermission`. -/
def RevokePermission (permissionId : ℕ) (realmId : ℤ) : RBACCommandResult × RBACData :=
  if permissionId ∉ data._grantedPerms ∧ permissionId ∉ data._deniedPerms then
    (.RBAC_CANT_REVOKE_NOT_IN_LIST, data)
  else
    let data' :=
      { data with
        _grantedPerms := data._grantedPerms.erase permissionId
        _deniedPerms := data._deniedPerms.erase permissionId }
    (.RBAC_OK, data'.recalculate mgr realmId)

/-- What `LoadFromDBCallback` does with a row: a permission, and whether it is granted. -/
def loadRow (row : ℕ × Bool) : RBACData :=
  if row.2 then (data.GrantPermission mgr row.1 0).2 else (data.DenyPermission mgr row.1 0).2

/-- `RBACData::LoadFromDBCallback`. -/
def LoadFromDBCallback (rows : List (ℕ × Bool)) : RBACData :=
  let loaded := rows.foldl (loadRow mgr) data
  (((mgr.GetRBACDefaultPermissions loaded._secLevel).sort (· ≤ ·)).foldl
    (fun data permissionId ↦ (data.GrantPermission mgr permissionId 0).2) loaded).CalculateNewPermissions mgr

/-- A command that changes the permissions of an account, on a realm or on all of them. -/
inductive Command where
  | GrantPermission (permissionId : ℕ) (realmId : { realmId : ℤ // realmId ≠ 0 })
  | DenyPermission (permissionId : ℕ) (realmId : { realmId : ℤ // realmId ≠ 0 })
  | RevokePermission (permissionId : ℕ) (realmId : { realmId : ℤ // realmId ≠ 0 })

/-- What a command does. -/
def execute : Command → RBACData
  | .GrantPermission permissionId realmId => (data.GrantPermission mgr permissionId realmId).2
  | .DenyPermission permissionId realmId => (data.DenyPermission mgr permissionId realmId).2
  | .RevokePermission permissionId realmId => (data.RevokePermission mgr permissionId realmId).2

/-! ## Grants and denials exclude each other -/

/-- Nothing is granted and denied at the same time. -/
def Consistent : Prop := Disjoint data._grantedPerms data._deniedPerms

/-- The permissions are what the lists come to. -/
def UpToDate : Prop :=
  data._globalPerms = ExpandPermissions mgr data._grantedPerms \ ExpandPermissions mgr data._deniedPerms

variable {mgr data} {permissionId : ℕ} {realmId : ℤ}

theorem upToDate_calculate (mgr : AccountMgr) (data : RBACData) : (data.CalculateNewPermissions mgr).UpToDate mgr := rfl

theorem upToDate_recalculate (data : RBACData) (h : realmId ≠ 0) : (data.recalculate mgr realmId).UpToDate mgr := by
  rw [recalculate, if_pos h]
  exact upToDate_calculate mgr data

theorem consistent_recalculate (h : data.Consistent) : (data.recalculate mgr realmId).Consistent := by
  rw [recalculate]
  split
  · exact h
  · exact h

theorem consistent_grant (h : data.Consistent) : (data.GrantPermission mgr permissionId realmId).2.Consistent := by
  rw [GrantPermission]
  split
  · exact h
  split
  · exact h
  rename_i hdenied
  split
  · exact h
  · exact consistent_recalculate (Finset.disjoint_insert_left.mpr ⟨hdenied, h⟩)

theorem consistent_deny (h : data.Consistent) : (data.DenyPermission mgr permissionId realmId).2.Consistent := by
  rw [DenyPermission]
  split
  · exact h
  split
  · exact h
  rename_i hgranted
  split
  · exact h
  · exact consistent_recalculate (Finset.disjoint_insert_right.mpr ⟨hgranted, h⟩)

theorem consistent_revoke (h : data.Consistent) : (data.RevokePermission mgr permissionId realmId).2.Consistent := by
  rw [RevokePermission]
  split
  · exact h
  · exact consistent_recalculate (h.mono (Finset.erase_subset _ _) (Finset.erase_subset _ _))

section

variable (h : data.UpToDate mgr) (hrealm : realmId ≠ 0)
include h hrealm

theorem upToDate_grant : (data.GrantPermission mgr permissionId realmId).2.UpToDate mgr := by
  rw [GrantPermission]
  split
  · exact h
  split
  · exact h
  split
  · exact h
  · exact upToDate_recalculate _ hrealm

theorem upToDate_deny : (data.DenyPermission mgr permissionId realmId).2.UpToDate mgr := by
  rw [DenyPermission]
  split
  · exact h
  split
  · exact h
  split
  · exact h
  · exact upToDate_recalculate _ hrealm

theorem upToDate_revoke : (data.RevokePermission mgr permissionId realmId).2.UpToDate mgr := by
  rw [RevokePermission]
  split
  · exact h
  · exact upToDate_recalculate _ hrealm

end

theorem consistent_execute (h : data.Consistent) (command : Command) : (data.execute mgr command).Consistent := by
  cases command with
  | GrantPermission => exact consistent_grant h
  | DenyPermission => exact consistent_deny h
  | RevokePermission => exact consistent_revoke h

theorem upToDate_execute (h : data.UpToDate mgr) (command : Command) : (data.execute mgr command).UpToDate mgr := by
  cases command with
  | GrantPermission id realmId => exact upToDate_grant h realmId.2
  | DenyPermission id realmId => exact upToDate_deny h realmId.2
  | RevokePermission id realmId => exact upToDate_revoke h realmId.2

/-! ## All runs -/

theorem consistent_loadRow (h : data.Consistent) (row : ℕ × Bool) : (data.loadRow mgr row).Consistent := by
  rw [loadRow]
  split
  · exact consistent_grant h
  · exact consistent_deny h

theorem consistent_loadRows (mgr : AccountMgr) (rows : List (ℕ × Bool)) (h : data.Consistent) :
    (rows.foldl (loadRow mgr) data).Consistent := by
  induction rows generalizing data with
  | nil => exact h
  | cons row rows ih => exact ih (consistent_loadRow h row)

theorem consistent_load (rows : List (ℕ × Bool)) (h : data.Consistent) :
    (data.LoadFromDBCallback mgr rows).Consistent := by
  have hdefaults : ∀ (l : List ℕ) (d : RBACData), d.Consistent →
      (l.foldl (fun data permissionId ↦ (data.GrantPermission mgr permissionId 0).2) d).Consistent := by
    intro l
    induction l with
    | nil => exact fun d hd ↦ hd
    | cons id l ih => exact fun d hd ↦ ih _ (consistent_grant hd)
  exact hdefaults _ _ (consistent_loadRows mgr rows h)

/-- **The permissions of an account**.  Expanding a set of permissions gives the existing ones that it is
linked to.  After its permissions have been loaded and changed, nothing is granted and denied, and the account
has what its granted permissions expand to without what its denied ones do. -/
theorem permissions_of_run (mgr : AccountMgr) (secLevel : UInt8) (rows : List (ℕ × Bool))
    (commands : List Command) :
    (∀ permissions permissionId, permissionId ∈ ExpandPermissions mgr permissions ↔
      IsLinkedTo mgr permissions permissionId) ∧
    let data := commands.foldl (execute mgr) ((new secLevel).LoadFromDBCallback mgr rows)
    data.Consistent ∧ data.UpToDate mgr := by
  have hrun : ∀ (l : List Command) (d : RBACData), d.Consistent → d.UpToDate mgr →
      (l.foldl (execute mgr) d).Consistent ∧ (l.foldl (execute mgr) d).UpToDate mgr := by
    intro l
    induction l with
    | nil => exact fun d hd hup ↦ ⟨hd, hup⟩
    | cons command l ih =>
      exact fun d hd hup ↦ ih _ (consistent_execute hd command) (upToDate_execute hup command)
  refine ⟨fun permissions permissionId ↦ mem_ExpandPermissions, ?_⟩
  exact hrun commands ((new secLevel).LoadFromDBCallback mgr rows)
    (consistent_load rows (Finset.disjoint_empty_left _)) (upToDate_calculate mgr _)

end RBACData

end Gundrak.Accounts
