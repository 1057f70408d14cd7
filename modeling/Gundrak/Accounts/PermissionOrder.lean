import Gundrak.Accounts.RBAC

/-!
# The order in which permissions are loaded

A permission can be granted and denied to an account, once for all realms and once for a realm.  What is loaded
first wins: `GrantPermission` refuses what is denied, and `DenyPermission` what is granted.  So the order of the
rows matters, but only that of the rows of one permission, and the query fixes it: it sorts by permission and
realm, and `-1`, for all realms, comes first.

**`globalPerms_of_order`** says both.
-/

open Std (ExtTreeMap)

namespace Gundrak.Accounts

namespace RBACData

variable {mgr : AccountMgr} {data : RBACData} {permissionId p : ℕ}

/-! ## The lists after loading -/

/-- Whether a permission is granted or denied, if it is either. -/
def decision (data : RBACData) (p : ℕ) : Option Bool :=
  if p ∈ data._grantedPerms then some true else if p ∈ data._deniedPerms then some false else none

/-- What a row decides, if nothing is decided before. -/
def rowDecision (mgr : AccountMgr) (row : ℕ × Bool) (p : ℕ) : Option Bool :=
  if p = row.1 ∧ mgr.GetRBACPermission p ≠ none then some row.2 else none

/-- A permission that is put on a list it is not on, nor on the other one. -/
def insertDecided (data : RBACData) (permissionId : ℕ) (granted : Bool) : RBACData :=
  if granted = true then { data with _grantedPerms := insert permissionId data._grantedPerms }
  else { data with _deniedPerms := insert permissionId data._deniedPerms }

theorem decision_eq_none_iff : data.decision p = none ↔ p ∉ data._grantedPerms ∧ p ∉ data._deniedPerms := by
  rw [decision]
  split_ifs with hg hd
  · simp [hg]
  · simp [hd]
  · simp [hg, hd]

theorem decision_insertDecided (h : data.decision permissionId = none) (granted : Bool) :
    (data.insertDecided permissionId granted).decision p =
      (data.decision p).or (if p = permissionId then some granted else none) := by
  obtain ⟨hg, hd⟩ := decision_eq_none_iff.mp h
  by_cases hp : p = permissionId
  · rw [if_pos hp, hp, h, Option.none_or]
    cases granted with
    | true => exact if_pos (Finset.mem_insert_self _ _)
    | false => exact (if_neg hg).trans (if_pos (Finset.mem_insert_self _ _))
  · rw [if_neg hp, Option.or_none]
    cases granted with
    | true => exact if_congr (Finset.mem_insert.trans (or_iff_right hp)) rfl rfl
    | false => exact if_congr Iff.rfl rfl (if_congr (Finset.mem_insert.trans (or_iff_right hp)) rfl rfl)

/-- A row is refused if its permission is unknown or decided already; otherwise it decides. -/
theorem loadRow_eq (mgr : AccountMgr) (data : RBACData) (row : ℕ × Bool) : data.loadRow mgr row =
    if mgr.GetRBACPermission row.1 = none ∨ data.decision row.1 ≠ none then data
    else data.insertDecided row.1 row.2 := by
  obtain ⟨permissionId, granted⟩ := row
  -- a row is loaded for realm 0, which calculates nothing
  have hzero (d : RBACData) : d.recalculate mgr 0 = d := rfl
  simp only [ne_eq, decision_eq_none_iff, insertDecided]
  cases granted with
  | true =>
    simp only [loadRow, GrantPermission, hzero]
    split_ifs <;> simp_all
  | false =>
    simp only [loadRow, DenyPermission, hzero]
    split_ifs <;> simp_all

/-- **What is decided first stays.** -/
theorem decision_loadRow (row : ℕ × Bool) :
    (data.loadRow mgr row).decision p = (data.decision p).or (rowDecision mgr row p) := by
  rw [loadRow_eq, rowDecision]
  split
  · rename_i hrefused
    by_cases hp : p = row.1
    · rcases hrefused with hnone | hsome
      · rw [if_neg fun h ↦ h.2 (hp ▸ hnone), Option.or_none]
      · obtain ⟨b, hb⟩ := Option.ne_none_iff_exists'.mp hsome
        simp [hp, hb]
    · rw [if_neg fun h ↦ hp h.1, Option.or_none]
  · rename_i hdecides
    obtain ⟨hexists, hnone⟩ := not_or.mp hdecides
    rw [decision_insertDecided (not_not.mp hnone)]
    by_cases hp : p = row.1
    · rw [if_pos hp, if_pos ⟨hp, hp ▸ hexists⟩]
    · simp [hp]

/-- **The first row of a permission decides**, if the permission exists. -/
theorem decision_loadRows (rows : List (ℕ × Bool)) : (rows.foldl (loadRow mgr) data).decision p =
      (data.decision p).or (if mgr.GetRBACPermission p ≠ none then rows.lookup p else none) := by
  induction rows generalizing data with
  | nil => rw [List.lookup_nil, ite_self, Option.or_none]; rfl
  | cons row rows ih =>
    rw [List.foldl_cons, ih, decision_loadRow, Option.or_assoc, List.lookup_cons, rowDecision]
    by_cases hp : p = row.1
    · by_cases hexists : mgr.GetRBACPermission p ≠ none
      · rw [if_pos ⟨hp, hexists⟩, if_pos hexists, if_pos hexists, Option.some_or, beq_iff_eq.mpr hp]
      · simp [hexists]
    · rw [if_neg fun h ↦ hp h.1, Option.none_or, beq_eq_false_iff_ne.mpr hp]

theorem lists_eq_of_decision {data data' : RBACData} (h : data.Consistent) (h' : data'.Consistent)
    (hdecision : ∀ p, data.decision p = data'.decision p) :
    data._grantedPerms = data'._grantedPerms ∧ data._deniedPerms = data'._deniedPerms := by
  have hgranted : ∀ (d : RBACData) p, p ∈ d._grantedPerms ↔ d.decision p = some true := by
    intro d p
    rw [decision]
    split_ifs with hg hd
    · exact iff_of_true hg rfl
    · exact iff_of_false hg (by decide)
    · exact iff_of_false hg (by decide)
  have hdenied : ∀ d : RBACData, d.Consistent → ∀ p, p ∈ d._deniedPerms ↔ d.decision p = some false := by
    intro d hd p
    rw [decision]
    split_ifs with hg hden
    · exact iff_of_false (Finset.disjoint_left.mp hd hg) (by decide)
    · exact iff_of_true hden rfl
    · exact iff_of_false hden (by decide)
  refine ⟨Finset.ext fun p ↦ ?_, Finset.ext fun p ↦ ?_⟩
  · rw [hgranted, hgranted, hdecision]
  · rw [hdenied data h, hdenied data' h', hdecision]

theorem secLevel_loadRow (row : ℕ × Bool) : (data.loadRow mgr row)._secLevel = data._secLevel := by
  rw [loadRow_eq, insertDecided]
  split_ifs <;> rfl

theorem globalPerms_loadRow (row : ℕ × Bool) : (data.loadRow mgr row)._globalPerms = data._globalPerms := by
  rw [loadRow_eq, insertDecided]
  split_ifs <;> rfl

/-- Only the first row of each permission matters to what is loaded. -/
theorem load_eq_of_lookup {secLevel : UInt8} {rows rows' : List (ℕ × Bool)} (h : ∀ p, rows.lookup p = rows'.lookup p) :
    (new secLevel).LoadFromDBCallback mgr rows = (new secLevel).LoadFromDBCallback mgr rows' := by
  have hfold : ∀ (rows : List (ℕ × Bool)) (d : RBACData), (rows.foldl (loadRow mgr) d)._secLevel = d._secLevel ∧
      (rows.foldl (loadRow mgr) d)._globalPerms = d._globalPerms := by
    intro rows
    induction rows with
    | nil => exact fun d ↦ ⟨rfl, rfl⟩
    | cons row rows ih =>
      intro d
      rw [List.foldl_cons, (ih _).1, (ih _).2, secLevel_loadRow, globalPerms_loadRow]
      exact ⟨rfl, rfl⟩
  have hconsistent : (new secLevel).Consistent := Finset.disjoint_empty_left _
  have hlists := lists_eq_of_decision (consistent_loadRows mgr rows hconsistent)
    (consistent_loadRows mgr rows' hconsistent) fun p ↦ by rw [decision_loadRows, decision_loadRows, h]
  have hloaded : rows.foldl (loadRow mgr) (new secLevel) = rows'.foldl (loadRow mgr) (new secLevel) := by
    obtain ⟨hsec, hglobal⟩ := hfold rows (new secLevel)
    obtain ⟨hsec', hglobal'⟩ := hfold rows' (new secLevel)
    cases hd : rows.foldl (loadRow mgr) (new secLevel)
    cases hd' : rows'.foldl (loadRow mgr) (new secLevel)
    rw [hd, hd'] at hlists
    rw [hd] at hsec hglobal
    rw [hd'] at hsec' hglobal'
    rw [RBACData.mk.injEq]
    exact ⟨hsec.trans hsec'.symm, hlists.1, hlists.2, hglobal.trans hglobal'.symm⟩
  simp [LoadFromDBCallback, hloaded]

/-! ## The order of the query -/

/-- A row of `rbac_account_permissions` that the query selects: it is for the realm, or for all realms (-1). -/
structure PermissionRow where
  permissionId : ℕ
  granted : Bool
  realmId : ℤ
deriving DecidableEq

/-- What the rows are sorted by. -/
def PermissionRow.key (row : PermissionRow) : ℕ ×ₗ ℤ := toLex (row.permissionId, row.realmId)

/-- The result of the query, `ORDER BY permissionId, realmId`. -/
def selected (table : List PermissionRow) : List (ℕ × Bool) :=
  (table.insertionSort fun a b ↦ a.key ≤ b.key).map fun row ↦ (row.permissionId, row.granted)

/-- `RBACData::LoadFromDB`. -/
def LoadFromDB (mgr : AccountMgr) (secLevel : UInt8) (table : List PermissionRow) : RBACData :=
  (new secLevel).LoadFromDBCallback mgr (selected table)

/-- The table has one row for a permission and a realm, so the result does not depend on its order. -/
theorem selected_perm {table table' : List PermissionRow} (hperm : table.Perm table')
    (hkeys : (table.map PermissionRow.key).Nodup) : selected table = selected table' := by
  have hsorted : (table.insertionSort fun a b ↦ a.key ≤ b.key).Perm (table'.insertionSort fun a b ↦ a.key ≤ b.key) :=
    (List.perm_insertionSort _ _).trans (hperm.trans (List.perm_insertionSort _ _).symm)
  have hinj : ∀ a ∈ table, ∀ b ∈ table, a.key = b.key → a = b := List.inj_on_of_nodup_map hkeys
  have hpair : ∀ t : List PermissionRow, (t.insertionSort fun a b ↦ a.key ≤ b.key).Pairwise fun a b ↦ a.key ≤ b.key :=
    fun t ↦ List.pairwise_insertionSort _ _
  have heq := hsorted.eq_of_pairwise (fun a b ha hb hab hba ↦ ?_) (hpair table) (hpair table')
  · rw [selected, selected, heq]
  · have ha' : a ∈ table := (List.mem_insertionSort _).mp ha
    have hb' : b ∈ table := hperm.mem_iff.mpr ((List.mem_insertionSort _).mp hb)
    exact hinj a ha' b hb' (le_antisymm hab hba)

/-- **Loaded permissions and the order of the rows.**  Only the first row of each permission matters, so the rows of
different permissions may come in any order.  For the rows of one permission the query fixes the order, and what is
loaded does not depend on the order in the table. -/
theorem globalPerms_of_order (mgr : AccountMgr) (secLevel : UInt8) :
    (∀ rows rows' : List (ℕ × Bool), (∀ p, rows.lookup p = rows'.lookup p) →
      ((new secLevel).LoadFromDBCallback mgr rows)._globalPerms =
        ((new secLevel).LoadFromDBCallback mgr rows')._globalPerms) ∧
    ∀ table table' : List PermissionRow, table.Perm table' → (table.map PermissionRow.key).Nodup →
      (LoadFromDB mgr secLevel table)._globalPerms = (LoadFromDB mgr secLevel table')._globalPerms := by
  refine ⟨fun rows rows' h ↦ congrArg _globalPerms (load_eq_of_lookup h), fun table table' hperm hkeys ↦ ?_⟩
  simp [LoadFromDB, selected_perm hperm hkeys]

/-! ## Some rows -/

/-- There are two permissions, not linked, and no default ones. -/
def twoPermissions : AccountMgr where
  _permissions := (∅ : ExtTreeMap ℕ RBACPermissionContainer).insert 1 ∅ |>.insert 2 ∅
  _defaultPermissions _ := ∅

/-- Something is granted and denied, on all realms and on this one: the other permission may be loaded before or
after, and the order of the table does not matter. -/
theorem globalPerms_of_order_two :
    ((new 0).LoadFromDBCallback twoPermissions [(1, true), (1, false), (2, true)])._globalPerms =
        ((new 0).LoadFromDBCallback twoPermissions [(2, true), (1, true), (1, false)])._globalPerms ∧
      (LoadFromDB twoPermissions 0 [⟨1, true, -1⟩, ⟨1, false, 1⟩])._globalPerms =
        (LoadFromDB twoPermissions 0 [⟨1, false, 1⟩, ⟨1, true, -1⟩])._globalPerms := by
  refine ⟨(globalPerms_of_order twoPermissions 0).1 _ _ fun p ↦ ?_,
    (globalPerms_of_order twoPermissions 0).2 _ _ (List.Perm.swap _ _ []) (by decide)⟩
  simp only [List.lookup_cons, List.lookup_nil]
  by_cases h1 : p = 1
  · rw [h1]
    rfl
  · rw [beq_eq_false_iff_ne.mpr h1]

/-- A permission that is granted in one row and denied in the other is there after one order of them, and not after
the other one. -/
theorem not_globalPerms_order : ∃ (mgr : AccountMgr) (secLevel : UInt8) (rows rows' : List (ℕ × Bool)),
    rows.Perm rows' ∧ ((new secLevel).LoadFromDBCallback mgr rows)._globalPerms ≠
      ((new secLevel).LoadFromDBCallback mgr rows')._globalPerms := by
  refine ⟨twoPermissions, 0, [(1, true), (1, false)], [(1, false), (1, true)], List.Perm.swap _ _ [], fun heq ↦ ?_⟩
  have hself : IsLinkedTo twoPermissions {1} 1 := ⟨by decide, 1, Finset.mem_singleton_self 1, .refl⟩
  have hempty : ¬ IsLinkedTo twoPermissions ∅ 1 := fun ⟨_, s, hs, _⟩ ↦ Finset.notMem_empty s hs
  have hglobal : ∀ rows, ((new 0).LoadFromDBCallback twoPermissions rows).UpToDate twoPermissions :=
    fun rows ↦ upToDate_calculate _ _
  have hfirst : ((new 0).LoadFromDBCallback twoPermissions [(1, true), (1, false)])._grantedPerms = {1} ∧
      ((new 0).LoadFromDBCallback twoPermissions [(1, true), (1, false)])._deniedPerms = ∅ := by decide +kernel
  have hsecond : ((new 0).LoadFromDBCallback twoPermissions [(1, false), (1, true)])._grantedPerms = ∅ := by
    decide +kernel
  have hgranted : 1 ∈ ((new 0).LoadFromDBCallback twoPermissions [(1, true), (1, false)])._globalPerms := by
    rw [hglobal, hfirst.1, hfirst.2, Finset.mem_sdiff, mem_ExpandPermissions, mem_ExpandPermissions]
    exact ⟨hself, hempty⟩
  have hdenied : 1 ∉ ((new 0).LoadFromDBCallback twoPermissions [(1, false), (1, true)])._globalPerms := by
    rw [hglobal, hsecond, Finset.mem_sdiff, mem_ExpandPermissions]
    exact fun h ↦ hempty h.1
  exact hdenied (heq ▸ hgranted)

end RBACData

end Gundrak.Accounts
