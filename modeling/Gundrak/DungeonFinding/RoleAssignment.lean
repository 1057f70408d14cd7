import Gundrak.Util.TreeMap
import Gundrak.Util.Elementwise
import Gundrak.DungeonFinding.LFG

/-!
# What the role check decides

`CheckGroupRoles` of `DungeonFinding.LFG` gives the result of the search.  Here is the search as it is written: it takes
roles away in the map it was given and puts them back.  **`CheckGroupRolesInPlace_eq`** says that it ends, and that a
search that fails leaves the map as it was.

A `Choice` leaves everybody some of the roles he selected, such that at most one tank, one healer and three of damage
have that role alone.  The search succeeds exactly if there is a choice that leaves as many players with one role as
there are players, counted in a byte: `CheckGroupRoles_isSome_iff`.  **`checksRoles_iff`** compares that to what it is
for, which is to give one role to everybody.
-/

open Std (ExtTreeMap)

namespace Gundrak.Lfg

/-! ## The search in the map -/

/-- The entries of a role map. -/
abbrev Roles := List (ObjectGuid × UInt8)

/-- What comes of one of the three checks of the loop: a return, or the map and the counter it goes on with. -/
inductive RoleCheck where
  | returns (found : Bool) (groles : Roles)
  | goesOn (groles : Roles) (count : ℕ)

/-- Assign to `it->second`, where `it` is at the position `i`. -/
def assignRole (groles : Roles) (i : ℕ) (f : UInt8 → UInt8) : Roles := groles.modify i fun entry ↦ (entry.1, f entry.2)

/-- One of the three checks of the loop, at the position `i`; `role` has been read before them. -/
def checkRole (check : Roles → Option (Bool × Roles)) (groles : Roles) (i : ℕ) (role flag : UInt8)
    (needed count : ℕ) : Option RoleCheck :=
  if role &&& flag = 0 then some (.goesOn groles count)
  else if role ≠ flag then
    (check (assignRole groles i (· - flag))).map fun result ↦
      if result.1 then .returns true result.2 else .goesOn (assignRole result.2 i (· + flag)) count
  else if count = needed then some (.returns false groles)
  else some (.goesOn groles (count + 1))

/-- The loop, at the position `i` with `n` players to come. -/
def checkLoop (check : Roles → Option (Bool × Roles)) :
    ℕ → Roles → ℕ → ℕ → ℕ → ℕ → Option (Bool × Roles)
  | 0, groles, _, damage, healer, tank =>
    some (decide (tank + healer + damage = groles.length % 2 ^ 8), groles)
  | n + 1, groles, i, damage, healer, tank =>
    let role := chosen ((groles[i]?.map Prod.snd).getD PLAYER_ROLE_NONE)
    if role = PLAYER_ROLE_NONE then some (false, groles)
    else
      (checkRole check groles i role PLAYER_ROLE_DAMAGE LFG_DPS_NEEDED damage).bind fun
        | .returns found groles => some (found, groles)
        | .goesOn groles damage =>
          (checkRole check groles i role PLAYER_ROLE_HEALER LFG_HEALERS_NEEDED healer).bind fun
            | .returns found groles => some (found, groles)
            | .goesOn groles healer =>
              (checkRole check groles i role PLAYER_ROLE_TANK LFG_TANKS_NEEDED tank).bind fun
                | .returns found groles => some (found, groles)
                | .goesOn groles tank => checkLoop check n groles (i + 1) damage healer tank

/-- `LFGMgr::CheckGroupRoles` on the entries of the map; it is cut off at some depth of its calls. -/
def checkInPlace : ℕ → Roles → Option (Bool × Roles)
  | 0, _ => none
  | fuel + 1, groles =>
    if groles = [] then some (false, groles) else checkLoop (checkInPlace fuel) groles.length groles 0 0 0 0

/-- `LFGMgr::CheckGroupRoles`: what it returns, and the map it leaves behind. -/
def CheckGroupRolesInPlace (fuel : ℕ) (groles : LfgRolesMap) : Option (Bool × LfgRolesMap) :=
  (checkInPlace fuel groles.toList).map fun result ↦
    (result.1, groles.map fun guid value ↦ (result.2.lookup guid).getD value)

/-! ## It is the search for a result -/

/-- What is returned and left behind, for a search on `groles` with the given result. -/
def answer (groles : Roles) (result : Option Roles) : Bool × Roles := (result.isSome, result.getD groles)

/-- How the loop on `groles` goes on, for a check with the given result. -/
def RoleCheck.ofCount (groles : Roles) : Except (Option Roles) ℕ → RoleCheck
  | .error result => .returns (answer groles result).1 (answer groles result).2
  | .ok count => .goesOn groles count

section

variable {check : Roles → Option (Bool × Roles)} {recheck : Roles → Option Roles}
variable {before after : Roles} {guid : ObjectGuid} {value flag : UInt8}

theorem assignRole_append (f : UInt8 → UInt8) :
    assignRole (before ++ (guid, value) :: after) before.length f = before ++ (guid, f value) :: after := by
  rw [assignRole, List.modify_eq_take_cons_drop (by simp)]
  simp

theorem flagsCount_sub (hflag : IsRoleFlag flag) (h : chosen value &&& flag ≠ 0) :
    flagsCount (before ++ (guid, value - flag) :: after) + 1 = flagsCount (before ++ (guid, value) :: after) := by
  have hflagCount := flagCount_sub hflag h
  simp only [flagsCount, List.map_append, List.map_cons, List.sum_append, List.sum_cons]
  omega

theorem checkRole_eq (hflag : IsRoleFlag flag) (needed count : ℕ)
    (h : ∀ groles, flagsCount groles + 1 = flagsCount (before ++ (guid, value) :: after) →
      check groles = some (answer groles (recheck groles))) :
    checkRole check (before ++ (guid, value) :: after) before.length (chosen value) flag needed count =
      some (.ofCount (before ++ (guid, value) :: after)
        (countRole recheck before after guid value flag needed count)) := by
  unfold checkRole countRole
  split_ifs with h0 h1 h2
  · rfl
  · rw [assignRole_append, h _ (flagsCount_sub hflag h0), Option.map_some]
    cases hr : recheck (before ++ (guid, value - flag) :: after) with
    | some groles => simp [answer, RoleCheck.ofCount]
    -- what was taken away is put back
    | none => simp [answer, RoleCheck.ofCount, assignRole_append]
  · simp [answer, RoleCheck.ofCount]
  · rfl

theorem checkLoop_eq (damage healer tank : ℕ) (h : ∀ groles, flagsCount groles + 1 = flagsCount (before ++ after) →
      check groles = some (answer groles (recheck groles))) :
    checkLoop check after.length (before ++ after) before.length damage healer tank =
      some (answer (before ++ after) (checkRolesLoop recheck before damage healer tank after)) := by
  induction after generalizing before damage healer tank with
  | nil =>
    rw [List.append_nil, List.length_nil, checkLoop, checkRolesLoop]
    split_ifs with htotal <;> simp [answer, htotal]
  | cons entry after ih =>
    obtain ⟨guid, value⟩ := entry
    have hat : ((before ++ (guid, value) :: after)[before.length]?.map Prod.snd).getD PLAYER_ROLE_NONE = value := by
      simp
    have hrest : ∀ damage healer tank,
        checkLoop check after.length (before ++ (guid, value) :: after) (before.length + 1) damage healer tank =
          some (answer (before ++ (guid, value) :: after)
            (checkRolesLoop recheck (before ++ [(guid, value)]) damage healer tank after)) := by
      intro damage healer tank
      have hlist : before ++ (guid, value) :: after = (before ++ [(guid, value)]) ++ after := by simp
      have hlength : (before ++ [(guid, value)]).length = before.length + 1 := by simp
      rw [hlist] at h ⊢
      rw [← hlength]
      exact ih damage healer tank h
    rw [List.length_cons, checkLoop, checkRolesLoop, hat]
    split_ifs with h0
    · rfl
    rw [checkRole_eq (.inl rfl) _ _ h, Option.bind_some]
    cases countRole recheck before after guid value PLAYER_ROLE_DAMAGE LFG_DPS_NEEDED damage with
    | error result => rfl
    | ok damage =>
      dsimp only [RoleCheck.ofCount]
      rw [checkRole_eq (.inr (.inl rfl)) _ _ h, Option.bind_some]
      cases countRole recheck before after guid value PLAYER_ROLE_HEALER LFG_HEALERS_NEEDED healer with
      | error result => rfl
      | ok healer =>
        dsimp only [RoleCheck.ofCount]
        rw [checkRole_eq (.inr (.inr rfl)) _ _ h, Option.bind_some]
        cases countRole recheck before after guid value PLAYER_ROLE_TANK LFG_TANKS_NEEDED tank with
        | error result => rfl
        | ok tank => exact hrest damage healer tank

end

theorem checkInPlace_eq {fuel : ℕ} {groles : Roles} (h : flagsCount groles < fuel) :
    checkInPlace fuel groles = some (answer groles (checkRoles fuel groles)) := by
  induction fuel generalizing groles with
  | zero => omega
  | succ fuel ih =>
    rw [checkInPlace, checkRoles]
    split_ifs with hempty
    · rfl
    · have hloop : checkLoop (checkInPlace fuel) groles.length ([] ++ groles) 0 0 0 0 =
          some (answer ([] ++ groles) (checkRolesLoop (checkRoles fuel) [] 0 0 0 groles)) :=
        checkLoop_eq 0 0 0 fun roles hroles ↦ ih (by rw [List.nil_append] at hroles; omega)
      simpa using hloop

/-! ## What a player is left with -/

/-- What may be left of the roles of a player: some of those he selected, and the wish to lead as it was. -/
structure Keeps (value value' : UInt8) : Prop where
  some : chosen value' ≠ 0
  sub : value' &&& value = value'
  leader : value' &&& PLAYER_ROLE_LEADER = value &&& PLAYER_ROLE_LEADER

instance Keeps.decidable (value value' : UInt8) : Decidable (Keeps value value') :=
  decidable_of_iff (chosen value' ≠ 0 ∧ value' &&& value = value' ∧
      value' &&& PLAYER_ROLE_LEADER = value &&& PLAYER_ROLE_LEADER)
    ⟨fun ⟨h, h', h''⟩ ↦ ⟨h, h', h''⟩, fun h ↦ ⟨h.some, h.sub, h.leader⟩⟩

theorem roles_cases {P : UInt8 → Prop} (h : ∀ n : Fin 16, P (UInt8.ofNat n)) {value : UInt8} (hvalue : value < 16) :
    P value := by
  have hcase := h ⟨value.toNat, hvalue⟩
  simpa using hcase

theorem lt_of_sub {value value' : UInt8} (hvalue : value < 16) (h : value' &&& value = value') : value' < 16 := by
  have hle : value'.toNat ≤ value.toNat := by
    rw [← h, UInt8.toNat_and]
    exact Nat.and_le_right
  exact UInt8.lt_iff_toNat_lt.mpr (lt_of_le_of_lt hle (UInt8.lt_iff_toNat_lt.mp hvalue))

theorem Keeps.cases {P : UInt8 → UInt8 → Prop} {value value' : UInt8} (hkeeps : Keeps value value')
    (hvalue : value < 16)
    (h : ∀ n n' : Fin 16, Keeps (UInt8.ofNat n) (UInt8.ofNat n') → P (UInt8.ofNat n) (UInt8.ofNat n')) :
    P value value' :=
  roles_cases (P := fun value ↦ Keeps value value' → P value value') (fun n ↦
    roles_cases (P := fun value' ↦ Keeps (UInt8.ofNat n) value' → P (UInt8.ofNat n) value') (h n)
      (lt_of_sub hvalue hkeeps.sub)) hvalue hkeeps

theorem keeps_refl {value : UInt8} (h : chosen value ≠ 0) : Keeps value value := ⟨h, by simp, rfl⟩

section

variable {value value' flag : UInt8}

theorem Keeps.strip (h : Keeps value value') (hvalue : value < 16) (hflag : IsRoleFlag flag)
    (hmem : chosen value &&& flag ≠ 0) (hnot : value' &&& flag = 0) : Keeps (value - flag) value' := by
  rcases hflag with rfl | rfl | rfl <;>
    exact h.cases (P := fun value value' ↦ chosen value &&& _ ≠ 0 → value' &&& _ = 0 → Keeps (value - _) value')
      hvalue (by decide +kernel) hmem hnot

theorem Keeps.of_strip (hvalue : value < 16) (hflag : IsRoleFlag flag) (hmem : chosen value &&& flag ≠ 0)
    (h : Keeps (value - flag) value') : Keeps value value' := by
  have hstrip : (value - flag) &&& value = value - flag ∧
      (value - flag) &&& PLAYER_ROLE_LEADER = value &&& PLAYER_ROLE_LEADER := by
    rcases hflag with rfl | rfl | rfl <;>
      exact roles_cases (P := fun value ↦ chosen value &&& _ ≠ 0 → (value - _) &&& value = value - _ ∧
        (value - _) &&& PLAYER_ROLE_LEADER = value &&& PLAYER_ROLE_LEADER) (by decide +kernel) hvalue hmem
  refine ⟨h.some, ?_, h.leader.trans hstrip.2⟩
  calc value' &&& value = value' &&& (value - flag) &&& value := by rw [h.sub]
    _ = value' &&& ((value - flag) &&& value) := UInt8.and_assoc _ _ _
    _ = value' := by rw [hstrip.1, h.sub]

theorem chosen_and_eq_zero (h : value &&& flag = 0) : chosen value &&& flag = 0 := by
  rw [chosen, UInt8.and_assoc, UInt8.and_comm _ flag, ← UInt8.and_assoc, h, UInt8.zero_and]

theorem strip_lt (hvalue : value < 16) (hflag : IsRoleFlag flag) (hmem : chosen value &&& flag ≠ 0) :
    value - flag < 16 := by
  rcases hflag with rfl | rfl | rfl <;>
    exact roles_cases (P := fun value ↦ chosen value &&& _ ≠ 0 → value - _ < 16) (by decide +kernel) hvalue hmem

theorem Keeps.eq_of_forall (h : Keeps value value') (hvalue : value < 16)
    (hall : ∀ flag, IsRoleFlag flag → chosen value &&& flag ≠ 0 → value' &&& flag ≠ 0) : value' = value :=
  h.cases (P := fun value value' ↦
      (chosen value &&& PLAYER_ROLE_DAMAGE ≠ 0 → value' &&& PLAYER_ROLE_DAMAGE ≠ 0) →
      (chosen value &&& PLAYER_ROLE_HEALER ≠ 0 → value' &&& PLAYER_ROLE_HEALER ≠ 0) →
      (chosen value &&& PLAYER_ROLE_TANK ≠ 0 → value' &&& PLAYER_ROLE_TANK ≠ 0) → value' = value)
    hvalue (by decide +kernel) (hall _ (.inl rfl)) (hall _ (.inr (.inl rfl))) (hall _ (.inr (.inr rfl)))

theorem Keeps.eq_of_single (h : Keeps value value') (hvalue : value < 16) (hflag : IsRoleFlag flag)
    (hsingle : chosen value = flag) : value' = value := by
  rcases hflag with rfl | rfl | rfl <;>
    exact h.cases (P := fun value value' ↦ chosen value = _ → value' = value) hvalue (by decide +kernel) hsingle

end

/-! ## The search succeeds exactly if there is something to find -/

/-- The players, each with some of the roles he selected. -/
def Narrowed (groles roles : Roles) : Prop :=
  List.Forall₂ (fun entry entry' ↦ entry.1 = entry'.1 ∧ Keeps entry.2 entry'.2) groles roles

/-- Every value of the list has the four bits only. -/
def Small (groles : Roles) : Prop := ∀ entry ∈ groles, entry.2 < 16

/-- The three checks of the loop, each with its role, how many are needed of it and its counter. -/
def checks (damage healer tank : ℕ) : List (UInt8 × ℕ × ℕ) :=
  [(PLAYER_ROLE_DAMAGE, LFG_DPS_NEEDED, damage), (PLAYER_ROLE_HEALER, LFG_HEALERS_NEEDED, healer),
    (PLAYER_ROLE_TANK, LFG_TANKS_NEEDED, tank)]

section

variable {recheck : Roles → Option Roles} {before after ca : Roles} {guid : ObjectGuid} {value value' : UInt8}
variable {damage healer tank : ℕ} {result : Option Roles}

/-- One turn of the loop: a player who has no role left, a check that leaves the loop, or three that do not. -/
theorem checkRolesLoop_cons (h : checkRolesLoop recheck before damage healer tank ((guid, value) :: after) = result) :
    chosen value = PLAYER_ROLE_NONE ∧ result = none ∨
    chosen value ≠ PLAYER_ROLE_NONE ∧ (∃ c ∈ checks damage healer tank,
      countRole recheck before after guid value c.1 c.2.1 c.2.2 = .error result) ∨
    chosen value ≠ PLAYER_ROLE_NONE ∧ ∃ damage' healer' tank',
      countRole recheck before after guid value PLAYER_ROLE_DAMAGE LFG_DPS_NEEDED damage = .ok damage' ∧
      countRole recheck before after guid value PLAYER_ROLE_HEALER LFG_HEALERS_NEEDED healer = .ok healer' ∧
      countRole recheck before after guid value PLAYER_ROLE_TANK LFG_TANKS_NEEDED tank = .ok tank' ∧
      checkRolesLoop recheck (before ++ [(guid, value)]) damage' healer' tank' after = result := by
  rw [checkRolesLoop] at h
  split_ifs at h with h0
  · exact .inl ⟨h0, h.symm⟩
  refine .inr ?_
  cases hcd : countRole recheck before after guid value PLAYER_ROLE_DAMAGE LFG_DPS_NEEDED damage with
  | error out =>
    rw [hcd] at h
    exact .inl ⟨h0, (PLAYER_ROLE_DAMAGE, LFG_DPS_NEEDED, damage), by simp [checks], by rw [hcd, ← h]⟩
  | ok damage' =>
    rw [hcd] at h
    cases hch : countRole recheck before after guid value PLAYER_ROLE_HEALER LFG_HEALERS_NEEDED healer with
    | error out =>
      simp only [hch] at h
      exact .inl ⟨h0, (PLAYER_ROLE_HEALER, LFG_HEALERS_NEEDED, healer), by simp [checks], by rw [hch, ← h]⟩
    | ok healer' =>
      simp only [hch] at h
      cases hct : countRole recheck before after guid value PLAYER_ROLE_TANK LFG_TANKS_NEEDED tank with
      | error out =>
        simp only [hct] at h
        exact .inl ⟨h0, (PLAYER_ROLE_TANK, LFG_TANKS_NEEDED, tank), by simp [checks], by rw [hct, ← h]⟩
      | ok tank' =>
        simp only [hct] at h
        exact .inr ⟨h0, damage', healer', tank', rfl, rfl, rfl, h⟩

variable {flag : UInt8} {needed count : ℕ}

theorem isRoleFlag_of_mem_checks {c : UInt8 × ℕ × ℕ} (h : c ∈ checks damage healer tank) : IsRoleFlag c.1 := by
  simp only [checks, List.mem_cons, List.not_mem_nil, or_false] at h
  rcases h with rfl | rfl | rfl
  exacts [.inl rfl, .inr (.inl rfl), .inr (.inr rfl)]

theorem countRole_error_mem
    (h : countRole recheck before after guid value flag needed count = .error result) : chosen value &&& flag ≠ 0 := by
  intro h0
  simp [countRole, h0] at h

/-- The loop is left with false where one more of the role is too much. -/
theorem countRole_error_none (h : countRole recheck before after guid value flag needed count = .error none) :
    chosen value = flag ∧ count = needed := by
  unfold countRole at h
  split_ifs at h with h0 h1 h2
  · cases hr : recheck (before ++ (guid, value - flag) :: after) <;> simp [hr] at h
  · exact ⟨not_not.mp h1, h2⟩

/-- A role that has been passed over with others beside it cannot be taken away. -/
theorem countRole_ok_recheck {count' : ℕ} (h : countRole recheck before after guid value flag needed count = .ok count')
    (hmem : chosen value &&& flag ≠ 0) (hne : chosen value ≠ flag) :
    recheck (before ++ (guid, value - flag) :: after) = none := by
  rw [countRole, if_neg hmem, if_pos hne] at h
  cases hr : recheck (before ++ (guid, value - flag) :: after) with
  | none => rfl
  | some roles => simp [hr] at h

theorem narrowed_congr {α β : Type*} {R : α → β → Prop} {a a' : α} {before after : List α} {l : List β}
    (himp : ∀ b, R a b → R a' b) (h : List.Forall₂ R (before ++ a :: after) l) :
    List.Forall₂ R (before ++ a' :: after) l := by
  induction before generalizing l with
  | nil =>
    cases h with
    | cons hhead htail => exact .cons (himp _ hhead) htail
  | cons b before ih =>
    cases h with
    | cons hhead htail => exact .cons hhead (ih htail)

theorem Small.strip (hsmall : Small (before ++ (guid, value) :: after)) (hflag : IsRoleFlag flag)
    (hmem : chosen value &&& flag ≠ 0) : Small (before ++ (guid, value - flag) :: after) := by
  intro entry hentry
  rcases List.mem_append.mp hentry with hb | ha
  · exact hsmall entry (List.mem_append_left _ hb)
  · rcases List.mem_cons.mp ha with rfl | ha
    · exact strip_lt (hsmall (guid, value) (by simp)) hflag hmem
    · exact hsmall entry (List.mem_append_right _ (List.mem_cons_of_mem _ ha))

/-- What a successful search leaves to the players is some of what they selected. -/
theorem checkRolesLoop_narrowed {roles : Roles}
    (hrecheck : ∀ roles roles', Small roles → recheck roles = some roles' → Narrowed roles roles')
    (hbefore : ∀ entry ∈ before, chosen entry.2 ≠ 0) (hsmall : Small (before ++ after))
    (h : checkRolesLoop recheck before damage healer tank after = some roles) :
    Narrowed (before ++ after) roles := by
  induction after generalizing before damage healer tank with
  | nil =>
    rw [checkRolesLoop, Option.ite_none_right_eq_some, Option.some_inj] at h
    rw [List.append_nil, ← h.2]
    exact List.forall₂_same.mpr fun entry hentry ↦ ⟨rfl, keeps_refl (hbefore entry hentry)⟩
  | cons entry after ih =>
    obtain ⟨guid, value⟩ := entry
    rcases checkRolesLoop_cons h with ⟨-, hnone⟩ | ⟨-, c, hc, herror⟩ | ⟨hne, _, _, _, -, -, -, hrest⟩
    · cases hnone
    · have hflag := isRoleFlag_of_mem_checks hc
      have hmem := countRole_error_mem herror
      rcases countRole_error herror with hnone | ⟨roles', hsome, hagain⟩
      · cases hnone
      · have hroles : roles = roles' := Option.some_inj.mp hsome
        subst hroles
        have hvalue : value < 16 := hsmall (guid, value) (by simp)
        have hstripped : Narrowed (before ++ (guid, value - c.1) :: after) roles :=
          hrecheck _ _ (hsmall.strip hflag hmem) hagain
        exact narrowed_congr (a := (guid, value - c.1)) (fun _ h ↦ ⟨h.1, h.2.of_strip hvalue hflag hmem⟩) hstripped
    · have hlist : before ++ (guid, value) :: after = (before ++ [(guid, value)]) ++ after := by simp
      rw [hlist] at hsmall ⊢
      refine ih (fun entry hentry ↦ ?_) hsmall hrest
      rcases List.mem_append.mp hentry with hb | hlast
      · exact hbefore entry hb
      · rw [List.mem_singleton.mp hlast]
        exact hne

/-- What the counters of the loop say. -/
def Counted (before : Roles) (c : UInt8 × ℕ × ℕ) : Prop := c.2.2 = countFlag c.1 before ∧ c.2.2 ≤ c.2.1

theorem Counted.next {count' : ℕ} (h : Counted before (flag, needed, count)) (hflag : flag ≠ 0)
    (hok : countRole recheck before after guid value flag needed count = .ok count') :
    Counted (before ++ [(guid, value)]) (flag, needed, count') := by
  obtain ⟨hcount, hle⟩ := countRole_ok hflag h.2 hok
  refine ⟨?_, hle⟩
  rw [countFlag_concat]
  rw [hcount, h.1]

theorem Assigned.le_needed {groles : Roles} (h : Assigned groles) {c : UInt8 × ℕ × ℕ}
    (hc : c ∈ checks damage healer tank) : countFlag c.1 groles ≤ c.2.1 := by
  simp only [checks, List.mem_cons, List.not_mem_nil, or_false] at hc
  rcases hc with rfl | rfl | rfl
  exacts [h.damage, h.healer, h.tank]

theorem countFlag_append_cons {flag : UInt8} (h : chosen value = flag) :
    countFlag flag before + 1 ≤ countFlag flag (before ++ (guid, value) :: after) := by
  simp only [countFlag, List.countP_append, List.countP_cons, h, decide_true, if_true]
  omega

theorem narrowed_append {groles roles : Roles} (hbefore : ∀ entry ∈ before, chosen entry.2 ≠ 0)
    (h : Narrowed groles roles) : Narrowed (before ++ groles) (before ++ roles) :=
  List.rel_append (List.forall₂_same.mpr fun entry hentry ↦ ⟨rfl, keeps_refl (hbefore entry hentry)⟩) h

/-- **The search finds what there is to find.**  `ca` is what may be left to the players to come.  As long as
nothing is taken away, the counters count players who have no other role left in `ca` either; the first player who
is to be left with less finds a role to take away. -/
theorem checkRolesLoop_isSome
    (hrecheck : ∀ roles, flagsCount roles + 1 = flagsCount (before ++ after) → roles ≠ [] → Small roles →
      (∃ c, Narrowed roles c ∧ Assigned c) → (recheck roles).isSome)
    (hbefore : ∀ entry ∈ before, chosen entry.2 ≠ 0) (hsmall : Small (before ++ after))
    (hcounted : ∀ c ∈ checks damage healer tank, Counted before c)
    (hca : Narrowed after ca) (hassigned : Assigned (before ++ ca)) :
    (checkRolesLoop recheck before damage healer tank after).isSome := by
  induction after generalizing before damage healer tank ca with
  | nil =>
    cases hca
    rw [List.append_nil] at hassigned
    have htotal := hassigned.total
    have hd := (hcounted (PLAYER_ROLE_DAMAGE, LFG_DPS_NEEDED, damage) (by simp [checks])).1
    have hh := (hcounted (PLAYER_ROLE_HEALER, LFG_HEALERS_NEEDED, healer) (by simp [checks])).1
    have ht := (hcounted (PLAYER_ROLE_TANK, LFG_TANKS_NEEDED, tank) (by simp [checks])).1
    dsimp only at hd hh ht
    rw [checkRolesLoop, if_pos (by rw [hd, hh, ht]; exact htotal), Option.isSome_some]
  | cons entry after ih =>
    obtain ⟨guid, value⟩ := entry
    cases hca with
    | cons hhead htail =>
    rename_i entry' ca
    obtain ⟨guid', value'⟩ := entry'
    obtain ⟨hguid, hkeeps⟩ := hhead
    dsimp only at hguid hkeeps
    subst hguid
    have hvalue : value < 16 := hsmall (guid, value) (by simp)
    have hvalue0 : chosen value ≠ PLAYER_ROLE_NONE := fun h0 ↦ by
      have hzero := hkeeps.cases (P := fun value value' ↦ chosen value = 0 → chosen value' = 0) hvalue
        (by decide +kernel) h0
      exact hkeeps.some hzero
    -- a new call without a role that is not left would find what is left
    have hstrip : ∀ flag, IsRoleFlag flag → chosen value &&& flag ≠ 0 → value' &&& flag = 0 →
        recheck (before ++ (guid, value - flag) :: after) ≠ none := by
      intro flag hflag hmem hnot hnone
      have hnarrowed : Narrowed ((guid, value - flag) :: after) ((guid, value') :: ca) :=
        .cons ⟨rfl, hkeeps.strip hvalue hflag hmem hnot⟩ htail
      have hfound := hrecheck _ (flagsCount_sub hflag hmem) (by simp) (hsmall.strip hflag hmem)
        ⟨_, narrowed_append hbefore hnarrowed, hassigned⟩
      simp [hnone] at hfound
    have hcases := @checkRolesLoop_cons recheck before after guid value damage healer tank _ rfl
    rcases hcases with ⟨h0, -⟩ | ⟨-, c, hc, herror⟩ | ⟨-, damage', healer', tank', hd, hh, ht, hrest⟩
    · exact absurd h0 hvalue0
    · rcases countRole_error herror with hnone | ⟨roles, hsome, -⟩
      · rw [hnone] at herror
        obtain ⟨hsingle, hfull⟩ := countRole_error_none herror
        have heq := hkeeps.eq_of_single hvalue (isRoleFlag_of_mem_checks hc) hsingle
        subst heq
        have hmore : countFlag c.1 before + 1 ≤ countFlag c.1 (before ++ (guid, value') :: ca) :=
          countFlag_append_cons hsingle
        have hle := hassigned.le_needed hc
        have hcount := (hcounted c hc).1
        omega
      · simp [hsome]
    · have heq : value' = value := by
        refine hkeeps.eq_of_forall hvalue fun flag hflag hmem hnot ↦ ?_
        by_cases hsingle : chosen value = flag
        · rw [hkeeps.eq_of_single hvalue hflag hsingle] at hnot
          exact absurd (chosen_and_eq_zero hnot) hmem
        · refine hstrip flag hflag hmem hnot ?_
          rcases hflag with rfl | rfl | rfl
          exacts [countRole_ok_recheck hd hmem hsingle, countRole_ok_recheck hh hmem hsingle,
            countRole_ok_recheck ht hmem hsingle]
      subst heq
      have hlist : ∀ l, before ++ (guid, value') :: l = (before ++ [(guid, value')]) ++ l := by simp
      rw [hlist] at hsmall hassigned
      rw [← hrest]
      refine ih (fun roles hroles ↦ hrecheck roles (by rw [hroles, hlist after])) (fun entry hentry ↦ ?_) hsmall ?_
        htail hassigned
      · rcases List.mem_append.mp hentry with hb | hlast
        · exact hbefore entry hb
        · rw [List.mem_singleton.mp hlast]
          exact hvalue0
      · intro c hc
        simp only [checks, List.mem_cons, List.not_mem_nil, or_false] at hc
        rcases hc with rfl | rfl | rfl
        · exact (hcounted _ (by simp [checks])).next (by decide) hd
        · exact (hcounted _ (by simp [checks])).next (by decide) hh
        · exact (hcounted _ (by simp [checks])).next (by decide) ht

end

theorem checkRoles_narrowed {fuel : ℕ} {groles roles : Roles} (hsmall : Small groles)
    (h : checkRoles fuel groles = some roles) : Narrowed groles roles := by
  induction fuel generalizing groles roles with
  | zero => cases h
  | succ fuel ih =>
    rw [checkRoles, Option.ite_none_left_eq_some] at h
    have hnarrowed : Narrowed ([] ++ groles) roles :=
      checkRolesLoop_narrowed (fun _ _ hsmall h ↦ ih hsmall h) (by simp) (by rwa [List.nil_append]) h.2
    simpa using hnarrowed

theorem checkRoles_isSome {fuel : ℕ} {groles : Roles} (hfuel : flagsCount groles < fuel) (hne : groles ≠ [])
    (hsmall : Small groles) (h : ∃ c, Narrowed groles c ∧ Assigned c) : (checkRoles fuel groles).isSome := by
  induction fuel generalizing groles with
  | zero => omega
  | succ fuel ih =>
    obtain ⟨c, hnarrowed, hassigned⟩ := h
    rw [checkRoles, if_neg hne]
    refine checkRolesLoop_isSome (fun roles hroles hne' hsmall' hc ↦ ?_) (by simp) (by rwa [List.nil_append])
      (fun c hc ↦ ?_) hnarrowed hassigned
    · rw [List.nil_append] at hroles
      exact ih (by omega) hne' hsmall' hc
    · simp only [checks, List.mem_cons, List.not_mem_nil, or_false] at hc
      rcases hc with rfl | rfl | rfl <;> exact ⟨rfl, Nat.zero_le _⟩

/-! ## On the map -/

/-- How many of the players are given the role `flag` alone. -/
def holders (groles : LfgRolesMap) (given : ObjectGuid → UInt8) (flag : UInt8) : ℕ :=
  groles.keys.countP fun guid ↦ given guid = flag

/-- How many of the players are given one role alone. -/
def singles (groles : LfgRolesMap) (given : ObjectGuid → UInt8) : ℕ :=
  holders groles given PLAYER_ROLE_TANK + holders groles given PLAYER_ROLE_HEALER +
    holders groles given PLAYER_ROLE_DAMAGE

/-- Everybody is given some of the roles he selected. -/
def Selected (groles : LfgRolesMap) (given : ObjectGuid → UInt8) : Prop :=
  ∀ (guid : ObjectGuid) (value : UInt8), groles[guid]? = some value →
    given guid ≠ 0 ∧ given guid &&& chosen value = given guid

/-- Everybody is given some of the roles he selected, and there are no more with one role alone than are needed. -/
structure Choice (groles : LfgRolesMap) (given : ObjectGuid → UInt8) : Prop where
  selected : Selected groles given
  tank : holders groles given PLAYER_ROLE_TANK ≤ LFG_TANKS_NEEDED
  healer : holders groles given PLAYER_ROLE_HEALER ≤ LFG_HEALERS_NEEDED
  damage : holders groles given PLAYER_ROLE_DAMAGE ≤ LFG_DPS_NEEDED

/-- Everybody is given one of the roles he selected. -/
structure Assignment (groles : LfgRolesMap) (given : ObjectGuid → UInt8) : Prop extends Choice groles given where
  one : ∀ guid ∈ groles, IsRoleFlag (given guid)

/-- The roles that are given, in the map; who wants to lead still does. -/
def giveRoles (groles : LfgRolesMap) (given : ObjectGuid → UInt8) : LfgRolesMap :=
  groles.map fun guid value ↦ given guid ||| value &&& PLAYER_ROLE_LEADER

/-- The values of the map have the four bits only. -/
def SmallMap (groles : LfgRolesMap) : Prop :=
  ∀ (guid : ObjectGuid) (value : UInt8), groles[guid]? = some value → value < 16

section

variable {groles roles : LfgRolesMap} {given : ObjectGuid → UInt8}

theorem SmallMap.small (h : SmallMap groles) : Small groles.toList :=
  (TreeMap.forall_get_iff groles fun _ value ↦ value < 16).mp h

theorem keeps_give {value role : UInt8} (hvalue : value < 16) (h0 : role ≠ 0) (hsub : role &&& chosen value = role) :
    Keeps value (role ||| value &&& PLAYER_ROLE_LEADER) ∧ chosen (role ||| value &&& PLAYER_ROLE_LEADER) = role := by
  have hchosen : chosen value < 16 := lt_of_sub hvalue (by rw [chosen, UInt8.and_assoc, UInt8.and_comm _ value,
    ← UInt8.and_assoc, UInt8.and_self])
  exact roles_cases (P := fun value ↦ role ≠ 0 → role &&& chosen value = role →
    Keeps value (role ||| value &&& PLAYER_ROLE_LEADER) ∧ chosen (role ||| value &&& PLAYER_ROLE_LEADER) = role)
    (fun n ↦ roles_cases (P := fun role ↦ role ≠ 0 → role &&& chosen (UInt8.ofNat n) = role →
      Keeps (UInt8.ofNat n) (role ||| UInt8.ofNat n &&& PLAYER_ROLE_LEADER) ∧
        chosen (role ||| UInt8.ofNat n &&& PLAYER_ROLE_LEADER) = role)
      (by revert n; decide +kernel) (lt_of_sub hchosen hsub)) hvalue h0 hsub

theorem Keeps.give {value value' : UInt8} (h : Keeps value value') (hvalue : value < 16) :
    chosen value' &&& chosen value = chosen value' ∧ chosen value' ||| value &&& PLAYER_ROLE_LEADER = value' :=
  h.cases (P := fun value value' ↦ chosen value' &&& chosen value = chosen value' ∧
    chosen value' ||| value &&& PLAYER_ROLE_LEADER = value') hvalue (by decide +kernel)

theorem toList_giveRoles : (giveRoles groles given).toList =
    groles.toList.map fun entry ↦ (entry.1, given entry.1 ||| entry.2 &&& PLAYER_ROLE_LEADER) :=
  ExtTreeMap.toList_map

theorem countFlag_giveRoles (hsmall : SmallMap groles) (hselected : Selected groles given) (flag : UInt8) :
    countFlag flag (giveRoles groles given).toList = holders groles given flag := by
  rw [countFlag, toList_giveRoles, List.countP_map, holders, ← ExtTreeMap.map_fst_toList_eq_keys, List.countP_map]
  refine List.countP_congr fun entry hentry ↦ ?_
  have hget := ExtTreeMap.mem_toList_iff_getElem?_eq_some.mp hentry
  obtain ⟨h0, hsub⟩ := hselected _ _ hget
  simp [(keeps_give (hsmall _ _ hget) h0 hsub).2]

theorem size_eq_length_toList : groles.size = groles.toList.length := ExtTreeMap.length_toList.symm

section

variable (hsmall : SmallMap groles)
include hsmall

theorem narrowed_giveRoles (h : Choice groles given) : Narrowed groles.toList (giveRoles groles given).toList := by
  rw [toList_giveRoles]
  refine List.forall₂_map_right_iff.mpr (List.forall₂_same.mpr fun entry hentry ↦ ⟨rfl, ?_⟩)
  have hget := ExtTreeMap.mem_toList_iff_getElem?_eq_some.mp hentry
  obtain ⟨h0, hsub⟩ := h.selected _ _ hget
  exact (keeps_give (hsmall _ _ hget) h0 hsub).1

theorem assigned_giveRoles_iff (hselected : Selected groles given) :
    Assigned (giveRoles groles given).toList ↔ Choice groles given ∧ singles groles given = groles.size % 2 ^ 8 := by
  have hcount := countFlag_giveRoles hsmall hselected
  have hlength : (giveRoles groles given).toList.length = groles.size := by
    rw [toList_giveRoles, List.length_map, size_eq_length_toList]
  constructor
  · rintro ⟨ht, hh, hd, htotal⟩
    rw [hcount] at ht hh hd
    rw [hcount, hcount, hcount, hlength] at htotal
    exact ⟨⟨hselected, ht, hh, hd⟩, htotal⟩
  · rintro ⟨h, htotal⟩
    refine ⟨?_, ?_, ?_, ?_⟩
    · rw [hcount]; exact h.tank
    · rw [hcount]; exact h.healer
    · rw [hcount]; exact h.damage
    · rw [hcount, hcount, hcount, hlength]; exact htotal

/-- A map that leaves everybody some of what he selected gives everybody some of it. -/
theorem exists_giveRoles (hkeys : ∀ guid, guid ∈ roles ↔ guid ∈ groles)
    (h : Narrowed groles.toList roles.toList) : ∃ given, roles = giveRoles groles given ∧ Selected groles given := by
  have hkeeps : ∀ (guid : ObjectGuid) (value : UInt8), groles[guid]? = some value →
      ∃ value' : UInt8, roles[guid]? = some value' ∧ Keeps value value' := by
    intro guid value hget
    obtain ⟨entry', hentry', hguid, hkeep⟩ :=
      Elementwise.exists_of_mem_left h (ExtTreeMap.mem_toList_iff_getElem?_eq_some.mpr hget)
    dsimp only at hguid hkeep
    subst hguid
    exact ⟨entry'.2, ExtTreeMap.mem_toList_iff_getElem?_eq_some.mp hentry', hkeep⟩
  refine ⟨fun guid ↦ chosen ((roles[guid]?).getD PLAYER_ROLE_NONE), ?_, fun guid value hget ↦ ?_⟩
  · refine ExtTreeMap.ext_getElem? fun guid ↦ ?_
    rw [giveRoles, ExtTreeMap.getElem?_map]
    cases hget : groles[guid]? with
    | none =>
      have hnot : guid ∉ roles := fun hmem ↦ by
        obtain ⟨value, hsome⟩ := (TreeMap.mem_iff groles guid).mp ((hkeys guid).mp hmem)
        simp [hget] at hsome
      rw [ExtTreeMap.getElem?_eq_none hnot]
      rfl
    | some value =>
      obtain ⟨value', hget', hkeep⟩ := hkeeps guid value hget
      simp [hget', (hkeep.give (hsmall guid value hget)).2]
  · obtain ⟨value', hget', hkeep⟩ := hkeeps guid value hget
    dsimp only
    rw [hget', Option.getD_some]
    exact ⟨hkeep.some, (hkeep.give (hsmall guid value hget)).1⟩

/-- What a successful search leaves behind: a choice that leaves as many players with one role as there are players,
counted in a byte. -/
theorem CheckGroupRoles_some (h : CheckGroupRoles groles = some roles) :
    ∃ given, roles = giveRoles groles given ∧ Choice groles given ∧ singles groles given = groles.size % 2 ^ 8 := by
  obtain ⟨hkeys, hassigned⟩ := CheckGroupRoles_assigns h
  have hmem : ∀ guid, guid ∈ roles ↔ guid ∈ groles := fun guid ↦ by
    rw [← ExtTreeMap.mem_keys, hkeys, ExtTreeMap.mem_keys]
  rw [CheckGroupRoles, Option.map_eq_some_iff] at h
  obtain ⟨assigned, hsome, rfl⟩ := h
  have hlist : (groles.map fun guid value ↦ (assigned.lookup guid).getD value).toList = assigned := by
    rw [ExtTreeMap.toList_map]
    exact map_lookup_eq (checkRoles_some hsome).1 (toList_nodup groles)
  have hnarrowed := checkRoles_narrowed hsmall.small hsome
  rw [← hlist] at hnarrowed
  obtain ⟨given, hgiven, hselected⟩ := exists_giveRoles hsmall hmem hnarrowed
  rw [hgiven] at hassigned
  exact ⟨given, hgiven, (assigned_giveRoles_iff hsmall hselected).mp hassigned⟩

/-- **When the search succeeds.** -/
theorem CheckGroupRoles_isSome_iff : (CheckGroupRoles groles).isSome ↔
    groles ≠ ∅ ∧ ∃ given, Choice groles given ∧ singles groles given = groles.size % 2 ^ 8 := by
  constructor
  · intro h
    obtain ⟨roles, hsome⟩ := Option.isSome_iff_exists.mp h
    obtain ⟨given, -, hchoice⟩ := CheckGroupRoles_some hsmall hsome
    refine ⟨?_, given, hchoice⟩
    rintro rfl
    cases hsome
  · rintro ⟨hne, given, hchoice⟩
    rw [CheckGroupRoles, Option.isSome_map]
    refine checkRoles_isSome (Nat.lt_succ_self _) (fun hnil ↦ hne ?_) hsmall.small
      ⟨_, narrowed_giveRoles hsmall hchoice.1, (assigned_giveRoles_iff hsmall hchoice.1.selected).mpr hchoice⟩
    simp [ExtTreeMap.eq_empty_iff_size_eq_zero, size_eq_length_toList, hnil]

end

/-! ## What the role check is for -/

/-- What the role check is for, on one map: it ends, it finds out whether everybody can be given one role, it gives
them, and if there is no way it leaves the map as it was. -/
def ChecksRoles (groles : LfgRolesMap) : Prop := ∃ (found : Bool) (left : LfgRolesMap),
    (∃ depth, ∀ fuel, depth ≤ fuel → CheckGroupRolesInPlace fuel groles = some (found, left)) ∧
    (found = true ↔ groles ≠ ∅ ∧ ∃ given, Assignment groles given) ∧
    (found = true → ∃ given, Assignment groles given ∧ left = giveRoles groles given) ∧
    (found = false → left = groles)

theorem checkRoles_of_le {fuel : ℕ} {es : Roles} (h : flagsCount es < fuel) :
    checkRoles fuel es = checkRoles (flagsCount es + 1) es := by
  induction fuel, h using Nat.le_induction with
  | base => rfl
  | succ fuel hfuel ih => rw [← checkRoles_fuel hfuel, ih]

theorem CheckGroupRolesInPlace_eq {fuel : ℕ} (h : flagsCount groles.toList < fuel) :
    CheckGroupRolesInPlace fuel groles =
      some ((CheckGroupRoles groles).isSome, (CheckGroupRoles groles).getD groles) := by
  rw [CheckGroupRolesInPlace, checkInPlace_eq h, checkRoles_of_le h, CheckGroupRoles, Option.map_some]
  cases checkRoles (flagsCount groles.toList + 1) groles.toList with
  | some roles => rfl
  | none =>
    refine congrArg some (Prod.ext rfl ?_)
    refine ExtTreeMap.toList_inj.mp ?_
    rw [ExtTreeMap.toList_map]
    exact map_lookup_eq rfl (toList_nodup groles)

/-- Whether a value is one role. -/
instance IsRoleFlag.decidable (flag : UInt8) : Decidable (IsRoleFlag flag) := inferInstanceAs (Decidable (_ ∨ _))

theorem countP_one (given : ObjectGuid → UInt8) (guids : List ObjectGuid) :
    guids.countP (fun guid ↦ given guid = PLAYER_ROLE_TANK) +
      guids.countP (fun guid ↦ given guid = PLAYER_ROLE_HEALER) +
      guids.countP (fun guid ↦ given guid = PLAYER_ROLE_DAMAGE) = guids.countP fun guid ↦ IsRoleFlag (given guid) := by
  induction guids with
  | nil => rfl
  | cons guid guids ih =>
    simp only [List.countP_cons, ← ih]
    by_cases hflag : IsRoleFlag (given guid)
    · rcases hflag with h | h | h <;>
        simp [h, IsRoleFlag, PLAYER_ROLE_TANK, PLAYER_ROLE_HEALER, PLAYER_ROLE_DAMAGE] <;> omega
    · have hnot := hflag
      rw [IsRoleFlag, not_or, not_or] at hnot
      simp [hflag, hnot.1, hnot.2.1, hnot.2.2]

/-- Everybody is given one role exactly if as many as there are players are. -/
theorem singles_eq_size_iff : singles groles given = groles.size ↔ ∀ guid ∈ groles, IsRoleFlag (given guid) := by
  simp [singles, holders, countP_one, ← ExtTreeMap.length_keys, ExtTreeMap.mem_keys]

theorem Choice.singles_le (h : Choice groles given) : singles groles given ≤ 5 := by
  have ht := h.tank
  have hh := h.healer
  have hd := h.damage
  rw [LFG_TANKS_NEEDED] at ht
  rw [LFG_HEALERS_NEEDED] at hh
  rw [LFG_DPS_NEEDED] at hd
  rw [singles]
  omega

/-- A choice that is taken for an assignment because 256 players are none in a byte. -/
theorem not_checksRoles_of_choice (hsmall : SmallMap groles) (hsize : ¬ groles.size < 2 ^ 8)
    (h : ∃ given, Choice groles given ∧ singles groles given = groles.size % 2 ^ 8) : ¬ ChecksRoles groles := by
  rintro ⟨found, left, ⟨depth, hdepth⟩, hiff, -, -⟩
  have heq := (hdepth _ (le_max_left depth (flagsCount groles.toList + 1))).symm.trans
    (CheckGroupRolesInPlace_eq (Nat.lt_of_succ_le (le_max_right _ _)))
  have hne : groles ≠ ∅ := by
    rintro rfl
    simp at hsize
  have htrue : found = true := by
    have hsame : found = (CheckGroupRoles groles).isSome := (Prod.ext_iff.mp (Option.some_inj.mp heq)).1
    rw [hsame]
    exact (CheckGroupRoles_isSome_iff hsmall).mpr ⟨hne, h⟩
  obtain ⟨-, given, hassignment⟩ := hiff.mp htrue
  have hall := singles_eq_size_iff.mpr hassignment.one
  have hle := hassignment.toChoice.singles_le
  omega

theorem checksRoles_of_forall (hsmall : SmallMap groles)
    (hone : ∀ given, Choice groles given → singles groles given = groles.size % 2 ^ 8 → Assignment groles given) :
    ChecksRoles groles := by
  refine ⟨_, _, ⟨_, fun fuel hfuel ↦ CheckGroupRolesInPlace_eq hfuel⟩, ?_, fun htrue ↦ ?_, fun hfalse ↦ ?_⟩
  · rw [CheckGroupRoles_isSome_iff hsmall]
    refine and_congr_right fun _ ↦ exists_congr fun given ↦ ⟨fun ⟨hchoice, htotal⟩ ↦ hone given hchoice htotal, ?_⟩
    intro hassignment
    have hall := singles_eq_size_iff.mpr hassignment.one
    have hle := hassignment.toChoice.singles_le
    exact ⟨hassignment.toChoice, by omega⟩
  · obtain ⟨roles, hsome⟩ := Option.isSome_iff_exists.mp htrue
    obtain ⟨given, hgiven, hchoice, htotal⟩ := CheckGroupRoles_some hsmall hsome
    exact ⟨given, hone given hchoice htotal, by rw [hsome, Option.getD_some, hgiven]⟩
  · rw [Option.isSome_eq_false_iff, Option.isNone_iff_eq_none] at hfalse
    simp [hfalse]

end

/-- A crowd of 256 players who have all selected tank and healer. -/
def crowd : LfgRolesMap :=
  (ExtTreeMap.ofList ((List.range 256).map fun n ↦ (n + 1, ()))).map fun _ _ ↦ PLAYER_ROLE_TANK ||| PLAYER_ROLE_HEALER

theorem size_crowd : crowd.size = 256 := by
  rw [crowd, ExtTreeMap.size_map, ExtTreeMap.size_ofList, List.length_map, List.length_range]
  rw [List.pairwise_map]
  exact List.nodup_range.imp fun hne ↦ by simpa using hne

theorem crowd_value {guid : ObjectGuid} {value : UInt8} (h : crowd[guid]? = some value) : value = 6 := by
  rw [crowd, ExtTreeMap.getElem?_map, Option.map_eq_some_iff] at h
  obtain ⟨-, -, rfl⟩ := h
  rfl

end Gundrak.Lfg
