import Gundrak.Util.Int32
import Gundrak.Util.Machine
import Gundrak.Util.TreeMap

/-!
# The cooldowns of a unit

A `SpellHistory` keeps the cooldowns that run in `_spellCooldowns`, one entry for each spell, and it
keeps an index of them in `_categoryCooldowns`: for a category of spells, a pointer to the entry of
the spell of that category that was cast last.

An `unordered_map` never moves its nodes, so such a pointer stays good until its entry is erased.  An
entry that is erased and made anew is another node, though, even under the same key.  Here a node is a
number that is given out once, a pointer is a key together with the node it had, and following a
pointer is `deref`, which fails when the node is gone.

A point in time is the number of nanoseconds since the epoch.  Every call is made at a time, `now`,
which is the game time of the server.
-/

open Std (ExtTreeMap)

namespace Gundrak

/-! ## Spells and items -/

/-- The `SpellCategoryEntry` of a spell, with the one flag that is read here. -/
structure SpellCategoryEntry where
  Id : UInt32
  cooldownStartsOnEvent : Bool
deriving DecidableEq

/-- What a history reads of a spell.  The attributes and the prevention type are the bits of them that
are asked for. -/
structure SpellInfo where
  Id : UInt32
  CategoryEntry : Option SpellCategoryEntry
  RecoveryTime : UInt32
  CategoryRecoveryTime : UInt32
  /-- `SPELL_ATTR0_DISABLED_WHILE_ACTIVE` -/
  disabledWhileActive : Bool
  /-- `SPELL_ATTR2_AUTOREPEAT_FLAG` -/
  autoRepeat : Bool
  /-- `SPELL_ATTR6_IGNORE_CATEGORY_COOLDOWN_MODS` -/
  ignoreCategoryCooldownMods : Bool
  /-- whether the prevention type is `SPELL_PREVENTION_TYPE_SILENCE` -/
  preventedBySilence : Bool
  SchoolMask : UInt32
deriving DecidableEq

namespace SpellInfo

variable (spellInfo : SpellInfo)

def GetCategory : UInt32 := (spellInfo.CategoryEntry.map (·.Id)).getD 0

def IsCooldownStartedOnEvent : Bool :=
  spellInfo.disabledWhileActive || spellInfo.CategoryEntry.any (·.cooldownStartsOnEvent)

end SpellInfo

/-- One of the spells of an item template. -/
structure ItemSpell where
  SpellId : ℤ
  SpellCooldown : ℤ
  SpellCategory : UInt32
  SpellCategoryCooldown : ℤ

/-- The templates a history looks things up in: the spells of an item, when there is a template of it,
and the spell of an id (`AssertSpellInfo`, which does not return when there is none). -/
structure SpellStores where
  itemSpells : UInt32 → Option (List ItemSpell)
  spellInfo : UInt32 → SpellInfo

/-- A cooldown with its category, in milliseconds; `-1` is none. -/
structure CooldownDurations where
  cooldown : ℤ
  categoryId : UInt32
  categoryCooldown : ℤ

/-- `GetCooldownDurations`: some items bring cooldowns of their own for the spells on them. -/
def GetCooldownDurations (stores : SpellStores) (spellInfo : SpellInfo) (itemId : UInt32) :
    CooldownDurations :=
  let tmp : CooldownDurations :=
    match (if itemId = 0 then none else stores.itemSpells itemId) with
    | none => ⟨-1, 0, -1⟩
    | some spells =>
      match spells.find? fun s ↦ decide (uint32 s.SpellId = spellInfo.Id.toNat) with
      | none => ⟨-1, 0, -1⟩
      | some s => ⟨s.SpellCooldown, s.SpellCategory, s.SpellCategoryCooldown⟩
  -- if no cooldown found above then base at DBC data
  if tmp.cooldown < 0 ∧ tmp.categoryCooldown < 0 then
    ⟨int32 spellInfo.RecoveryTime.toNat, spellInfo.GetCategory, int32 spellInfo.CategoryRecoveryTime.toNat⟩
  else tmp

/-- What the owner of a history adds to the cooldown of a spell. -/
structure CooldownOwner where
  /-- `GetAttackTime(RANGED_ATTACK)` -/
  rangedAttackTime : ℤ
  /-- what `ApplySpellMod` makes of a cooldown, when there is an owner with spell modifiers -/
  spellMod : Option (UInt32 → ℤ → ℤ)
  /-- `GetTotalAuraModifier(SPELL_AURA_MOD_COOLDOWN)`, in seconds -/
  cooldownMod : ℤ
  /-- whether the owner is no player's, or the player has the spell -/
  hasSpell : UInt32 → Bool

/-! ## The history -/

structure CooldownEntry where
  SpellId : UInt32
  CooldownEnd : ℤ
  ItemId : UInt32
  CategoryId : UInt32
  CategoryEnd : ℤ
  OnHold : Bool
deriving DecidableEq

/-- An entry in its place in memory. -/
structure CooldownNode where
  node : ℕ
  entry : CooldownEntry
deriving DecidableEq

/-- A pointer to the entry that has the key `SpellId` and lives in the node `node`. -/
structure CooldownPtr where
  SpellId : UInt32
  node : ℕ
deriving DecidableEq

structure SpellHistory where
  _spellCooldowns : ExtTreeMap UInt32 CooldownNode compare := ∅
  _spellCooldownsBeforeDuel : ExtTreeMap UInt32 CooldownEntry compare := ∅
  _categoryCooldowns : ExtTreeMap UInt32 CooldownPtr compare := ∅
  _schoolLockouts : Fin 7 → ℤ := fun _ ↦ 0
  /-- the first node that was never used -/
  nextNode : ℕ := 0

namespace SpellHistory

/-- `std::chrono::milliseconds` as a duration of the clock. -/
def milliseconds (n : ℤ) : ℤ := n * 1000000

/-- A month. -/
def InfinityCooldownDelay : ℤ := milliseconds (30 * 24 * 3600 * 1000)

variable (h : SpellHistory)

/-- Follow a pointer. -/
def deref (p : CooldownPtr) : Option CooldownEntry :=
  (h._spellCooldowns[p.SpellId]?).bind fun n ↦ if n.node = p.node then some n.entry else none

/-- The node of `_spellCooldowns[spellId]`, which is a new one when the key is not there. -/
def nodeAt (spellId : UInt32) : ℕ :=
  match h._spellCooldowns[spellId]? with
  | some n => n.node
  | none => h.nextNode

/-- `_spellCooldowns[spellId] = e`. -/
def put (spellId : UInt32) (e : CooldownEntry) : SpellHistory :=
  { h with
    _spellCooldowns := h._spellCooldowns.insert spellId ⟨h.nodeAt spellId, e⟩
    nextNode := if spellId ∈ h._spellCooldowns then h.nextNode else h.nextNode + 1 }

def EraseCooldown (spellId : UInt32) : SpellHistory :=
  match h._spellCooldowns[spellId]? with
  | none => h
  | some n =>
    { h with
      _categoryCooldowns := h._categoryCooldowns.erase n.entry.CategoryId
      _spellCooldowns := h._spellCooldowns.erase spellId }

/-- One round of the second loop of `Update`. -/
def eraseIfExpired (now : ℤ) (h : SpellHistory) (spellId : UInt32) : SpellHistory :=
  match h._spellCooldowns[spellId]? with
  | some n => if n.entry.CooldownEnd < now then h.EraseCooldown spellId else h
  | none => h

/-- The second loop of `Update`. -/
def eraseExpired (now : ℤ) : SpellHistory := h._spellCooldowns.keys.foldl (eraseIfExpired now) h

/-- `Update`; `none` when a pointer in the index is followed to an entry that is gone. -/
def Update (now : ℤ) : Option SpellHistory :=
  if ∀ q ∈ h._categoryCooldowns.toList, (h.deref q.2).isSome then
    some (eraseExpired { h with
        _categoryCooldowns := h._categoryCooldowns.filter fun _ p ↦
          (h.deref p).any fun e ↦ !decide (e.CategoryEnd < now) }
      now)
  else none

def AddCooldown (spellId itemId : UInt32) (cooldownEnd : ℤ) (categoryId : UInt32) (categoryEnd : ℤ)
    (onHold : Bool) : SpellHistory :=
  let h' := h.put spellId ⟨spellId, cooldownEnd, itemId, categoryId, categoryEnd, onHold⟩
  if categoryId ≠ 0 then
    { h' with
      _categoryCooldowns := h'._categoryCooldowns.insert categoryId ⟨spellId, h.nodeAt spellId⟩ }
  else h'

/-- The times `StartCooldown` works out: the end of the cooldown, its category and the end of the
cooldown of the category; `none` when there is no cooldown to start. -/
def cooldownTimes (stores : SpellStores) (owner : CooldownOwner) (curTime : ℤ)
    (spellInfo : SpellInfo) (itemId : UInt32) (onHold : Bool) : Option (ℤ × UInt32 × ℤ) :=
  let d := GetCooldownDurations stores spellInfo itemId
  if onHold then
    let catrecTime := if d.categoryCooldown > 0 then curTime + InfinityCooldownDelay else curTime
    let recTime := if d.cooldown > 0 then curTime + InfinityCooldownDelay else catrecTime
    if recTime ≠ curTime then some (recTime, d.categoryId, catrecTime) else none
  else
    -- shoot spells used equipped item cooldown values already assigned in GetAttackTime
    let cooldown :=
      if d.cooldown ≤ 0 ∧ d.categoryCooldown ≤ 0 ∧ (d.categoryId = 76 ∨ spellInfo.autoRepeat ∧ spellInfo.Id ≠ 75) then
        owner.rangedAttackTime
      else d.cooldown
    let cooldown :=
      match owner.spellMod with
      | some mod => if cooldown ≥ 0 then mod spellInfo.Id cooldown else cooldown
      | none => cooldown
    let categoryCooldown :=
      match owner.spellMod with
      | some mod =>
        if d.categoryCooldown ≥ 0 ∧ !spellInfo.ignoreCategoryCooldownMods then
          mod spellInfo.Id d.categoryCooldown
        else d.categoryCooldown
      | none => d.categoryCooldown
    let cooldown :=
      if owner.cooldownMod ≠ 0 ∧ owner.hasSpell spellInfo.Id then
        cooldown + owner.cooldownMod * 1000
      else cooldown
    let cooldown := max cooldown 0
    let categoryCooldown := max categoryCooldown 0
    if cooldown = 0 ∧ categoryCooldown = 0 then none
    else
      let catrecTime := curTime + milliseconds categoryCooldown
      let recTime := if cooldown ≠ 0 then curTime + milliseconds cooldown else catrecTime
      if recTime ≠ curTime then some (recTime, d.categoryId, catrecTime) else none

def StartCooldown (stores : SpellStores) (owner : CooldownOwner) (now : ℤ) (spellInfo : SpellInfo)
    (itemId : UInt32) (onHold : Bool) : SpellHistory :=
  match cooldownTimes stores owner now spellInfo itemId onHold with
  | some (recTime, categoryId, catrecTime) =>
    h.AddCooldown spellInfo.Id itemId recTime categoryId catrecTime onHold
  | none => h

def ModifyCooldown (now : ℤ) (spellId : UInt32) (cooldownModMs : ℤ) : SpellHistory :=
  match h._spellCooldowns[spellId]? with
  | none => h
  | some n =>
    if cooldownModMs = 0 then h
    else if n.entry.CooldownEnd + milliseconds cooldownModMs > now then
      h.put spellId { n.entry with CooldownEnd := n.entry.CooldownEnd + milliseconds cooldownModMs }
    else h.EraseCooldown spellId

def ResetCooldown (spellId : UInt32) : SpellHistory := h.EraseCooldown spellId

def ResetAllCooldowns : SpellHistory := { h with _categoryCooldowns := ∅, _spellCooldowns := ∅ }

def HasCooldown (stores : SpellStores) (spellInfo : SpellInfo) (itemId : UInt32)
    (ignoreCategoryCooldown : Bool) : Bool :=
  if spellInfo.Id ∈ h._spellCooldowns then true
  else if ignoreCategoryCooldown then false
  else
    let category := (GetCooldownDurations stores spellInfo itemId).categoryId
    if category = 0 then false else decide (category ∈ h._categoryCooldowns)

/-- What is left of a cooldown that ends at `end_`, in milliseconds. -/
def remaining (now end_ : ℤ) : ℕ := if end_ < now then 0 else uint32 ((end_ - now).tdiv 1000000)

/-- `GetRemainingCooldown`; `none` when the pointer in the index is bad. -/
def GetRemainingCooldown (now : ℤ) (spellInfo : SpellInfo) : Option ℕ :=
  match h._spellCooldowns[spellInfo.Id]? with
  | some n => some (remaining now n.entry.CooldownEnd)
  | none =>
    match h._categoryCooldowns[spellInfo.GetCategory]? with
    | none => some 0
    | some p => (h.deref p).map fun e ↦ remaining now e.CategoryEnd

/-- Whether a school lock asks for the cooldown of a spell at all. -/
def lockable (schoolMask : UInt32) (spellInfo : SpellInfo) : Bool :=
  !spellInfo.IsCooldownStartedOnEvent && spellInfo.preventedBySilence &&
    schoolMask &&& spellInfo.SchoolMask != 0

/-- What `LockSpellSchool` does to one of the spells the owner knows. -/
def lockSpell (now : ℤ) (schoolMask lockoutTime : UInt32) (spellInfo : SpellInfo) :
    Option SpellHistory :=
  if lockable schoolMask spellInfo then
    (h.GetRemainingCooldown now spellInfo).map fun left ↦
      if left < lockoutTime.toNat then
        h.AddCooldown spellInfo.Id 0 (now + milliseconds lockoutTime.toNat) 0 now false
      else h
  else some h

/-- `LockSpellSchool`, for an owner who knows the spells `knownSpells`. -/
def LockSpellSchool (now : ℤ) (knownSpells : List SpellInfo) (schoolMask lockoutTime : UInt32) :
    Option SpellHistory :=
  knownSpells.foldlM (fun h spellInfo ↦ h.lockSpell now schoolMask lockoutTime spellInfo) { h with
      _schoolLockouts := fun i ↦
        if (1 : UInt32) <<< i.val.toUInt32 &&& schoolMask ≠ 0 then
          now + milliseconds lockoutTime.toNat
        else h._schoolLockouts i }

def SaveCooldownStateBeforeDuel : SpellHistory :=
  { h with _spellCooldownsBeforeDuel := h._spellCooldowns.map fun _ n ↦ n.entry }

/-- Whether a cooldown is that of a profession: more than ten minutes. -/
def isProfessionCooldown (spellInfo : SpellInfo) : Bool := decide (spellInfo.RecoveryTime.toNat > 10 * 60 * 1000) ||
    decide (spellInfo.CategoryRecoveryTime.toNat > 10 * 60 * 1000)

/-- The saved cooldowns together with all profession cooldowns made during the duel. -/
def withProfessionCooldowns (stores : SpellStores) : ExtTreeMap UInt32 CooldownEntry compare :=
  h._spellCooldowns.toList.foldl (fun before q ↦
      if isProfessionCooldown (stores.spellInfo q.1) then before.insert q.1 q.2.entry else before)
    h._spellCooldownsBeforeDuel

/-- Put one saved cooldown back, unless it or the one it replaces is on hold. -/
def restore (spellId : UInt32) (saved : CooldownEntry) : SpellHistory :=
  if saved.OnHold || (h._spellCooldowns[spellId]?).any (·.entry.OnHold) then h
  else h.put spellId saved

def RestoreCooldownStateAfterDuel (stores : SpellStores) (isPlayer : Bool) : SpellHistory :=
  if isPlayer then
    let before := h.withProfessionCooldowns stores
    before.toList.foldl (fun h q ↦ h.restore q.1 q.2) { h with _spellCooldownsBeforeDuel := before }
  else h

end SpellHistory

end Gundrak
