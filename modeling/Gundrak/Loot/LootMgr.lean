import Gundrak.Util.Descent
import Gundrak.Util.TreeMap

/-!
# Loot templates

A `LootTemplate` has entries, each an item or a reference to a template of `LootTemplates_Reference`, and groups of
items of which one is drawn.  `Process` rolls what is in a loot, and `HasQuestDrop` and `HasQuestDropForPlayer` look
for quest items.  They call themselves at the templates that entries refer to, and here get the number of nested calls
that they may make.  What is random, and the loot that is filled, is part of a call (`Dice`).

**`allEnd_iff`**: these functions end for all tables exactly if in none of them a template refers back to itself by
entries without a group.  Loading checks no such thing: `LootTemplate::Verify` is about chances, and what
`CheckLootRefs` finds is only reported.
-/

open Std (ExtTreeMap)

namespace Gundrak.LootTables

/-! ## The source -/

/-- `LootStoreItem`, without its conditions. -/
structure LootStoreItem where
  itemid : ℕ
  reference : ℕ
  chance : ℚ
  needs_quest : Bool
  lootmode : ℕ
  groupid : ℕ
  mincount : ℕ
  maxcount : ℕ

/-- `LootTemplate::LootGroup`. -/
structure LootGroup where
  ExplicitlyChanced : List LootStoreItem := []
  EqualChanced : List LootStoreItem := []

/-- `LootTemplate`. -/
structure LootTemplate where
  Entries : List LootStoreItem := []
  Groups : List (Option LootGroup) := []

/-- `LootTemplateMap`. -/
abbrev LootTemplateMap := ExtTreeMap ℕ LootTemplate

/-- All items of a group. -/
def LootGroup.items (group : LootGroup) : List LootStoreItem := group.ExplicitlyChanced ++ group.EqualChanced

section process

variable {World : Type}

/-- What is random, with the loot in the world: whether an entry takes its chance, which item is drawn from a group,
and `Loot::AddItem`.  `amount` applies `RATE_DROP_ITEM_REFERENCED_AMOUNT`. -/
structure Dice (World : Type) where
  roll_chance_f : World → LootStoreItem → Bool × World
  Roll : World → LootGroup → ℕ → Option LootStoreItem × World
  AddItem : World → LootStoreItem → World
  amount : ℕ → ℕ

variable (dice : Dice World) (lootMode : ℕ)

/-- `LootStoreItem::Roll`. -/
def LootStoreItem.Roll (item : LootStoreItem) (w : World) : Bool × World :=
  if 100 ≤ item.chance then (true, w) else dice.roll_chance_f w item

/-- `LootTemplate::LootGroup::Process`. -/
def LootGroup.Process (group : LootGroup) (w : World) : World :=
  let rolled := dice.Roll w group lootMode
  match rolled.1 with
  | some item => dice.AddItem rolled.2 item
  | none => rolled.2

variable (LootTemplates_Reference : LootTemplateMap)

/-- The loop of `LootTemplate::Process` over the entries, for one of them. -/
def processEntry (Process : LootTemplate → ℕ → World → Option World) (w : World) (item : LootStoreItem) :
    Option World :=
  if item.lootmode &&& lootMode = 0 then some w
  else
    let rolled := item.Roll dice w
    if !rolled.1 then some rolled.2
    else if item.reference > 0 then
      match LootTemplates_Reference[item.reference]? with
      | none => some rolled.2
      | some Referenced =>
        (List.range (dice.amount item.maxcount)).foldlM (fun w _ ↦ Process Referenced item.groupid w) rolled.2
    else some (dice.AddItem rolled.2 item)

/-- `LootTemplate::Process`, with at most so many nested calls. -/
def Process : ℕ → LootTemplate → ℕ → World → Option World
  | 0, _, _, _ => none
  | n + 1, template, groupId, w =>
    if groupId ≠ 0 then
      match template.Groups[groupId - 1]? with
      | some (some group) => some (group.Process dice lootMode w)
      | _ => some w
    else
      (template.Entries.foldlM (processEntry dice lootMode LootTemplates_Reference (Process n)) w).map fun w ↦
        template.Groups.reduceOption.foldl (fun w group ↦ group.Process dice lootMode w) w

end process

section quests

variable (store : LootTemplateMap) (isDrop : LootStoreItem → Bool)

/-- The loop of `LootTemplate::HasQuestDrop` over the entries; `others` is what is found in the groups. -/
def findDrop (hasDrop : LootTemplate → ℕ → Option Bool) (others : Bool) : List LootStoreItem → Option Bool
  | [] => some others
  | item :: items =>
    if item.reference > 0 then
      match store[item.reference]? with
      | none => findDrop hasDrop others items
      | some Referenced =>
        (hasDrop Referenced item.groupid).bind fun found ↦
          if found then some true else findDrop hasDrop others items
    else if isDrop item then some true
    else findDrop hasDrop others items

/-- What `LootTemplate::HasQuestDrop` and `LootTemplate::HasQuestDropForPlayer` do, for the items they look for. -/
def hasDrop : ℕ → LootTemplate → ℕ → Option Bool
  | 0, _, _ => none
  | n + 1, template, groupId =>
    if groupId ≠ 0 then
      match template.Groups[groupId - 1]? with
      | some (some group) => some (group.items.any isDrop)
      | _ => some false
    else
      findDrop store isDrop (hasDrop n) (template.Groups.reduceOption.any fun group ↦ group.items.any isDrop)
        template.Entries

/-- `LootTemplate::HasQuestDrop`. -/
def HasQuestDrop : ℕ → LootTemplate → ℕ → Option Bool := hasDrop store LootStoreItem.needs_quest

/-- `LootTemplate::HasQuestDropForPlayer`. -/
def HasQuestDropForPlayer (HasQuestForItem : ℕ → Bool) : ℕ → LootTemplate → ℕ → Option Bool :=
  hasDrop store fun item ↦ HasQuestForItem item.itemid

end quests

/-! ## Loading -/

/-- A row of a table of loot templates. -/
structure Row where
  Entry : ℕ
  Item : ℕ
  Reference : ℕ
  Chance : ℚ
  QuestRequired : Bool
  LootMode : ℕ
  GroupId : ℕ
  MinCount : ℕ
  MaxCount : ℕ

/-- The item of a row. -/
def Row.item (row : Row) : LootStoreItem where
  itemid := row.Item
  reference := row.Reference
  chance := row.Chance
  needs_quest := row.QuestRequired
  lootmode := row.LootMode
  groupid := row.GroupId
  mincount := row.MinCount
  maxcount := row.MaxCount

/-- `LootStoreItem::IsValid`; the items that exist are known. -/
def LootStoreItem.IsValid (itemExists : ℕ → Bool) (item : LootStoreItem) : Bool :=
  if item.mincount = 0 then false
  else if item.reference = 0 then
    itemExists item.itemid && !(item.chance = 0 && item.groupid = 0) &&
      !(item.chance ≠ 0 && item.chance < 1 / 1000000) && item.mincount ≤ item.maxcount
  else item.needs_quest || item.chance ≠ 0

/-- `LootTemplate::LootGroup::AddEntry`. -/
def LootGroup.AddEntry (group : LootGroup) (item : LootStoreItem) : LootGroup :=
  if item.chance ≠ 0 then { group with ExplicitlyChanced := group.ExplicitlyChanced ++ [item] }
  else { group with EqualChanced := group.EqualChanced ++ [item] }

/-- `LootTemplate::AddEntry`. -/
def LootTemplate.AddEntry (template : LootTemplate) (item : LootStoreItem) : LootTemplate :=
  if item.groupid > 0 ∧ item.reference = 0 then
    let groups := template.Groups ++ List.replicate (item.groupid - template.Groups.length) none
    let group := (groups.getD (item.groupid - 1) none).getD {}
    { template with Groups := groups.set (item.groupid - 1) (some (group.AddEntry item)) }
  else { template with Entries := template.Entries ++ [item] }

/-- `LootStore::LoadLootTable`, which gives up at a group that does not fit in seven bits. -/
def LoadLootTable (itemExists : ℕ → Bool) (m_LootTemplates : LootTemplateMap) : List Row → LootTemplateMap
  | [] => m_LootTemplates
  | row :: rows =>
    if 2 ^ 7 ≤ row.GroupId then m_LootTemplates
    else if row.item.IsValid itemExists then
      LoadLootTable itemExists
        (m_LootTemplates.insert row.Entry ((m_LootTemplates[row.Entry]?.getD {}).AddEntry row.item)) rows
    else LoadLootTable itemExists m_LootTemplates rows

/-- `LootTemplates_Reference` and all other stores. -/
structure LootStores where
  LootTemplates_Reference : LootTemplateMap
  others : List LootTemplateMap

/-- All tables are loaded. -/
def LoadLootTables (itemExists : ℕ → Bool) (references : List Row) (others : List (List Row)) : LootStores where
  LootTemplates_Reference := LoadLootTable itemExists ∅ references
  others := others.map (LoadLootTable itemExists ∅)

/-! ## The property -/

/-- The functions end at every template of every store, however the dice fall and whatever quests a player has. -/
def AllEnd (stores : LootStores) : Prop :=
  ∀ store ∈ stores.LootTemplates_Reference :: stores.others, ∀ (id : ℕ) (template : LootTemplate),
    store[id]? = some template → ∀ groupId, (∀ (World : Type) (dice : Dice World) (lootMode : ℕ) (w : World), ∃ n,
        (Process dice lootMode stores.LootTemplates_Reference n template groupId w).isSome) ∧
      (∃ n, (HasQuestDrop store n template groupId).isSome) ∧
      ∀ HasQuestForItem : ℕ → Bool, ∃ n, (HasQuestDropForPlayer store HasQuestForItem n template groupId).isSome

/-- The templates of the store to which entries of a template refer as a whole. -/
def refersOn (store : LootTemplateMap) (id : ℕ) : List ℕ :=
  (((store[id]?.getD {}).Entries.filter fun item ↦ item.groupid = 0).map LootStoreItem.reference).filter fun reference ↦
    reference > 0 ∧ store[reference]?.isSome

/-- In no store a template refers back to itself, through others or not. -/
def NoCycles (stores : LootStores) : Prop :=
  ∀ store ∈ stores.LootTemplates_Reference :: stores.others, Descent.Acyclic (refersOn store)

/-! ## References of a store -/

section references

variable {store : LootTemplateMap} {template : LootTemplate} {id : ℕ}

theorem mem_refersOn (hid : store[id]? = some template) {id' : ℕ} : id' ∈ refersOn store id ↔
    (∃ item ∈ template.Entries, item.groupid = 0 ∧ item.reference = id') ∧ id' > 0 ∧ (store[id']?).isSome := by
  rw [refersOn, hid, Option.getD_some]
  simp [and_assoc]

theorem acyclic_refersOn_iff (store : LootTemplateMap) :
    Descent.Acyclic (refersOn store) ↔ ∀ id, Acc (Descent.RefersTo (refersOn store)) id := by
  refine Descent.acyclic_iff (List.finite_toSet store.keys) fun id id' h ↦ ?_
  cases hid : store[id]? with
  | none => simp [refersOn, hid] at h
  | some template =>
    have hid' := ((mem_refersOn hid).1 h).2.2
    simp only [Set.mem_ofPred_eq, ExtTreeMap.mem_keys, ExtTreeMap.mem_iff_isSome_getElem?, hid, hid',
      Option.isSome_some, and_self]

/-- What needs one call more than the templates to which a template refers as a whole ends if none refers back to
itself. -/
theorem exists_calls (hacyclic : Descent.Acyclic (refersOn store)) (ends : ℕ → LootTemplate → Prop)
    (hstep : ∀ n m (template : LootTemplate), n + 1 < m → (∀ item ∈ template.Entries, item.groupid = 0 →
      item.reference > 0 → ∀ Referenced, store[item.reference]? = some Referenced → ∀ k, n < k → ends k Referenced) →
        ends m template) (template : LootTemplate) : ∃ n, ∀ m, n < m → ends m template := by
  have hmono : ∀ n id : ℕ, (∀ template, store[id]? = some template → ∀ k, n < k → ends k template) →
      ∀ template, store[id]? = some template → ∀ k, n + 1 < k → ends k template :=
    fun n id h template hid k hk ↦ h template hid k (by omega)
  have hstore (id : ℕ) : ∃ n, ∀ template, store[id]? = some template → ∀ k, n < k → ends k template := by
    have hacc := (acyclic_refersOn_iff store).1 hacyclic id
    refine Descent.exists_ends _ hmono (fun n id h template hid m hm ↦ ?_) hacc
    refine hstep n m template hm fun item hitem hg href Referenced hfind ↦ h item.reference ?_ Referenced hfind
    exact (mem_refersOn hid).2 ⟨⟨item, hitem, hg, rfl⟩, href, by rw [hfind, Option.isSome_some]⟩
  obtain ⟨n, hn⟩ := Descent.exists_ends_forall
    (fun n id ↦ ∀ template, store[id]? = some template → ∀ k, n < k → ends k template) hmono
    (template.Entries.map LootStoreItem.reference) fun id _ ↦ hstore id
  exact ⟨n + 1, fun m hm ↦ hstep n m template hm fun item hitem _ _ Referenced hfind ↦
    hn item.reference (List.mem_map_of_mem hitem) Referenced hfind⟩

end references

/-! ## `Process` -/

section process

variable {World : Type} {dice : Dice World} {lootMode : ℕ} {LootTemplates_Reference : LootTemplateMap}
variable {template : LootTemplate}

theorem foldlM_isSome {α β : Type} {f : β → α → Option β} {l : List α} (h : ∀ a ∈ l, ∀ b, (f b a).isSome) :
    ∀ b, (l.foldlM f b).isSome := by
  induction l with
  | nil => exact fun b ↦ rfl
  | cons a l ih =>
    intro b
    obtain ⟨b', hb'⟩ := Option.isSome_iff_exists.1 (h a List.mem_cons_self b)
    rw [List.foldlM_cons, hb']
    exact ih (fun a' ha' ↦ h a' (List.mem_cons_of_mem a ha')) b'

/-- An entry is processed if the template to which it refers can be. -/
theorem processEntry_isSome {process : LootTemplate → ℕ → World → Option World} {item : LootStoreItem}
    (h : item.reference > 0 → ∀ Referenced, LootTemplates_Reference[item.reference]? = some Referenced →
      ∀ w, (process Referenced item.groupid w).isSome) (w : World) :
    (processEntry dice lootMode LootTemplates_Reference process w item).isSome := by
  unfold processEntry
  split
  · rfl
  dsimp only
  split
  · rfl
  split
  · rename_i href
    split
    · rfl
    · rename_i Referenced hfind
      exact foldlM_isSome (fun _ _ w ↦ h href Referenced hfind w) _
  · rfl

theorem Process_group_isSome {n groupId : ℕ} (hn : 0 < n) (hg : groupId ≠ 0) (w : World) :
    (Process dice lootMode LootTemplates_Reference n template groupId w).isSome := by
  obtain ⟨n, rfl⟩ : ∃ k, n = k + 1 := ⟨n - 1, by omega⟩
  rw [Process, if_pos hg]
  split <;> rfl

/-- A template is processed with one call more than those to which it refers as a whole. -/
theorem Process_isSome {n m : ℕ} (hm : n + 1 < m) (h : ∀ item ∈ template.Entries, item.groupid = 0 →
    item.reference > 0 → ∀ Referenced, LootTemplates_Reference[item.reference]? = some Referenced →
      ∀ k, n < k → ∀ w, (Process dice lootMode LootTemplates_Reference k Referenced 0 w).isSome) (w : World) :
    (Process dice lootMode LootTemplates_Reference m template 0 w).isSome := by
  obtain ⟨m, rfl⟩ : ∃ k, m = k + 1 := ⟨m - 1, by omega⟩
  rw [Process, if_neg (by simp), Option.isSome_map]
  refine foldlM_isSome (fun item hitem w ↦ processEntry_isSome (fun href Referenced hfind w ↦ ?_) w) w
  by_cases hg : item.groupid = 0
  · rw [hg]
    exact h item hitem hg href Referenced hfind m (by omega) w
  · exact Process_group_isSome (by omega) hg w

theorem exists_process (hacyclic : Descent.Acyclic (refersOn LootTemplates_Reference)) (groupId : ℕ) (w : World) :
    ∃ n, (Process dice lootMode LootTemplates_Reference n template groupId w).isSome := by
  by_cases hg : groupId = 0
  · subst hg
    obtain ⟨n, hn⟩ := exists_calls hacyclic
      (fun n template ↦ ∀ w, (Process dice lootMode LootTemplates_Reference n template 0 w).isSome)
      (fun n m template hm h ↦ Process_isSome hm h) template
    exact ⟨n + 1, hn (n + 1) (by omega) w⟩
  · exact ⟨1, Process_group_isSome (by omega) hg w⟩

end process

/-! ## `HasQuestDrop` and `HasQuestDropForPlayer` -/

section quests

variable {store : LootTemplateMap} {isDrop : LootStoreItem → Bool} {template : LootTemplate}

theorem findDrop_isSome {has : LootTemplate → ℕ → Option Bool} {others : Bool} {items : List LootStoreItem}
    (h : ∀ item ∈ items, item.reference > 0 → ∀ Referenced, store[item.reference]? = some Referenced →
      (has Referenced item.groupid).isSome) : (findDrop store isDrop has others items).isSome := by
  induction items with
  | nil => rfl
  | cons item items ih =>
    have hrest := ih fun item' hitem' ↦ h item' (List.mem_cons_of_mem item hitem')
    unfold findDrop
    split
    · rename_i href
      split
      · exact hrest
      · rename_i Referenced hfind
        obtain ⟨found, hfound⟩ := Option.isSome_iff_exists.1 (h item List.mem_cons_self href Referenced hfind)
        rw [hfound, Option.bind_some]
        split
        · rfl
        · exact hrest
    · split
      · rfl
      · exact hrest

theorem hasDrop_group_isSome {n groupId : ℕ} (hn : 0 < n) (hg : groupId ≠ 0) :
    (hasDrop store isDrop n template groupId).isSome := by
  obtain ⟨n, rfl⟩ : ∃ k, n = k + 1 := ⟨n - 1, by omega⟩
  rw [hasDrop, if_pos hg]
  split <;> rfl

theorem hasDrop_isSome {n m : ℕ} (hm : n + 1 < m) (h : ∀ item ∈ template.Entries, item.groupid = 0 →
    item.reference > 0 → ∀ Referenced, store[item.reference]? = some Referenced →
      ∀ k, n < k → (hasDrop store isDrop k Referenced 0).isSome) : (hasDrop store isDrop m template 0).isSome := by
  obtain ⟨m, rfl⟩ : ∃ k, m = k + 1 := ⟨m - 1, by omega⟩
  rw [hasDrop, if_neg (by simp)]
  refine findDrop_isSome fun item hitem href Referenced hfind ↦ ?_
  by_cases hg : item.groupid = 0
  · rw [hg]
    exact h item hitem hg href Referenced hfind m (by omega)
  · exact hasDrop_group_isSome (by omega) hg

theorem exists_hasDrop (hacyclic : Descent.Acyclic (refersOn store)) (groupId : ℕ) :
    ∃ n, (hasDrop store isDrop n template groupId).isSome := by
  by_cases hg : groupId = 0
  · subst hg
    obtain ⟨n, hn⟩ := exists_calls hacyclic (fun n template ↦ (hasDrop store isDrop n template 0).isSome)
      (fun n m template hm h ↦ hasDrop_isSome hm h) template
    exact ⟨n + 1, hn (n + 1) (by omega)⟩
  · exact ⟨1, hasDrop_group_isSome (by omega) hg⟩

/-! Where nothing is looked for, all entries are asked. -/

/-- What is looked for by a player who has no quests. -/
def nothing : LootStoreItem → Bool := fun _ ↦ false

theorem findDrop_nothing {has : LootTemplate → ℕ → Option Bool} (hhas : ∀ t g b, has t g = some b → b = false)
    {items : List LootStoreItem} {found : Bool} (h : findDrop store nothing has false items = some found) :
    found = false ∧ ∀ item ∈ items, item.reference > 0 → ∀ Referenced, store[item.reference]? = some Referenced →
      (has Referenced item.groupid).isSome := by
  induction items with
  | nil => exact ⟨(Option.some.inj h).symm, by simp⟩
  | cons item items ih =>
    rw [findDrop] at h
    simp only [List.forall_mem_cons]
    split at h
    · split at h
      · rename_i hnone
        exact ⟨(ih h).1, fun _ Referenced hfind ↦ by simp [hnone] at hfind, (ih h).2⟩
      · rename_i Referenced hfind
        obtain ⟨b, hb, h⟩ := Option.bind_eq_some_iff.1 h
        rw [hhas _ _ _ hb, if_neg (by decide)] at h
        refine ⟨(ih h).1, fun _ Referenced' hfind' ↦ ?_, (ih h).2⟩
        rw [hfind, Option.some.injEq] at hfind'
        simp [← hfind', hb]
    · rename_i href
      rw [nothing, if_neg (by decide)] at h
      exact ⟨(ih h).1, fun href' ↦ absurd href' href, (ih h).2⟩

theorem hasDrop_succ_nothing {n groupId : ℕ} : hasDrop store nothing (n + 1) template groupId =
    if groupId ≠ 0 then some false else findDrop store nothing (hasDrop store nothing n) false template.Entries := by
  have hany (items : List LootStoreItem) : items.any nothing = false := List.any_eq_false.2 fun _ _ ↦ by simp [nothing]
  have hgroups : (template.Groups.reduceOption.any fun group ↦ group.items.any nothing) = false :=
    List.any_eq_false.2 fun group _ ↦ by rw [hany]; exact Bool.false_ne_true
  rw [hasDrop, hgroups]
  split
  · split <;> simp [hany]
  · rfl

theorem hasDrop_nothing : ∀ (n : ℕ) (template : LootTemplate) (groupId : ℕ) (found : Bool),
    hasDrop store nothing n template groupId = some found → found = false
  | 0, _, _, _, h => by cases h
  | n + 1, template, groupId, found, h => by
    rw [hasDrop_succ_nothing] at h
    split at h
    · exact (Option.some.inj h).symm
    · exact (findDrop_nothing (hasDrop_nothing n) h).1

/-- A player without quests makes the search follow all references. -/
theorem hasDrop_references {n : ℕ} (h : (hasDrop store nothing (n + 1) template 0).isSome) :
    ∀ item ∈ template.Entries, item.reference > 0 → ∀ Referenced, store[item.reference]? = some Referenced →
      (hasDrop store nothing n Referenced item.groupid).isSome := by
  obtain ⟨found, hfound⟩ := Option.isSome_iff_exists.1 h
  rw [hasDrop_succ_nothing, if_neg (by simp)] at hfound
  exact (findDrop_nothing (hasDrop_nothing n) hfound).2

/-- If the search ends for a player without quests then no template refers back to itself. -/
theorem acyclic_of_hasDrop (h : ∀ (id : ℕ) (template : LootTemplate), store[id]? = some template →
    ∃ n, (hasDrop store nothing n template 0).isSome) : Descent.Acyclic (refersOn store) := by
  refine (acyclic_refersOn_iff store).2 fun id ↦ ?_
  cases hid : store[id]? with
  | none => exact ⟨id, fun id' h ↦ by simp [Descent.RefersTo, refersOn, hid] at h⟩
  | some template =>
    obtain ⟨n, hn⟩ := h id template hid
    refine Descent.acc_of_ends (fun n id ↦ ∃ template, store[id]? = some template ∧
      (hasDrop store nothing n template 0).isSome) (fun id h ↦ ?_) (fun n id h id' hid' ↦ ?_) n id ⟨template, hid, hn⟩
    · obtain ⟨template, -, h⟩ := h
      cases h
    · obtain ⟨template, hid, hn⟩ := h
      obtain ⟨⟨item, hitem, hg, rfl⟩, href, hfound⟩ := (mem_refersOn hid).1 hid'
      obtain ⟨Referenced, hfind⟩ := Option.isSome_iff_exists.1 hfound
      have := hasDrop_references hn item hitem href Referenced hfind
      rw [hg] at this
      exact ⟨Referenced, hfind, this⟩

end quests

/-- **When the recursions over loot templates end.**  For every loaded reference table and all other tables, they end
at every template exactly if in no table a template refers back to itself by entries without a group. -/
theorem allEnd_iff (itemExists : ℕ → Bool) (references : List Row) (others : List (List Row)) :
    AllEnd (LoadLootTables itemExists references others) ↔ NoCycles (LoadLootTables itemExists references others) := by
  generalize LoadLootTables itemExists references others = stores
  constructor
  · intro h store hstore
    refine acyclic_of_hasDrop fun id template hid ↦ ?_
    exact (h store hstore id template hid 0).2.2 fun _ ↦ false
  · intro h store hstore id template _ groupId
    exact ⟨fun _ dice lootMode w ↦ exists_process (h _ List.mem_cons_self) groupId w,
      exists_hasDrop (h store hstore) groupId, fun _ ↦ exists_hasDrop (h store hstore) groupId⟩

/-- A reference that always drops. -/
def referenceRow (entry reference : ℕ) : Row where
  Entry := entry
  Item := 1
  Reference := reference
  Chance := 100
  QuestRequired := false
  LootMode := 1
  GroupId := 0
  MinCount := 1
  MaxCount := 1

/-- Two templates of `reference_loot_template` that refer to each other are loaded, and the search of a player without
quests does not end. -/
theorem not_allEnd_of_cycle : ¬∀ (itemExists : ℕ → Bool) (references : List Row) (others : List (List Row)),
    AllEnd (LoadLootTables itemExists references others) := by
  intro h
  have hends := h (fun _ ↦ true) [referenceRow 1 2, referenceRow 2 1] []
  have hcycle := acyclic_of_hasDrop fun id template hid ↦
    (hends (LoadLootTables (fun _ ↦ true) [referenceRow 1 2, referenceRow 2 1] []).LootTemplates_Reference
      List.mem_cons_self id template hid 0).2.2 fun _ ↦ false
  refine hcycle 1 (.tail (b := 2) (.single ?_) ?_)
  · rw [Descent.RefersTo]
    decide +kernel
  · rw [Descent.RefersTo]
    decide +kernel

end Gundrak.LootTables
