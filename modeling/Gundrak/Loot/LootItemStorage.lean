import Gundrak.Util.Machine
import Gundrak.Util.TreeMap

/-!
# Stored loot

The loot of an item that can be opened, a clam or a lockbox, is rolled once and kept until it has been taken: in the
memory of the `LootItemStorage`, and in the tables `item_loot_items` and `item_loot_money`, from which
`LoadStorageFromDB` builds the memory when the server starts.  `AddNewStoredLoot`, `RemoveStoredLootItemForContainer`,
`RemoveStoredMoneyForContainer` and `RemoveStoredLootForContainer` change both, each in its own way.

The two should always agree (`LootItemStorage.Agrees`), so that a restart between two lootings changes nothing.  They do
as long as no call takes out one of several stored items with the same id and count: the memory then loses one of them,
but the statement deletes the rows of all of them.  `storedLoot_agrees` is about every run without such a call.  In
such a run what has been stored is there when it is opened again (`loadStoredLoot_of_stored`).

The statements of a call are executed at once.  What a player may have and the templates of items are part of a call.
-/

open Std (ExtTreeMap)

namespace Gundrak.LootStorage

/-! ## Loot -/

/-- What is stored of a `LootItem`, and the address of its `conditions`. -/
structure LootItem where
  itemid : ℕ
  count : UInt8
  follow_loot_rules : Bool
  freeforall : Bool
  is_blocked : Bool
  is_counted : Bool
  is_underthreshold : Bool
  needs_quest : Bool
  randomPropertyId : ℤ
  randomSuffix : ℕ
  conditions : ℕ
deriving DecidableEq

/-- `Loot`, as far as it is stored. -/
structure Loot where
  containerID : ℕ
  gold : ℕ
  unlootedCount : UInt8
  items : List LootItem

/-- `Loot::isLooted`. -/
def Loot.isLooted (loot : Loot) : Bool := loot.gold == 0 && loot.unlootedCount == 0

/-- What is asked of a player and of the template of an item. -/
structure View where
  AllowedForPlayer : LootItem → Bool
  /-- `IsCurrencyToken` of the template, if there is one. -/
  IsCurrencyToken : ℕ → Option Bool

/-! ## The tables -/

/-- A row of `item_loot_items`. -/
structure ItemRow where
  container_id : ℕ
  item_id : ℕ
  item_count : ℕ
  follow_rules : Bool
  ffa : Bool
  blocked : Bool
  counted : Bool
  under_threshold : Bool
  needs_quest : Bool
  rnd_prop : ℤ
  rnd_suffix : ℕ
deriving DecidableEq

/-- A row of `item_loot_money`. -/
structure MoneyRow where
  container_id : ℕ
  money : ℕ
deriving DecidableEq

/-- The two tables. -/
structure Database where
  item_loot_items : List ItemRow
  item_loot_money : List MoneyRow

/-- The prepared statements that change the tables. -/
inductive PreparedStatement where
  | CHAR_DEL_ITEMCONTAINER_ITEMS (container_id : ℕ)
  | CHAR_DEL_ITEMCONTAINER_ITEM (container_id item_id item_count : ℕ)
  | CHAR_INS_ITEMCONTAINER_ITEMS (row : ItemRow)
  | CHAR_DEL_ITEMCONTAINER_MONEY (container_id : ℕ)
  | CHAR_INS_ITEMCONTAINER_MONEY (row : MoneyRow)

open PreparedStatement

namespace Database

/-- What a statement does. -/
def Execute (db : Database) : PreparedStatement → Database
  | CHAR_DEL_ITEMCONTAINER_ITEMS c =>
    { db with item_loot_items := db.item_loot_items.filter fun row ↦ row.container_id ≠ c }
  | CHAR_DEL_ITEMCONTAINER_ITEM c i n =>
    { db with item_loot_items := db.item_loot_items.filter fun row ↦
        !(row.container_id == c && row.item_id == i && row.item_count == n) }
  | CHAR_INS_ITEMCONTAINER_ITEMS row => { db with item_loot_items := db.item_loot_items ++ [row] }
  | CHAR_DEL_ITEMCONTAINER_MONEY c =>
    { db with item_loot_money := db.item_loot_money.filter fun row ↦ row.container_id ≠ c }
  | CHAR_INS_ITEMCONTAINER_MONEY row => { db with item_loot_money := db.item_loot_money ++ [row] }

/-- `CommitTransaction`. -/
def CommitTransaction (db : Database) (trans : List PreparedStatement) : Database := trans.foldl Execute db

end Database

/-- `SQLTransaction`; a null pointer when the storage is loaded. -/
abbrev SQLTransaction := Option (List PreparedStatement)

/-- `Append`, if there is a transaction. -/
def SQLTransaction.Append (trans : SQLTransaction) (stmt : PreparedStatement) : SQLTransaction :=
  Option.map (· ++ [stmt]) trans

/-! ## Containers -/

/-- `StoredLootItem`. -/
structure StoredLootItem where
  ItemId : ℕ
  Count : ℕ
  FollowRules : Bool
  FFA : Bool
  Blocked : Bool
  Counted : Bool
  UnderThreshold : Bool
  NeedsQuest : Bool
  RandomPropertyId : ℤ
  RandomSuffix : ℕ
deriving DecidableEq

/-- The constructor of `StoredLootItem`. -/
def StoredLootItem.new (lootItem : LootItem) : StoredLootItem where
  ItemId := lootItem.itemid
  Count := lootItem.count.toNat
  FollowRules := lootItem.follow_loot_rules
  FFA := lootItem.freeforall
  Blocked := lootItem.is_blocked
  Counted := lootItem.is_counted
  UnderThreshold := lootItem.is_underthreshold
  NeedsQuest := lootItem.needs_quest
  RandomPropertyId := lootItem.randomPropertyId
  RandomSuffix := lootItem.randomSuffix

/-- Whether a stored item is one that `RemoveItem` looks for. -/
def StoredLootItem.is (itemId count : ℕ) (item : StoredLootItem) : Bool := item.ItemId == itemId && item.Count == count

/-- `StoredLootContainer`, without its id. -/
structure StoredLootContainer where
  _lootItems : List StoredLootItem
  _money : ℕ

namespace StoredLootContainer

/-- A container with nothing in it. -/
def new : StoredLootContainer := ⟨[], 0⟩

/-- `StoredLootContainer::AddLootItem`. -/
def AddLootItem (containerId : ℕ) (lootItem : LootItem) (s : StoredLootContainer × SQLTransaction) :
    StoredLootContainer × SQLTransaction :=
  ({ s.1 with _lootItems := s.1._lootItems ++ [StoredLootItem.new lootItem] },
    s.2.Append (CHAR_INS_ITEMCONTAINER_ITEMS {
      container_id := containerId
      item_id := lootItem.itemid
      item_count := lootItem.count.toNat
      follow_rules := lootItem.follow_loot_rules
      ffa := lootItem.freeforall
      blocked := lootItem.is_blocked
      counted := lootItem.is_counted
      under_threshold := lootItem.is_underthreshold
      needs_quest := lootItem.needs_quest
      rnd_prop := lootItem.randomPropertyId
      rnd_suffix := lootItem.randomSuffix }))

/-- `StoredLootContainer::AddMoney`. -/
def AddMoney (containerId money : ℕ) (s : StoredLootContainer × SQLTransaction) :
    StoredLootContainer × SQLTransaction :=
  ({ s.1 with _money := money },
    (s.2.Append (CHAR_DEL_ITEMCONTAINER_MONEY containerId)).Append (CHAR_INS_ITEMCONTAINER_MONEY ⟨containerId, money⟩))

/-- `StoredLootContainer::RemoveMoney`, with its statement. -/
def RemoveMoney (containerId : ℕ) (s : StoredLootContainer × Database) : StoredLootContainer × Database :=
  ({ s.1 with _money := 0 }, s.2.Execute (CHAR_DEL_ITEMCONTAINER_MONEY containerId))

/-- `StoredLootContainer::RemoveItem`, with its statement.  The map is unordered, so any of the items with this id
and count may be the one it finds first; `which` says which one it is. -/
def RemoveItem (containerId itemId count which : ℕ) (s : StoredLootContainer × Database) :
    StoredLootContainer × Database :=
  let found := s.1._lootItems.filter (·.is itemId count)
  (match found[which % found.length]? with
    | some item => { s.1 with _lootItems := s.1._lootItems.erase item }
    | none => s.1,
    s.2.Execute (CHAR_DEL_ITEMCONTAINER_ITEM containerId itemId count))

end StoredLootContainer

/-! ## The storage -/

/-- `_lootItemStore`. -/
abbrev Store := ExtTreeMap ℕ StoredLootContainer

/-- `LootItemStorage`, with the tables. -/
structure LootItemStorage where
  _lootItemStore : Store
  db : Database

/-- The item of a row; its count is a byte. -/
def ItemRow.lootItem (row : ItemRow) : LootItem where
  itemid := row.item_id
  count := UInt8.ofNat row.item_count
  follow_loot_rules := row.follow_rules
  freeforall := row.ffa
  is_blocked := row.blocked
  is_counted := row.counted
  is_underthreshold := row.under_threshold
  needs_quest := row.needs_quest
  randomPropertyId := row.rnd_prop
  randomSuffix := row.rnd_suffix
  conditions := 0

/-- A row of `item_loot_items` is read. -/
def loadItem (store : Store) (row : ItemRow) : Store :=
  let storedContainer := (store[row.container_id]?).getD .new
  store.insert row.container_id
    (StoredLootContainer.AddLootItem row.container_id row.lootItem (storedContainer, none)).1

/-- A row of `item_loot_money` is read. -/
def loadMoney (store : Store) (row : MoneyRow) : Store :=
  let storedContainer := (store[row.container_id]?).getD .new
  store.insert row.container_id (StoredLootContainer.AddMoney row.container_id row.money (storedContainer, none)).1

/-- The memory that `LoadStorageFromDB` builds from the tables. -/
def Database.rebuild (db : Database) : Store := db.item_loot_money.foldl loadMoney (db.item_loot_items.foldl loadItem ∅)

/-- What the store holds for a container: nothing, when it has none. -/
def Store.container (store : Store) (containerId : ℕ) : StoredLootContainer := (store[containerId]?).getD .new

/-- A loot item for a stored one, with the `conditions` that the template of the opened item has for it. -/
def StoredLootItem.lootItem (CopyConditions : ℕ → ℕ) (stored : StoredLootItem) : LootItem where
  itemid := stored.ItemId
  count := UInt8.ofNat stored.Count
  follow_loot_rules := stored.FollowRules
  freeforall := stored.FFA
  is_blocked := stored.Blocked
  is_counted := stored.Counted
  is_underthreshold := stored.UnderThreshold
  needs_quest := stored.NeedsQuest
  randomPropertyId := stored.RandomPropertyId
  randomSuffix := stored.RandomSuffix
  conditions := CopyConditions stored.ItemId

namespace LootItemStorage

variable (s : LootItemStorage)

/-- `LootItemStorage::LoadStorageFromDB`. -/
def LoadStorageFromDB : LootItemStorage := { s with _lootItemStore := s.db.rebuild }

/-- `LootItemStorage::LoadStoredLoot`; `lt` is the loot template of the opened item, if it has one. -/
def LoadStoredLoot (loot : Loot) (lt : Option (ℕ → ℕ)) : Option Loot :=
  match s._lootItemStore[loot.containerID]? with
  | none => none
  | some container =>
    let loot := { loot with gold := container._money }
    match lt with
    | none => some loot
    | some CopyConditions =>
      some { loot with
        items := loot.items ++ container._lootItems.map (·.lootItem CopyConditions)
        unlootedCount := loot.unlootedCount + UInt8.ofNat container._lootItems.length }

/-- `LootItemStorage::RemoveStoredMoneyForContainer`. -/
def RemoveStoredMoneyForContainer (containerId : ℕ) : LootItemStorage :=
  match s._lootItemStore[containerId]? with
  | none => s
  | some container =>
    let removed := StoredLootContainer.RemoveMoney containerId (container, s.db)
    ⟨s._lootItemStore.insert containerId removed.1, removed.2⟩

/-- `LootItemStorage::RemoveStoredLootForContainer`. -/
def RemoveStoredLootForContainer (containerId : ℕ) : LootItemStorage where
  _lootItemStore := s._lootItemStore.erase containerId
  db := s.db.CommitTransaction [CHAR_DEL_ITEMCONTAINER_ITEMS containerId, CHAR_DEL_ITEMCONTAINER_MONEY containerId]

/-- `LootItemStorage::RemoveStoredLootItemForContainer`. -/
def RemoveStoredLootItemForContainer (containerId itemId count which : ℕ) : LootItemStorage :=
  match s._lootItemStore[containerId]? with
  | none => s
  | some container =>
    let removed := StoredLootContainer.RemoveItem containerId itemId count which (container, s.db)
    ⟨s._lootItemStore.insert containerId removed.1, removed.2⟩

/-- The items of a loot that are saved. -/
def saved (view : View) (li : LootItem) : Bool :=
  view.AllowedForPlayer li && view.IsCurrencyToken li.itemid == some false

/-- `LootItemStorage::AddNewStoredLoot`. -/
def AddNewStoredLoot (loot : Loot) (view : View) : LootItemStorage :=
  if loot.isLooted then s
  else if loot.containerID ∈ s._lootItemStore then s
  else
    let start : StoredLootContainer × SQLTransaction := (.new, some [])
    let money := if loot.gold ≠ 0 then StoredLootContainer.AddMoney loot.containerID loot.gold start else start
    let cleared := (money.1, money.2.Append (CHAR_DEL_ITEMCONTAINER_ITEMS loot.containerID))
    let stored := loot.items.foldl
      (fun c li ↦ if saved view li then StoredLootContainer.AddLootItem loot.containerID li c else c) cleared
    ⟨s._lootItemStore.insert loot.containerID stored.1, s.db.CommitTransaction (stored.2.getD [])⟩

/-! ## The machine -/

/-- The calls; the server can be started again at any time. -/
inductive Call where
  | AddNewStoredLoot (loot : Loot) (view : View)
  | RemoveStoredLootItemForContainer (containerId itemId count which : ℕ)
  | RemoveStoredMoneyForContainer (containerId : ℕ)
  | RemoveStoredLootForContainer (containerId : ℕ)
  | LoadStorageFromDB

/-- What a call does. -/
def apply : Call → LootItemStorage
  | .AddNewStoredLoot loot view => s.AddNewStoredLoot loot view
  | .RemoveStoredLootItemForContainer c i n which => s.RemoveStoredLootItemForContainer c i n which
  | .RemoveStoredMoneyForContainer c => s.RemoveStoredMoneyForContainer c
  | .RemoveStoredLootForContainer c => s.RemoveStoredLootForContainer c
  | .LoadStorageFromDB => s.LoadStorageFromDB

/-- The storage of a new server, with empty tables, and its calls. -/
def machine : Machine LootItemStorage Call where
  start := ⟨∅, ⟨[], []⟩⟩
  next s a := some (s.apply a)

/-! ## Memory and tables -/

/-- The memory holds the same items, in some order, and the same money for each container as would be built from the
tables. -/
def Agrees : Prop := ∀ c, ((s._lootItemStore.container c)._lootItems.Perm (s.db.rebuild.container c)._lootItems) ∧
    (s._lootItemStore.container c)._money = (s.db.rebuild.container c)._money

/-- At most one stored item is one that the call takes out. -/
def Single : Call → Prop
  | .RemoveStoredLootItemForContainer c i n _ =>
    ((s._lootItemStore.container c)._lootItems.filter (·.is i n)).length ≤ 1
  | _ => True

instance Single.decidable (s : LootItemStorage) : ∀ a, Decidable (s.Single a)
  | .RemoveStoredLootItemForContainer _ _ _ _ => inferInstanceAs (Decidable (_ ≤ _))
  | .AddNewStoredLoot _ _ | .RemoveStoredMoneyForContainer _ | .RemoveStoredLootForContainer _
  | .LoadStorageFromDB => isTrue trivial

end LootItemStorage

/-! ## What is built from the tables -/

namespace Store

variable (store : Store) (c d : ℕ) (container : StoredLootContainer)

theorem container_insert :
    Store.container (store.insert c container) d = if c = d then container else Store.container store d := by
  rw [Store.container, TreeMap.get_insert, Store.container]
  split <;> rfl

theorem container_erase : Store.container (store.erase c) d = if c = d then .new else Store.container store d := by
  rw [Store.container, TreeMap.get_erase, Store.container]
  split <;> rfl

end Store

namespace Database

/-- The item a row stands for. -/
def stored (row : ItemRow) : StoredLootItem := .new row.lootItem

/-- The items that are built for a container. -/
def items (db : Database) (c : ℕ) : List StoredLootItem :=
  (db.item_loot_items.filter fun row ↦ row.container_id = c).map stored

/-- The money that is built for a container: that of the last row. -/
def money (db : Database) (c : ℕ) : ℕ :=
  ((db.item_loot_money.filter fun row ↦ row.container_id = c).getLast?).elim 0 (·.money)

theorem foldl_loadItem (rows : List ItemRow) (store : Store) (c : ℕ) : Store.container (rows.foldl loadItem store) c =
      ⟨(Store.container store c)._lootItems ++ (rows.filter fun row ↦ row.container_id = c).map stored,
        (Store.container store c)._money⟩ := by
  induction rows generalizing store with
  | nil => simp
  | cons row rows ih =>
    rw [List.foldl_cons, ih, loadItem, Store.container_insert]
    by_cases hc : row.container_id = c
    · subst hc
      simp [StoredLootContainer.AddLootItem, Store.container, stored]
    · simp [hc]

theorem foldl_loadMoney (rows : List MoneyRow) (store : Store) (c : ℕ) :
    Store.container (rows.foldl loadMoney store) c = ⟨(Store.container store c)._lootItems,
        ((rows.filter fun row ↦ row.container_id = c).getLast?).elim (Store.container store c)._money (·.money)⟩ := by
  induction rows generalizing store with
  | nil => rfl
  | cons row rows ih =>
    rw [List.foldl_cons, ih, loadMoney, Store.container_insert]
    by_cases hc : row.container_id = c
    · subst hc
      rw [if_pos rfl, List.filter_cons_of_pos (by simp), List.getLast?_cons]
      cases (rows.filter fun row' ↦ row'.container_id = row.container_id).getLast? <;>
        simp [StoredLootContainer.AddMoney, Store.container]
    · simp [hc]

theorem container_rebuild (db : Database) (c : ℕ) : db.rebuild.container c = ⟨db.items c, db.money c⟩ := by
  rw [rebuild, foldl_loadMoney, foldl_loadItem]
  simp [Store.container, StoredLootContainer.new, items, money]

/-! ## What the statements change -/

variable (db : Database) (c d i n : ℕ)

/-- The counts of the rows are bytes. -/
def CountsAreBytes : Prop := ∀ row ∈ db.item_loot_items, row.item_count < 2 ^ 8

@[simp] theorem items_delItems :
    (db.Execute (CHAR_DEL_ITEMCONTAINER_ITEMS c)).items d = if c = d then [] else db.items d := by
  simp only [Execute, items, List.filter_filter]
  split
  next h =>
    subst h
    simp
  next h =>
    congr 1
    refine List.filter_congr fun row _ ↦ ?_
    by_cases hrow : row.container_id = d
    · simp [hrow, Ne.symm h]
    · simp [hrow]

theorem is_stored {row : ItemRow} (hrow : row.item_count < 2 ^ 8) :
    (stored row).is i n = (row.item_id == i && row.item_count == n) := by
  have hcount : (UInt8.ofNat row.item_count).toNat = row.item_count := by
    rw [UInt8.toNat_ofNat']
    exact Nat.mod_eq_of_lt hrow
  simp [StoredLootItem.is, stored, StoredLootItem.new, ItemRow.lootItem, hcount]

theorem items_delItem (hdb : db.CountsAreBytes) : (db.Execute (CHAR_DEL_ITEMCONTAINER_ITEM c i n)).items d =
      if c = d then (db.items d).filter (fun item ↦ !item.is i n) else db.items d := by
  have hfilter : (db.Execute (CHAR_DEL_ITEMCONTAINER_ITEM c i n)).items d =
      ((db.item_loot_items.filter fun row ↦ row.container_id = d).filter fun row ↦
        !(row.container_id == c && row.item_id == i && row.item_count == n)).map stored := by
    rw [items, Execute, List.filter_comm]
  rw [hfilter]
  split
  next h =>
    subst h
    rw [items, List.filter_map]
    congr 1
    refine List.filter_congr fun row hrow ↦ ?_
    obtain ⟨hmem, hc⟩ := List.mem_filter.mp hrow
    simp [is_stored i n (hdb row hmem), of_decide_eq_true hc]
  next h =>
    rw [List.filter_eq_self.mpr, items]
    intro row hrow
    have hd : row.container_id = d := of_decide_eq_true (List.mem_filter.mp hrow).2
    simp [hd, Ne.symm h]

@[simp] theorem items_insItems (row : ItemRow) : (db.Execute (CHAR_INS_ITEMCONTAINER_ITEMS row)).items d =
      if row.container_id = d then db.items d ++ [stored row] else db.items d := by
  simp only [Execute, items, List.filter_append, List.map_append]
  split <;> simp [*]

@[simp] theorem items_delMoney : (db.Execute (CHAR_DEL_ITEMCONTAINER_MONEY c)).items d = db.items d := rfl

@[simp] theorem items_insMoney (row : MoneyRow) :
    (db.Execute (CHAR_INS_ITEMCONTAINER_MONEY row)).items d = db.items d := rfl

@[simp] theorem money_delItems : (db.Execute (CHAR_DEL_ITEMCONTAINER_ITEMS c)).money d = db.money d := rfl

@[simp] theorem money_delItem : (db.Execute (CHAR_DEL_ITEMCONTAINER_ITEM c i n)).money d = db.money d := rfl

@[simp] theorem money_insItems (row : ItemRow) :
    (db.Execute (CHAR_INS_ITEMCONTAINER_ITEMS row)).money d = db.money d := rfl

@[simp] theorem money_delMoney :
    (db.Execute (CHAR_DEL_ITEMCONTAINER_MONEY c)).money d = if c = d then 0 else db.money d := by
  simp only [Execute, money, List.filter_filter]
  split
  next h =>
    subst h
    simp
  next h =>
    congr 2
    refine List.filter_congr fun row _ ↦ ?_
    by_cases hrow : row.container_id = d
    · simp [hrow, Ne.symm h]
    · simp [hrow]

@[simp] theorem money_insMoney (row : MoneyRow) : (db.Execute (CHAR_INS_ITEMCONTAINER_MONEY row)).money d =
      if row.container_id = d then row.money else db.money d := by
  simp only [Execute, money, List.filter_append]
  split <;> simp [*]

variable {db}

theorem CountsAreBytes.execute (hdb : db.CountsAreBytes) {stmt : PreparedStatement}
    (hstmt : ∀ row, stmt = CHAR_INS_ITEMCONTAINER_ITEMS row → row.item_count < 2 ^ 8) :
    (db.Execute stmt).CountsAreBytes := by
  intro row hrow
  cases stmt with
  | CHAR_DEL_ITEMCONTAINER_ITEMS => exact hdb row (List.mem_of_mem_filter hrow)
  | CHAR_DEL_ITEMCONTAINER_ITEM => exact hdb row (List.mem_of_mem_filter hrow)
  | CHAR_INS_ITEMCONTAINER_ITEMS row' =>
    rcases List.mem_append.mp hrow with hold | hnew
    · exact hdb row hold
    · rw [List.mem_singleton.mp hnew]
      exact hstmt row' rfl
  | CHAR_DEL_ITEMCONTAINER_MONEY => exact hdb row hrow
  | CHAR_INS_ITEMCONTAINER_MONEY => exact hdb row hrow

end Database

/-! ## The calls keep memory and tables alike -/

namespace LootItemStorage

variable {s : LootItemStorage}

/-- Memory and tables are alike, container by container. -/
structure Sound (s : LootItemStorage) : Prop where
  items : ∀ c, (s._lootItemStore.container c)._lootItems.Perm (s.db.items c)
  money : ∀ c, (s._lootItemStore.container c)._money = s.db.money c
  bytes : s.db.CountsAreBytes

theorem Sound.agrees (h : Sound s) : s.Agrees := by
  intro c
  rw [Database.container_rebuild]
  exact ⟨h.items c, h.money c⟩

theorem sound_start : Sound machine.start where
  items _ := List.Perm.refl _
  money _ := rfl
  bytes row hrow := by cases hrow

theorem Sound.LoadStorageFromDB (h : Sound s) : Sound s.LoadStorageFromDB where
  items c := by
    show (Store.container s.db.rebuild c)._lootItems.Perm (s.db.items c)
    rw [Database.container_rebuild]
  money c := by
    show (Store.container s.db.rebuild c)._money = s.db.money c
    rw [Database.container_rebuild]
  bytes := h.bytes

theorem Sound.RemoveStoredLootForContainer (h : Sound s) (c : ℕ) : Sound (s.RemoveStoredLootForContainer c) where
  items d := by
    simp only [LootItemStorage.RemoveStoredLootForContainer, Database.CommitTransaction, List.foldl_cons,
      List.foldl_nil, Store.container_erase, Database.items_delMoney, Database.items_delItems]
    split
    · exact List.Perm.refl _
    · exact h.items d
  money d := by
    simp only [LootItemStorage.RemoveStoredLootForContainer, Database.CommitTransaction, List.foldl_cons,
      List.foldl_nil, Store.container_erase, Database.money_delMoney, Database.money_delItems]
    split
    · rfl
    · exact h.money d
  bytes := by
    have hitems : (s.db.Execute (CHAR_DEL_ITEMCONTAINER_ITEMS c)).CountsAreBytes := h.bytes.execute (by simp)
    have hmoney : ((s.db.Execute (CHAR_DEL_ITEMCONTAINER_ITEMS c)).Execute
        (CHAR_DEL_ITEMCONTAINER_MONEY c)).CountsAreBytes := hitems.execute (by simp)
    exact hmoney

theorem Sound.RemoveStoredMoneyForContainer (h : Sound s) (c : ℕ) : Sound (s.RemoveStoredMoneyForContainer c) := by
  rw [LootItemStorage.RemoveStoredMoneyForContainer]
  cases hc : s._lootItemStore[c]? with
  | none => exact h
  | some container =>
    have hcontainer : s._lootItemStore.container c = container := by rw [Store.container, hc, Option.getD_some]
    refine ⟨fun d ↦ ?_, fun d ↦ ?_, h.bytes.execute (by simp)⟩
    · simp only [StoredLootContainer.RemoveMoney, Store.container_insert, Database.items_delMoney]
      split
      next hd => exact hd ▸ hcontainer ▸ h.items c
      next => exact h.items d
    · simp only [StoredLootContainer.RemoveMoney, Store.container_insert, Database.money_delMoney]
      split
      · rfl
      · exact h.money d

/-- With at most one item that is looked for, taking one out leaves the others. -/
theorem RemoveItem_perm (container : StoredLootContainer) (db : Database) {c i n : ℕ} (which : ℕ)
    (h : (container._lootItems.filter (·.is i n)).length ≤ 1) :
    (StoredLootContainer.RemoveItem c i n which (container, db)).1._lootItems.Perm
      (container._lootItems.filter fun item ↦ !item.is i n) := by
  have hsplit : (container._lootItems.filter (·.is i n) ++ container._lootItems.filter fun item ↦ !item.is i n).Perm
      container._lootItems := List.filter_append_perm _ _
  simp only [StoredLootContainer.RemoveItem]
  rcases hfound : container._lootItems.filter (·.is i n) with _ | ⟨item, _ | ⟨item', rest⟩⟩
  · simpa [hfound] using hsplit.symm
  · rw [hfound] at hsplit
    have hget : [item][which % [item].length]? = some item := by
      rw [List.length_singleton, Nat.mod_one]
      rfl
    rw [hfound, hget]
    refine (hsplit.symm.erase item).trans ?_
    simp
  · rw [hfound] at h
    simp at h

theorem RemoveItem_money (container : StoredLootContainer) (db : Database) (c i n which : ℕ) :
    (StoredLootContainer.RemoveItem c i n which (container, db)).1._money = container._money := by
  rw [StoredLootContainer.RemoveItem]
  split <;> rfl

theorem Sound.RemoveStoredLootItemForContainer (h : Sound s) {c i n which : ℕ}
    (hsingle : s.Single (.RemoveStoredLootItemForContainer c i n which)) :
    Sound (s.RemoveStoredLootItemForContainer c i n which) := by
  rw [LootItemStorage.RemoveStoredLootItemForContainer]
  cases hc : s._lootItemStore[c]? with
  | none => exact h
  | some container =>
    have hcontainer : s._lootItemStore.container c = container := by rw [Store.container, hc, Option.getD_some]
    have hitems := h.items c
    rw [hcontainer] at hitems
    rw [Single, hcontainer] at hsingle
    refine ⟨fun d ↦ ?_, fun d ↦ ?_, h.bytes.execute (by simp)⟩
    · show (Store.container (s._lootItemStore.insert c _) d)._lootItems.Perm
        ((s.db.Execute (CHAR_DEL_ITEMCONTAINER_ITEM c i n)).items d)
      rw [Store.container_insert, Database.items_delItem _ _ _ _ _ h.bytes]
      split
      next hd =>
        subst hd
        exact (RemoveItem_perm container s.db which hsingle).trans (hitems.filter _)
      next => exact h.items d
    · show (Store.container (s._lootItemStore.insert c _) d)._money = s.db.money d
      rw [Store.container_insert]
      split
      next hd =>
        subst hd
        rw [RemoveItem_money, ← h.money c, hcontainer]
      next => exact h.money d

/-- The row of an item that is saved. -/
def rowOf (containerId : ℕ) (li : LootItem) : ItemRow where
  container_id := containerId
  item_id := li.itemid
  item_count := li.count.toNat
  follow_rules := li.follow_loot_rules
  ffa := li.freeforall
  blocked := li.is_blocked
  counted := li.is_counted
  under_threshold := li.is_underthreshold
  needs_quest := li.needs_quest
  rnd_prop := li.randomPropertyId
  rnd_suffix := li.randomSuffix

/-- The row of an item stands for what is put in the container. -/
theorem stored_rowOf (containerId : ℕ) (li : LootItem) : Database.stored (rowOf containerId li) = .new li := by
  simp [Database.stored, ItemRow.lootItem, rowOf, StoredLootItem.new]

/-- The loop of `AddNewStoredLoot`: the items that are saved go into the container and into the transaction. -/
theorem foldl_AddLootItem (view : View) (containerId : ℕ) (items : List LootItem) (container : StoredLootContainer)
    (stmts : List PreparedStatement) :
    items.foldl (fun c li ↦ if saved view li then StoredLootContainer.AddLootItem containerId li c else c)
        (container, some stmts) =
      ({ container with _lootItems := container._lootItems ++ (items.filter (saved view)).map .new },
        some (stmts ++ ((items.filter (saved view)).map (rowOf containerId)).map CHAR_INS_ITEMCONTAINER_ITEMS)) := by
  induction items generalizing container stmts with
  | nil => simp
  | cons li items ih =>
    rw [List.foldl_cons]
    cases hli : saved view li with
    | false => rw [if_neg Bool.false_ne_true, ih, List.filter_cons_of_neg (by simp [hli])]
    | true =>
      rw [if_pos rfl, StoredLootContainer.AddLootItem, SQLTransaction.Append, Option.map_some, ih,
        List.filter_cons_of_pos hli]
      simp [rowOf]

theorem commit_rows (db : Database) (rows : List ItemRow) (c : ℕ) :
    (db.CommitTransaction (rows.map CHAR_INS_ITEMCONTAINER_ITEMS)).items c =
        db.items c ++ (rows.filter fun row ↦ row.container_id = c).map Database.stored ∧
      (db.CommitTransaction (rows.map CHAR_INS_ITEMCONTAINER_ITEMS)).money c = db.money c ∧
      (db.CountsAreBytes → (∀ row ∈ rows, row.item_count < 2 ^ 8) →
        (db.CommitTransaction (rows.map CHAR_INS_ITEMCONTAINER_ITEMS)).CountsAreBytes) := by
  induction rows generalizing db with
  | nil => exact ⟨by simp [Database.CommitTransaction], rfl, fun hdb _ ↦ hdb⟩
  | cons row rows ih =>
    obtain ⟨hitems, hmoney, hbytes⟩ := ih (db.Execute (CHAR_INS_ITEMCONTAINER_ITEMS row))
    rw [List.map_cons, Database.CommitTransaction, List.foldl_cons]
    rw [Database.CommitTransaction] at hitems hmoney hbytes
    refine ⟨?_, ?_, fun hdb hrows ↦ ?_⟩
    · rw [hitems, Database.items_insItems]
      by_cases hc : row.container_id = c <;> simp [hc]
    · rw [hmoney, Database.money_insItems]
    · refine hbytes (hdb.execute fun row' hrow' ↦ ?_) fun row' hrow' ↦ hrows row' (List.mem_cons_of_mem row hrow')
      cases hrow'
      exact hrows row List.mem_cons_self

/-- What `AddNewStoredLoot` does first: the money is saved, if there is any. -/
theorem saveMoney {db : Database} (hdb : db.CountsAreBytes) (c gold : ℕ) (hzero : gold = 0 → db.money c = 0) :
    ∃ stmts, (if gold ≠ 0 then StoredLootContainer.AddMoney c gold (.new, some []) else (.new, some [])) =
        (⟨[], gold⟩, some stmts) ∧
      (∀ d, (db.CommitTransaction stmts).items d = db.items d) ∧
      (∀ d, (db.CommitTransaction stmts).money d = if c = d then gold else db.money d) ∧
      (db.CommitTransaction stmts).CountsAreBytes := by
  by_cases hgold : gold = 0
  · subst hgold
    refine ⟨[], if_neg (by simp), fun d ↦ rfl, fun d ↦ ?_, hdb⟩
    show db.money d = _
    split
    next hd => exact hd ▸ hzero rfl
    next => rfl
  · refine ⟨[CHAR_DEL_ITEMCONTAINER_MONEY c, CHAR_INS_ITEMCONTAINER_MONEY ⟨c, gold⟩], if_pos hgold, fun d ↦ rfl,
      fun d ↦ ?_, hdb⟩
    simp only [Database.CommitTransaction, List.foldl_cons, List.foldl_nil, Database.money_insMoney,
      Database.money_delMoney]
    split <;> rfl

theorem Sound.AddNewStoredLoot (h : Sound s) (loot : Loot) (view : View) : Sound (s.AddNewStoredLoot loot view) := by
  rw [LootItemStorage.AddNewStoredLoot]
  split
  · exact h
  split
  · exact h
  next hnew =>
    -- nothing is stored for the container, so there are no rows for it either
    have habsent : s._lootItemStore.container loot.containerID = .new := by
      simp [Store.container, ExtTreeMap.getElem?_eq_none hnew]
    obtain ⟨stmts, hstart, hitems, hmoney, hbytes⟩ := saveMoney h.bytes loot.containerID loot.gold
      (fun _ ↦ by rw [← h.money, habsent]; rfl)
    dsimp only
    rw [hstart]
    dsimp only
    rw [SQLTransaction.Append, Option.map_some, foldl_AddLootItem, Option.getD_some]
    generalize loot.items.filter (saved view) = kept
    rw [Database.CommitTransaction, List.foldl_append, List.foldl_append, List.foldl_cons, List.foldl_nil]
    change ∀ d, (stmts.foldl Database.Execute s.db).items d = s.db.items d at hitems
    change ∀ d, (stmts.foldl Database.Execute s.db).money d = _ at hmoney
    have hcleared : ((stmts.foldl Database.Execute s.db).Execute
        (CHAR_DEL_ITEMCONTAINER_ITEMS loot.containerID)).CountsAreBytes := hbytes.execute (by simp)
    have hcommit := commit_rows ((stmts.foldl Database.Execute s.db).Execute
      (CHAR_DEL_ITEMCONTAINER_ITEMS loot.containerID)) (kept.map (rowOf loot.containerID))
    refine ⟨fun d ↦ ?_, fun d ↦ ?_, (hcommit 0).2.2 hcleared fun row hrow ↦ ?_⟩
    · rw [Store.container_insert]
      refine .trans ?_ (.of_eq (hcommit d).1.symm)
      rw [Database.items_delItems, hitems]
      split
      next hd =>
        subst hd
        have hall : ((kept.map (rowOf loot.containerID)).filter fun row ↦ row.container_id = loot.containerID) =
            kept.map (rowOf loot.containerID) := by
          refine List.filter_eq_self.mpr fun row hrow ↦ ?_
          obtain ⟨li, -, rfl⟩ := List.mem_map.mp hrow
          exact decide_eq_true rfl
        have hstored : (kept.map (rowOf loot.containerID)).map Database.stored = kept.map .new := by
          rw [List.map_map]
          exact List.map_congr_left fun li _ ↦ stored_rowOf loot.containerID li
        rw [hall, hstored]
      next hd =>
        have hnone : ((kept.map (rowOf loot.containerID)).filter fun row ↦ row.container_id = d) = [] := by
          refine List.filter_eq_nil_iff.mpr fun row hrow ↦ ?_
          obtain ⟨li, -, rfl⟩ := List.mem_map.mp hrow
          rw [decide_eq_true_eq]
          exact hd
        rw [hnone, List.map_nil, List.append_nil]
        exact h.items d
    · rw [Store.container_insert]
      refine .trans ?_ (hcommit d).2.1.symm
      rw [Database.money_delItems, hmoney]
      split
      · rfl
      · exact h.money d
    · obtain ⟨li, -, rfl⟩ := List.mem_map.mp hrow
      exact li.count.toNat_lt

theorem Sound.apply (h : Sound s) {a : Call} (ha : s.Single a) : Sound (s.apply a) := by
  cases a with
  | AddNewStoredLoot loot view => exact h.AddNewStoredLoot loot view
  | RemoveStoredLootItemForContainer c i n which => exact h.RemoveStoredLootItemForContainer ha
  | RemoveStoredMoneyForContainer c => exact h.RemoveStoredMoneyForContainer c
  | RemoveStoredLootForContainer c => exact h.RemoveStoredLootForContainer c
  | LoadStorageFromDB => exact h.LoadStorageFromDB

theorem sound_of_reaches (h : machine.Reaches Single s) : Sound s := by
  refine h.invariant sound_start fun s a t hs ha hn ↦ ?_
  cases hn
  exact hs.apply ha

/-- **Memory and tables agree** in every run that takes out no item of several that look alike. -/
theorem storedLoot_agrees (h : machine.Reaches Single s) : s.Agrees := by
  have hsound : Sound s := by
    refine h.invariant sound_start fun s a t hs ha hn ↦ ?_
    cases hn
    exact hs.apply ha
  exact hsound.agrees

/-! ## Two equal stacks -/

/-- A player who may have everything, and no currency. -/
def anything : View := ⟨fun _ ↦ true, fun _ ↦ some false⟩

/-- A stack of five pieces of linen cloth. -/
def linen : LootItem := ⟨2589, 5, false, false, false, false, false, false, 0, 0, 0⟩

/-- A stack of three. -/
def lessLinen : LootItem := { linen with count := 3 }

/-- A clam is opened, some of what is in it is taken, and the server starts again. -/
def oneStack : List Call :=
  [.AddNewStoredLoot ⟨7, 12, 2, [linen, lessLinen]⟩ anything, .RemoveStoredLootItemForContainer 7 2589 5 0,
    .LoadStorageFromDB, .RemoveStoredMoneyForContainer 7]

/-- The other stack is left, in memory and in the tables. -/
theorem storedLoot_agrees_oneStack :
    ∃ s, machine.Reaches Single s ∧ (s._lootItemStore.container 7)._lootItems = [.new lessLinen] ∧ s.Agrees := by
  obtain ⟨s, hs, hitems⟩ := machine.exists_reaches Single oneStack
    (fun s ↦ (s._lootItemStore.container 7)._lootItems = [.new lessLinen]) (by decide +kernel)
  exact ⟨s, hs, hitems, storedLoot_agrees hs⟩

/-- Two equal stacks are stored, and one is taken. -/
def twoStacks : List Call :=
  [.AddNewStoredLoot ⟨7, 0, 2, [linen, linen]⟩ anything, .RemoveStoredLootItemForContainer 7 2589 5 0]

/-- The memory has the second stack then, and the tables do not. -/
theorem not_storedLoot_agrees : ¬ ∀ s, machine.Reachable s → s.Agrees := by
  intro h
  have hagrees := h _ (Machine.reaches_of_exec twoStacks rfl)
  have hitems := (hagrees 7).1.length_eq
  revert hitems
  decide +kernel

/-! ## Opening it again -/

/-- The containers that a call is about, if any. -/
def Call.about : Call → Option ℕ
  | .AddNewStoredLoot loot _ => some loot.containerID
  | .RemoveStoredLootItemForContainer c _ _ _ | .RemoveStoredMoneyForContainer c | .RemoveStoredLootForContainer c =>
    some c
  | .LoadStorageFromDB => none

/-- The container has these items, in some order, and this money. -/
def Holds (s : LootItemStorage) (c : ℕ) (items : List StoredLootItem) (gold : ℕ) : Prop :=
  (s._lootItemStore.container c)._lootItems.Perm items ∧ (s._lootItemStore.container c)._money = gold

theorem Holds.apply {c gold : ℕ} {items : List StoredLootItem} {a : Call} (h : s.Holds c items gold) (hs : Sound s)
    (ha : a.about ≠ some c) : (s.apply a).Holds c items gold := by
  have hother {t : LootItemStorage} (ht : t._lootItemStore.container c = s._lootItemStore.container c) :
      t.Holds c items gold := by
    rw [Holds, ht]
    exact h
  cases a with
  | AddNewStoredLoot loot view =>
    refine hother ?_
    rw [LootItemStorage.apply, LootItemStorage.AddNewStoredLoot]
    split
    · rfl
    split
    · rfl
    · rw [Store.container_insert, if_neg fun he ↦ ha (congrArg some he)]
  | RemoveStoredLootItemForContainer d i n which =>
    refine hother ?_
    rw [LootItemStorage.apply, LootItemStorage.RemoveStoredLootItemForContainer]
    split
    · rfl
    · rw [Store.container_insert, if_neg fun he ↦ ha (congrArg some he)]
  | RemoveStoredMoneyForContainer d =>
    refine hother ?_
    rw [LootItemStorage.apply, LootItemStorage.RemoveStoredMoneyForContainer]
    split
    · rfl
    · rw [Store.container_insert, if_neg fun he ↦ ha (congrArg some he)]
  | RemoveStoredLootForContainer d =>
    refine hother ?_
    show Store.container (s._lootItemStore.erase d) c = _
    rw [Store.container_erase, if_neg fun he ↦ ha (congrArg some he)]
  | LoadStorageFromDB =>
    -- the memory is new, but it is built from rows that agree with the old one
    have hagrees := hs.agrees c
    exact ⟨hagrees.1.symm.trans h.1, hagrees.2.symm.trans h.2⟩

theorem holds_addNewStoredLoot (hs : Sound s) {loot : Loot} (view : View) (hloot : loot.isLooted = false)
    (hnew : loot.containerID ∉ s._lootItemStore) : (s.AddNewStoredLoot loot view).Holds loot.containerID
      ((loot.items.filter (saved view)).map .new) loot.gold := by
  have hzero : loot.gold = 0 → s.db.money loot.containerID = 0 := fun _ ↦ by
    simp [← hs.money, Store.container, ExtTreeMap.getElem?_eq_none hnew, StoredLootContainer.new]
  obtain ⟨stmts, hstart, -⟩ := saveMoney hs.bytes loot.containerID loot.gold hzero
  rw [LootItemStorage.AddNewStoredLoot, if_neg (by simp [hloot]), if_neg hnew]
  dsimp only
  rw [hstart]
  dsimp only
  rw [SQLTransaction.Append, Option.map_some, foldl_AddLootItem, Holds, Store.container_insert, if_pos rfl]
  exact ⟨.refl _, rfl⟩

/-- A container that holds something is found. -/
theorem Holds.loadStoredLoot {c gold : ℕ} {items : List StoredLootItem} (h : s.Holds c items gold)
    (hsome : items ≠ [] ∨ gold ≠ 0) (CopyConditions : ℕ → ℕ) :
    ∃ opened, s.LoadStoredLoot ⟨c, 0, 0, []⟩ (some CopyConditions) = some opened ∧ opened.gold = gold ∧
      opened.items.Perm (items.map (·.lootItem CopyConditions)) ∧
      opened.unlootedCount = UInt8.ofNat items.length := by
  obtain ⟨hitems, hgold⟩ := h
  cases hc : s._lootItemStore[c]? with
  | none =>
    rw [Store.container, hc] at hitems hgold
    exact absurd hsome (by simp [← hgold, ← List.nil_perm.mp hitems, StoredLootContainer.new])
  | some container =>
    rw [Store.container, hc, Option.getD_some] at hitems hgold
    refine ⟨_, by rw [LootItemStorage.LoadStoredLoot, hc], hgold, hitems.map _, ?_⟩
    simp [hitems.length_eq]

/-- **Stored loot is there when it is opened again.**  After any calls that are about other containers, and any
restarts, a loot that has been stored is loaded as it was saved, in some order. -/
theorem loadStoredLoot_of_stored {t : LootItemStorage} (loot : Loot) (view : View) (hs : machine.Reaches Single s)
    (hloot : loot.isLooted = false) (hnew : loot.containerID ∉ s._lootItemStore)
    (hsome : loot.items.filter (saved view) ≠ [] ∨ loot.gold ≠ 0)
    (ht : (Machine.mk (s.AddNewStoredLoot loot view) machine.next).Reaches
      (fun s a ↦ s.Single a ∧ a.about ≠ some loot.containerID) t) (CopyConditions : ℕ → ℕ) :
    ∃ opened, t.LoadStoredLoot ⟨loot.containerID, 0, 0, []⟩ (some CopyConditions) = some opened ∧
      opened.gold = loot.gold ∧
      opened.items.Perm ((loot.items.filter (saved view)).map fun li ↦
        { li with conditions := CopyConditions li.itemid }) ∧
      opened.unlootedCount = UInt8.ofNat (loot.items.filter (saved view)).length := by
  have hsound := sound_of_reaches hs
  have h : Sound t ∧ t.Holds loot.containerID ((loot.items.filter (saved view)).map .new) loot.gold := by
    refine ht.invariant (P := fun u ↦ Sound u ∧ u.Holds loot.containerID _ loot.gold)
      ⟨hsound.AddNewStoredLoot loot view, holds_addNewStoredLoot hsound view hloot hnew⟩ fun u a v hu ha hn ↦ ?_
    cases hn
    exact ⟨hu.1.apply ha.1, hu.2.apply hu.1 ha.2⟩
  obtain ⟨opened, hopened, hgold, hitems, hcount⟩ := h.2.loadStoredLoot (by simpa using hsome) CopyConditions
  refine ⟨opened, hopened, hgold, hitems.trans (.of_eq ?_), by simpa using hcount⟩
  rw [List.map_map]
  refine List.map_congr_left fun li _ ↦ ?_
  simp [StoredLootItem.lootItem, StoredLootItem.new]

/-- A stack and some money are there after a restart. -/
theorem loadStoredLoot_of_stored_linen : ∃ opened,
    (machine.start.AddNewStoredLoot ⟨7, 12, 1, [linen]⟩ anything).LoadStorageFromDB.LoadStoredLoot ⟨7, 0, 0, []⟩
      (some id) = some opened ∧ opened.gold = 12 ∧ opened.items.length = 1 := by
  obtain ⟨opened, hopened, hgold, hitems, -⟩ := loadStoredLoot_of_stored ⟨7, 12, 1, [linen]⟩ anything .start rfl
    (by simp [machine]) (.inr (by decide)) (.step (a := .LoadStorageFromDB) .start ⟨trivial, nofun⟩ rfl) id
  exact ⟨opened, hopened, hgold, hitems.length_eq⟩

end LootItemStorage

end Gundrak.LootStorage
