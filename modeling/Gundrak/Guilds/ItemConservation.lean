import Gundrak.Guilds.BankMoves
import Gundrak.Util.MapTotal

/-!
# Items are conserved

Nothing is lost and nothing is doubled when items are moved in and out of the guild bank.  While they are
moved, some are in neither place: `Consistent` says of a state, and of the guids that are in nobody's hands,
that every guid is used once, and that everything lies in a slot that there is.  Removing an item adds its guid
to the hand, storing it takes it back; `itemCount` goes down and up by what is moved.

This holds as long as no stack is larger than it can be.  A larger one is cut down when it is split, and when
it is swapped the rest of it goes to where the other item goes.

* `Consistent.put`, `storeLoop_spec`: storing, at one position and at all of them.
* `removeItem_spec`, `splitItem_spec`: removing an item or a part of it.
* `canStore_spec`, `canStore_swap`: what the positions are.
* **`itemsConserved`**: the result for both operations.
-/

open Std (ExtTreeMap)

namespace Gundrak.Guilds

open Players

namespace Holdings

variable (mgr : ObjectMgr) (s : Holdings)

/-! ## What is where -/

/-- The items in the bank, or those of the player. -/
def items : Bool → ExtTreeMap ℕ Item
  | true => s.tabs
  | false => s.player.items

/-- A sum over all the items. -/
def total {M : Type} [AddCommMonoid M] (f : Item → M) : M :=
  TreeMap.total s.tabs (fun _ item ↦ f item) + TreeMap.total s.player.items fun _ item ↦ f item

/-- How much of an item there is. -/
def itemCount (entry : ℕ) : ℕ := s.total fun item ↦ if item.entry = entry then item.count else 0

/-- The guids of the items. -/
def guids : Multiset ℕ := s.total fun item ↦ {item.guid}

/-- There is such a slot in the bank, or one of the player. -/
def IsSlot : Bool → ℕ → Prop
  | true, pos => pos / 256 < s.purchasedTabs ∧ pos % 256 < GUILD_BANK_MAX_SLOTS
  | false, pos => s.player.HasSlot mgr (pos / 256) (pos % 256)

/-- Every guid is used once, there are templates for all the items, and they are in slots. -/
structure Consistent (hand : Multiset ℕ) : Prop where
  nodup : (s.guids + hand).Nodup
  fresh : ∀ guid ∈ s.guids + hand, guid < s.nextGuid
  template : ∀ (b : Bool) (pos : ℕ) (item : Item), (s.items b)[pos]? = some item →
    ∃ proto, mgr.GetItemTemplate item.entry = some proto
  slot : ∀ (b : Bool) (pos : ℕ) (item : Item), (s.items b)[pos]? = some item → s.IsSlot mgr b pos

/-- No stack is larger than it can be. -/
def StacksFit : Prop := ∀ (b : Bool) (pos : ℕ) (item : Item) (proto : ItemTemplate), (s.items b)[pos]? = some item →
    mgr.GetItemTemplate item.entry = some proto → item.count ≤ proto.GetMaxStackSize

variable {mgr s}

theorem total_eq {M : Type} [AddCommMonoid M] (f : Item → M) (b : Bool) :
    s.total f = TreeMap.total (s.items b) (fun _ item ↦ f item) + TreeMap.total (s.items !b) fun _ item ↦ f item := by
  cases b with
  | true => rfl
  | false => exact add_comm _ _

theorem mem_guids {b : Bool} {pos : ℕ} {item : Item} (h : (s.items b)[pos]? = some item) : item.guid ∈ s.guids := by
  rw [guids, total_eq _ b, ← TreeMap.total_erase h]
  simp

/-- **An item is in one slot only.** -/
theorem Consistent.inj {hand : Multiset ℕ} (hs : s.Consistent mgr hand) {b b' : Bool} {pos pos' : ℕ}
    {item item' : Item} (h : (s.items b)[pos]? = some item) (h' : (s.items b')[pos']? = some item')
    (hguid : item.guid = item'.guid) : b = b' ∧ pos = pos' := by
  have hnodup := (Multiset.nodup_add.mp hs.nodup).1
  rw [guids, total_eq _ b, ← TreeMap.total_erase h] at hnodup
  by_contra hne
  have hmem : item'.guid ∈ TreeMap.total ((s.items b).erase pos) (fun _ item ↦ ({item.guid} : Multiset ℕ)) +
      TreeMap.total (s.items !b) fun _ item ↦ {item.guid} := by
    rw [Multiset.mem_add]
    by_cases hb : b = b'
    · subst hb
      have hpos : pos ≠ pos' := fun hpos ↦ hne ⟨rfl, hpos⟩
      have hget : ((s.items b).erase pos)[pos']? = some item' := by
        rw [TreeMap.get_erase, if_neg hpos, h']
      left
      rw [← TreeMap.total_erase hget]
      simp
    · have hb' : b' = !b := by
        cases b <;> cases b' <;> simp_all
      right
      rw [hb'] at h'
      rw [← TreeMap.total_erase h']
      simp
  rw [add_right_comm, add_comm, Multiset.singleton_add, Multiset.nodup_cons] at hnodup
  exact hnodup.1 (hguid ▸ hmem)

/-! ## Putting something somewhere -/

variable (mgr) in
/-- So much of an item can be put to a position: there is nothing, or a stack of it that has the space. -/
def HasRoom (s : Holdings) (b : Bool) (proto : ItemTemplate) (pItem : Item) (pos count : ℕ) : Prop :=
  s.IsSlot mgr b pos ∧
  match (s.items b)[pos]? with
  | none => count ≤ proto.GetMaxStackSize
  | some item2 => item2.entry = pItem.entry ∧ item2.count + count ≤ proto.GetMaxStackSize

/-- Something is put to a position, and nothing else changes. -/
structure Puts (s s' : Holdings) (b : Bool) (pItem : Item) (pos count : ℕ) (clone : Bool) : Prop where
  putAt : PutAt (s.items b) pItem s.nextGuid pos count clone (s'.items b) s'.nextGuid
  other : s'.items (!b) = s.items (!b)
  purchasedTabs : s'.purchasedTabs = s.purchasedTabs

variable (mgr) in
/-- The slots that there are are still there. -/
def KeepsSlots (s s' : Holdings) : Prop := ∀ b pos, s.IsSlot mgr b pos → s'.IsSlot mgr b pos

theorem KeepsSlots.trans {s s' s'' : Holdings} (h : KeepsSlots mgr s s') (h' : KeepsSlots mgr s' s'') :
    KeepsSlots mgr s s'' := fun b pos hslot ↦ h' b pos (h b pos hslot)

theorem keepsSlots_of {s s' : Holdings} (htabs : s'.purchasedTabs = s.purchasedTabs)
    (hbags : Player.KeepsBags mgr s.player s'.player) : KeepsSlots mgr s s' := by
  intro b pos hslot
  cases b with
  | true =>
    rw [IsSlot, htabs]
    exact hslot
  | false => exact hbags.hasSlot hslot

section put

variable {s s' : Holdings} {b : Bool} {pItem : Item} {proto : ItemTemplate} {pos count : ℕ}
variable {clone : Bool} {hand : Multiset ℕ}

section

variable (h : Puts s s' b pItem pos count clone)
include h

theorem Puts.get_other {b' : Bool} {pos' : ℕ}
    (hne : ¬ (b' = b ∧ pos' = pos)) : (s'.items b')[pos']? = (s.items b')[pos']? := by
  by_cases hb : b' = b
  · subst hb
    have hpos : pos ≠ pos' := fun hpos ↦ hne ⟨rfl, hpos.symm⟩
    obtain ⟨hput, -, -⟩ := h
    generalize s'.items b' = items' at hput ⊢
    generalize s'.nextGuid = guid' at hput
    cases hput <;> simp [TreeMap.get_insert, hpos]
  · have hb' : b' = !b := by
      cases b <;> cases b' <;> simp_all
    rw [hb', h.other]

theorem Puts.get_self (hroom : HasRoom mgr s b proto pItem pos count) {item : Item}
    (hitem : (s'.items b)[pos]? = some item) :
    item.entry = pItem.entry ∧ item.count ≤ proto.GetMaxStackSize := by
  have hspace := hroom.2
  obtain ⟨hput, -, -⟩ := h
  generalize s'.items b = items' at hput hitem
  generalize s'.nextGuid = guid' at hput
  cases hput with
  | merge item2 stored hget hguid hentry hcount =>
    rw [TreeMap.get_insert, if_pos rfl] at hitem
    obtain rfl := Option.some.inj hitem
    rw [hget] at hspace
    exact ⟨hentry.trans hspace.1, hcount ▸ hspace.2⟩
  | whole stored hget hclone hguid hentry hcount =>
    rw [TreeMap.get_insert, if_pos rfl] at hitem
    obtain rfl := Option.some.inj hitem
    rw [hget] at hspace
    exact ⟨hentry, hcount ▸ hspace⟩
  | cloned stored hget hclone hguid hentry hcount =>
    rw [TreeMap.get_insert, if_pos rfl] at hitem
    obtain rfl := Option.some.inj hitem
    rw [hget] at hspace
    exact ⟨hentry, hcount ▸ hspace⟩
  | nothing hget =>
    simp [hget] at hitem

theorem Puts.keepsSlots : KeepsSlots mgr s s' := by
  refine keepsSlots_of h.purchasedTabs ?_
  cases b with
  | true =>
    have hplayer : s'.player.items = s.player.items := h.other
    exact Player.keepsBags_of_entry fun bag item hitem _ _ ↦ ⟨item, by rwa [hplayer], rfl⟩
  | false => exact Player.keepsBags_of_putAt h.putAt

/-- **There is so much more** of the item. -/
theorem Puts.itemCount_eq (hroom : HasRoom mgr s b proto pItem pos count) (entry : ℕ) :
    s'.itemCount entry = s.itemCount entry + if pItem.entry = entry then count else 0 := by
  have hspace := hroom.2
  obtain ⟨hput, hother, -⟩ := h
  rw [itemCount, itemCount, total_eq _ b, total_eq _ b, hother]
  generalize s'.items b = items' at hput
  generalize s'.nextGuid = guid' at hput
  cases hput with
  | merge item2 stored hget hguid hentry hcount =>
    have htotal := TreeMap.total_replace (f := fun _ (item : Item) ↦
      if item.entry = entry then item.count else 0) hget stored
    rw [hget] at hspace
    split_ifs at htotal ⊢ <;> omega
  | whole stored hget hclone hguid hentry hcount =>
    rw [TreeMap.total_insert hget, hentry, hcount]
    omega
  | cloned stored hget hclone hguid hentry hcount =>
    rw [TreeMap.total_insert hget, hentry, hcount]
    omega
  | nothing hget hclone hcount =>
    rw [hcount, ite_self]
    omega

/-- **Guids stay different**; only a clone needs a new one. -/
theorem Puts.guids_spec (hs : s.Consistent mgr (pItem.guid ::ₘ hand)) :
    (s'.guids + if clone then pItem.guid ::ₘ hand else hand).Nodup ∧
    ∀ guid ∈ s'.guids + (if clone then pItem.guid ::ₘ hand else hand), guid < s'.nextGuid := by
  have hnodup := hs.nodup
  have hfresh := hs.fresh
  have hle (more : Bool) : (if more then pItem.guid ::ₘ hand else hand) ≤ pItem.guid ::ₘ hand := by
    cases more with
    | true => exact le_rfl
    | false => exact Multiset.le_cons_self _ _
  obtain ⟨hput, hother, -⟩ := h
  rw [guids, total_eq _ b] at hnodup hfresh ⊢
  rw [hother]
  generalize s'.items b = items' at hput ⊢
  generalize s'.nextGuid = guid' at hput ⊢
  generalize TreeMap.total (s.items !b) (fun _ item ↦ ({item.guid} : Multiset ℕ)) = others
    at hnodup hfresh ⊢
  cases hput with
  | merge item2 stored hget hguid =>
    have htotal := TreeMap.total_replace (f := fun _ (item : Item) ↦ ({item.guid} : Multiset ℕ)) hget
      stored
    rw [hguid, add_right_cancel_iff] at htotal
    rw [htotal]
    have hsub := add_le_add_right (hle clone) (TreeMap.total (s.items b)
      (fun _ item ↦ ({item.guid} : Multiset ℕ)) + others)
    exact ⟨Multiset.nodup_of_le hsub hnodup, fun guid hguid ↦ hfresh guid (Multiset.mem_of_le hsub hguid)⟩
  | whole stored hget hclone hguid =>
    have hsame (ids : Multiset ℕ) : ids + {pItem.guid} + others + hand = ids + others + pItem.guid ::ₘ hand := by
      rw [← Multiset.singleton_add]
      ac_rfl
    rw [TreeMap.total_insert hget, hclone, hguid, if_neg Bool.false_ne_true, hsame]
    exact ⟨hnodup, hfresh⟩
  | cloned stored hget hclone hguid =>
    have hcons (ids rest : Multiset ℕ) : ids + {s.nextGuid} + others + rest = s.nextGuid ::ₘ (ids + others + rest) := by
      rw [← Multiset.singleton_add]
      ac_rfl
    rw [TreeMap.total_insert hget, hclone, hguid, if_pos rfl, hcons]
    refine ⟨Multiset.nodup_cons.mpr ⟨fun hmem ↦ Nat.lt_irrefl _ (hfresh _ hmem), hnodup⟩, ?_⟩
    intro guid hguid
    rcases Multiset.mem_cons.mp hguid with rfl | hguid
    · exact Nat.lt_succ_self _
    · exact Nat.lt_succ_of_lt (hfresh guid hguid)
  | nothing hget hclone =>
    rw [hclone]
    exact ⟨hnodup, hfresh⟩

end

theorem Consistent.put (hs : s.Consistent mgr (pItem.guid ::ₘ hand))
    (h : Puts s s' b pItem pos count clone) (hproto : mgr.GetItemTemplate pItem.entry = some proto)
    (hroom : HasRoom mgr s b proto pItem pos count) :
    s'.Consistent mgr (if clone then pItem.guid ::ₘ hand else hand) := by
  obtain ⟨hnodup, hfresh⟩ := h.guids_spec hs
  refine ⟨hnodup, hfresh, fun b' pos' item hitem ↦ ?_, fun b' pos' item hitem ↦ ?_⟩
  · by_cases hself : b' = b ∧ pos' = pos
    · obtain ⟨rfl, rfl⟩ := hself
      exact ⟨proto, (h.get_self hroom hitem).1 ▸ hproto⟩
    · exact hs.template b' pos' item (h.get_other hself ▸ hitem)
  · by_cases hself : b' = b ∧ pos' = pos
    · obtain ⟨rfl, rfl⟩ := hself
      exact h.keepsSlots _ _ hroom.1
    · exact h.keepsSlots _ _ (hs.slot b' pos' item (h.get_other hself ▸ hitem))

theorem StacksFit.put (hs : s.StacksFit mgr) (h : Puts s s' b pItem pos count clone)
    (hproto : mgr.GetItemTemplate pItem.entry = some proto)
    (hroom : HasRoom mgr s b proto pItem pos count) : s'.StacksFit mgr := by
  intro b' pos' item proto' hitem hproto'
  by_cases hself : b' = b ∧ pos' = pos
  · obtain ⟨rfl, rfl⟩ := hself
    obtain ⟨hentry, hle⟩ := h.get_self hroom hitem
    rw [hentry, hproto] at hproto'
    exact Option.some.inj hproto' ▸ hle
  · exact hs b' pos' item proto' (h.get_other hself ▸ hitem) hproto'

end put

/-! ## Storing -/

/-- Where an item is to be stored: at different positions that have room for it. -/
structure Plan (mgr : ObjectMgr) (s : Holdings) (b : Bool) (proto : ItemTemplate) (pItem : Item)
    (key : ℕ → ℕ) (dest : List (ℕ × ℕ)) : Prop where
  distinct : (dest.map fun x ↦ key x.1).Nodup
  room : ∀ x ∈ dest, HasRoom mgr s b proto pItem (key x.1) x.2

/-- What storing an item does. -/
structure Stored (mgr : ObjectMgr) (s s' : Holdings) (b : Bool) (pItem : Item) (key : ℕ → ℕ)
    (dest : List (ℕ × ℕ)) (hand : Multiset ℕ) : Prop where
  consistent : s'.Consistent mgr hand
  fits : s'.StacksFit mgr
  count : ∀ entry, s'.itemCount entry = s.itemCount entry + if pItem.entry = entry then (dest.map Prod.snd).sum else 0
  other : ∀ (b' : Bool) (pos : ℕ), ¬ (b' = b ∧ pos ∈ dest.map fun x ↦ key x.1) →
    (s'.items b')[pos]? = (s.items b')[pos]?
  keepsSlots : KeepsSlots mgr s s'

theorem Consistent.mono {s : Holdings} {hand hand' : Multiset ℕ} (hs : s.Consistent mgr hand')
    (hle : hand ≤ hand') : s.Consistent mgr hand := by
  have hsub : s.guids + hand ≤ s.guids + hand' := add_le_add_right hle _
  exact ⟨Multiset.nodup_of_le hsub hs.nodup,
    fun guid hguid ↦ hs.fresh guid (Multiset.mem_of_le hsub hguid), hs.template, hs.slot⟩

theorem HasRoom.mono {s s' : Holdings} {b : Bool} {proto : ItemTemplate} {pItem : Item}
    {pos count : ℕ} (h : HasRoom mgr s b proto pItem pos count) (hkeeps : KeepsSlots mgr s s')
    (hget : (s'.items b)[pos]? = (s.items b)[pos]?) : HasRoom mgr s' b proto pItem pos count := by
  refine ⟨hkeeps _ _ h.1, ?_⟩
  rw [hget]
  exact h.2

/-- **The loop** stores the item, and what it is given for the last position is no longer in the hand. -/
theorem storeLoop_spec {b : Bool} {proto : ItemTemplate} {pItem : Item} {key : ℕ → ℕ}
    {store : Holdings → ℕ × ℕ → Bool → Holdings}
    (hproto : mgr.GetItemTemplate pItem.entry = some proto)
    (hstore : ∀ s x clone, HasRoom mgr s b proto pItem (key x.1) x.2 →
      Puts s (store s x clone) b pItem (key x.1) x.2 clone)
    {dest : List (ℕ × ℕ)} {s : Holdings} {hand : Multiset ℕ}
    (hs : s.Consistent mgr (pItem.guid ::ₘ hand)) (hfits : s.StacksFit mgr)
    (hplan : Plan mgr s b proto pItem key dest) :
    Stored mgr s (storeLoop store dest s) b pItem key dest hand := by
  induction dest generalizing s with
  | nil =>
    exact ⟨hs.mono (Multiset.le_cons_self _ _), hfits, fun entry ↦ by simp [storeLoop], fun _ _ _ ↦ rfl, fun _ _ h ↦ h⟩
  | cons x dest ih =>
    have hroom := hplan.room x List.mem_cons_self
    have hput := hstore s x (!dest.isEmpty) hroom
    have hconsistent := hs.put hput hproto hroom
    have hfits' := hfits.put hput hproto hroom
    have hcount := hput.itemCount_eq hroom
    obtain ⟨hnot, hdistinct⟩ := List.nodup_cons.mp hplan.distinct
    have hnew : key x.1 ∉ dest.map fun x ↦ key x.1 := hnot
    rw [storeLoop]
    generalize store s x (!dest.isEmpty) = s' at hput hconsistent hfits' hcount ⊢
    cases dest with
    | nil =>
      refine ⟨hconsistent, hfits', fun entry ↦ by simpa [storeLoop] using hcount entry,
        fun b' pos hne ↦ hput.get_other fun h ↦ hne ⟨h.1, by simp [h.2]⟩, hput.keepsSlots⟩
    | cons y dest =>
      have hplan' : Plan mgr s' b proto pItem key (y :: dest) := by
        refine ⟨hdistinct, fun z hz ↦ ?_⟩
        have hmem : key z.1 ∈ (y :: dest).map fun x ↦ key x.1 := List.mem_map_of_mem hz
        have hne : key z.1 ≠ key x.1 := fun h ↦ hnew (h ▸ hmem)
        exact (hplan.room z (List.mem_cons_of_mem _ hz)).mono hput.keepsSlots
          (hput.get_other fun h ↦ hne h.2)
      obtain ⟨hfinal, hfinalFits, hfinalCount, hother, hkeeps⟩ := ih hconsistent hfits' hplan'
      refine ⟨hfinal, hfinalFits, fun entry ↦ ?_, fun b' pos hne ↦ ?_, hput.keepsSlots.trans hkeeps⟩
      · rw [hfinalCount, hcount, List.map_cons (a := x), List.sum_cons]
        split_ifs <;> omega
      · rw [hother b' pos fun h ↦ hne ⟨h.1, List.mem_cons_of_mem _ h.2⟩]
        exact hput.get_other fun h ↦ hne ⟨h.1, h.2 ▸ List.mem_cons_self⟩

end Holdings

namespace MoveItemData

open Holdings

variable {mgr : ObjectMgr} (data : MoveItemData) {s : Holdings} {proto : ItemTemplate} {pItem : Item}
variable {hand : Multiset ℕ}

/-- A position that is found by `CanStore`, in the bank or of the player. -/
def key (pos : ℕ) : ℕ := if data.IsBank then makePos data.m_container (pos % 256) else pos

variable (mgr) in
/-- `_StoreItem`. -/
def storeAt (pItem : Item) (s : Holdings) (x : ℕ × ℕ) (clone : Bool) : Holdings :=
  if data.IsBank then s._StoreItem mgr data.m_container pItem x.1 x.2 clone
  else
    let stored := s.player._StoreItem mgr pItem s.nextGuid x.1 x.2 clone
    { s with player := stored.1, nextGuid := stored.2 }

variable {data}

theorem storeLoop_player (hbank : data.IsBank = false) (dest : List (ℕ × ℕ)) :
    storeLoop (data.storeAt mgr pItem) dest s = { s with
        player := (storeLoop (fun (p : Player × ℕ) x clone ↦
          p.1._StoreItem mgr pItem p.2 x.1 x.2 clone) dest (s.player, s.nextGuid)).1
        nextGuid := (storeLoop (fun (p : Player × ℕ) x clone ↦
          p.1._StoreItem mgr pItem p.2 x.1 x.2 clone) dest (s.player, s.nextGuid)).2 } := by
  induction dest generalizing s with
  | nil => rfl
  | cons x dest ih =>
    rw [storeLoop, ih, storeLoop, storeAt, if_neg (by simp [hbank])]

theorem StoreItem_eq (htab : data.IsBank = true → data.m_container < s.purchasedTabs) (dest : List (ℕ × ℕ)) :
    data.StoreItem mgr s pItem dest = storeLoop (data.storeAt mgr pItem) dest s := by
  rw [StoreItem]
  by_cases hbank : data.IsBank = true
  · have hstore : data.storeAt mgr pItem = fun s x clone ↦ s._StoreItem mgr data.m_container pItem x.1 x.2 clone := by
      funext s x clone
      rw [storeAt, if_pos hbank]
    simp [hbank, (htab hbank), hstore]
  · rw [if_neg hbank, storeLoop_player (Bool.eq_false_iff.mpr hbank)]
    rfl

theorem isSlot_tab {tabId slotId : ℕ} (hslot : slotId < 256) : s.IsSlot mgr true (makePos tabId slotId) ↔
      tabId < s.purchasedTabs ∧ slotId < GUILD_BANK_MAX_SLOTS := by
  rw [IsSlot, Player.makePos_div hslot, Player.makePos_mod hslot]

theorem puts_bank (hproto : mgr.GetItemTemplate pItem.entry = some proto) {container pos count : ℕ}
    (clone : Bool) (hroom : HasRoom mgr s true proto pItem (makePos container (pos % 256)) count) :
    Puts s (s._StoreItem mgr container pItem pos count clone) true pItem
      (makePos container (pos % 256)) count clone := by
  have hlt : pos % 256 < 256 := Nat.mod_lt _ (by decide)
  have hspace := hroom.2
  have hslot := (isSlot_tab hlt).mp hroom.1
  have hget : s._GetItem container (pos % 256) = s.tabs[makePos container (pos % 256)]? := if_pos hslot
  have hset (guid : ℕ) (item : Item) : ({ s with nextGuid := guid }).SetItem container (pos % 256)
      item = { s with
        nextGuid := guid, tabs := s.tabs.insert (makePos container (pos % 256)) item } :=
    if_pos hslot
  rw [_StoreItem, hget]
  dsimp only [items] at hspace ⊢
  cases hitem : s.tabs[makePos container (pos % 256)]? with
  | some item2 => exact ⟨.merge item2 _ hitem rfl rfl rfl, rfl, rfl⟩
  | none =>
    rw [hitem] at hspace
    cases clone with
    | false =>
      show Puts s (({ s with nextGuid := s.nextGuid }).SetItem container (pos % 256) (some _)) true
        pItem _ count false
      rw [hset]
      exact ⟨.whole _ hitem rfl rfl rfl rfl, rfl, rfl⟩
    | true =>
      cases hcloned : pItem.CloneItem mgr count s.nextGuid false with
      | none =>
        have hzero := Item.cloneItem_eq_none hproto hcloned
        exact ⟨.nothing hitem rfl hzero, rfl, rfl⟩
      | some cloned =>
        obtain ⟨hguid, hentry, hmin⟩ := Item.cloneItem_eq_some hproto hcloned
        show Puts s (({ s with nextGuid := s.nextGuid + 1 }).SetItem container (pos % 256) cloned)
          true pItem _ count true
        rw [hset]
        exact ⟨.cloned _ hitem rfl hguid hentry (hmin.trans (Nat.min_eq_left hspace)), rfl, rfl⟩

theorem puts_storeAt (hproto : mgr.GetItemTemplate pItem.entry = some proto) {x : ℕ × ℕ}
    (clone : Bool) (hroom : HasRoom mgr s data.IsBank proto pItem (data.key x.1) x.2) :
    Puts s (data.storeAt mgr pItem s x clone) data.IsBank pItem (data.key x.1) x.2 clone := by
  rw [key, storeAt] at *
  cases hbank : data.IsBank with
  | true =>
    rw [hbank] at hroom
    exact puts_bank hproto clone hroom
  | false =>
    rw [hbank] at hroom
    have hspace (hnone : s.player.items[x.1]? = none) : x.2 ≤ proto.GetMaxStackSize := by
      have hspace := hroom.2
      simpa [items, hnone] using hspace
    exact ⟨Player._StoreItem_putAt clone hproto hroom.1 hspace, rfl, rfl⟩

/-! ## Removing -/

variable (data) in
/-- Where the item of a side is. -/
def place : ℕ := makePos data.m_container data.m_slotId

variable (mgr data s) in
/-- A side has the item, which is no bag that is worn. -/
structure Takes (item : Item) : Prop where
  item_eq : (s.items data.IsBank)[data.place]? = some item
  slot_lt : data.m_slotId < 256
  isSlot : s.IsSlot mgr data.IsBank data.place
  notWorn : data.IsBank = false → ¬ (item.IsBag mgr = true ∧ IsBagPos data.m_container data.m_slotId = true)

/-- The item of a side is not there any more, and nothing else has changed. -/
structure Removed (mgr : ObjectMgr) (s s' : Holdings) (b : Bool) (pos : ℕ) : Prop where
  items_eq : s'.items b = (s.items b).erase pos
  other : s'.items (!b) = s.items (!b)
  purchasedTabs : s'.purchasedTabs = s.purchasedTabs
  nextGuid : s'.nextGuid = s.nextGuid
  keepsSlots : KeepsSlots mgr s s'

/-- The item of a side is a smaller stack now. -/
structure Reduced (mgr : ObjectMgr) (s s' : Holdings) (b : Bool) (pos : ℕ) (item : Item)
    (amount : ℕ) : Prop where
  items_eq : s'.items b = (s.items b).insert pos { item with count := item.count - amount }
  other : s'.items (!b) = s.items (!b)
  purchasedTabs : s'.purchasedTabs = s.purchasedTabs
  nextGuid : s'.nextGuid = s.nextGuid
  keepsSlots : KeepsSlots mgr s s'

theorem takes_of_InitItem {item : Item} (h : data.InitItem mgr s = some item) : Takes mgr data s item := by
  rw [InitItem] at h
  cases hbank : data.IsBank with
  | true =>
    rw [hbank, if_pos rfl, _GetItem] at h
    split_ifs at h with hslot
    have hlt : data.m_slotId < 256 := Nat.lt_of_lt_of_le hslot.2 (by decide)
    refine ⟨?_, hlt, ?_, fun hfalse ↦ ?_⟩
    · rw [hbank]
      exact h
    · rw [hbank]
      exact (isSlot_tab hlt).mpr hslot
    · simp [hbank] at hfalse
  | false =>
    rw [hbank, if_neg Bool.false_ne_true] at h
    obtain ⟨hitem, htraded⟩ := Option.filter_eq_some_iff.mp h
    have hslot := Player.hasSlot_of_GetItemByPos hitem
    rw [Player.GetItemByPos_of_hasSlot hslot] at hitem
    refine ⟨?_, hslot.lt, ?_, fun _ hworn ↦ ?_⟩
    · rw [hbank]
      exact hitem
    · rw [hbank, IsSlot, place, Player.makePos_div hslot.lt, Player.makePos_mod hslot.lt]
      exact hslot
    · rw [Item.CanBeTraded, hworn.1, hworn.2] at htraded
      simp at htraded

/-- **Removing an item.** -/
theorem Takes.removed {item : Item} (h : Takes mgr data s item) (pItem : Item) :
    Removed mgr s (data.RemoveItem mgr s pItem 0) data.IsBank data.place := by
  have hslot := h.isSlot
  have hitem := h.item_eq
  have hworn := h.notWorn
  rw [RemoveItem]
  cases hbank : data.IsBank with
  | true =>
    rw [hbank] at hslot
    have hset : s.SetItem data.m_container data.m_slotId none =
        { s with tabs := s.tabs.erase data.place } := if_pos ((isSlot_tab h.slot_lt).mp hslot)
    rw [if_pos rfl, if_neg (not_not.mpr rfl), hset]
    exact ⟨rfl, rfl, rfl, rfl, keepsSlots_of rfl (Player.keepsBags_of_entry
      fun _ item hitem _ _ ↦ ⟨item, hitem, rfl⟩)⟩
  | false =>
    rw [hbank] at hslot hitem hworn
    rw [IsSlot, place, Player.makePos_div h.slot_lt, Player.makePos_mod h.slot_lt] at hslot
    have hget := (Player.GetItemByPos_of_hasSlot hslot).trans hitem
    have hbag : data.m_container = INVENTORY_SLOT_BAG_0 ∨
        (s.player.GetBagByPos mgr data.m_container).isSome = true := by
      by_cases hself : data.m_container = INVENTORY_SLOT_BAG_0
      · exact .inl hself
      · exact .inr (Player.GetBagByPos_isSome hslot hself)
    have hremove : s.player.RemoveItem mgr data.m_container data.m_slotId = ⟨s.player.items.erase data.place⟩ := by
      rw [Player.RemoveItem, hget]
      exact if_pos hbag
    rw [if_neg Bool.false_ne_true, if_neg (not_not.mpr rfl), hremove]
    refine ⟨rfl, rfl, rfl, rfl, keepsSlots_of rfl (Player.keepsBags_of_entry
      fun bag item' hitem' hisBag hpos ↦ ⟨item', ?_, rfl⟩)⟩
    have hne : data.place ≠ makePos INVENTORY_SLOT_BAG_0 bag := by
      intro heq
      rw [← heq] at hitem'
      obtain rfl : item = item' := Option.some.inj (hitem.symm.trans hitem')
      have hbagLt : bag < 256 := by
        have hlimits : INVENTORY_SLOT_BAG_END = 23 ∧ BANK_SLOT_BAG_END = 74 := by decide
        have hpos' := of_decide_eq_true hpos
        omega
      have hdiv := congrArg (· / 256) heq
      have hmod := congrArg (· % 256) heq
      dsimp only [place] at hdiv hmod
      rw [Player.makePos_div h.slot_lt, Player.makePos_div hbagLt] at hdiv
      rw [Player.makePos_mod h.slot_lt, Player.makePos_mod hbagLt] at hmod
      exact hworn rfl ⟨hisBag, by rw [hdiv, hmod]; exact hpos⟩
    rw [TreeMap.get_erase, if_neg hne, hitem']

/-- **Removing a part of an item.** -/
theorem Takes.reduced {item : Item} (h : Takes mgr data s item) {splitedAmount : ℕ} (hne : splitedAmount ≠ 0) :
    Reduced mgr s (data.RemoveItem mgr s item splitedAmount) data.IsBank data.place item splitedAmount := by
  have hitem := h.item_eq
  rw [RemoveItem]
  cases hbank : data.IsBank with
  | true =>
    rw [hbank] at hitem
    rw [if_pos rfl, if_pos hne]
    exact ⟨TreeMap.modify_eq_insert hitem, rfl, rfl, rfl, keepsSlots_of rfl
      (Player.keepsBags_of_entry fun _ item hitem _ _ ↦ ⟨item, hitem, rfl⟩)⟩
  | false =>
    rw [hbank] at hitem
    have hset : s.player.SetCount data.m_container data.m_slotId (item.count - splitedAmount) =
        ⟨s.player.items.insert data.place { item with count := item.count - splitedAmount }⟩ :=
      congrArg Player.mk (TreeMap.modify_eq_insert hitem)
    rw [if_neg Bool.false_ne_true, if_pos hne]
    dsimp only
    rw [hset]
    refine ⟨rfl, rfl, rfl, rfl, keepsSlots_of rfl (Player.keepsBags_of_entry
      fun bag item' hitem' _ _ ↦ ?_)⟩
    by_cases hpos : data.place = makePos INVENTORY_SLOT_BAG_0 bag
    · rw [← hpos] at hitem' ⊢
      obtain rfl : item = item' := Option.some.inj (hitem.symm.trans hitem')
      exact ⟨{ item with count := item.count - splitedAmount },
        by rw [TreeMap.get_insert, if_pos rfl], rfl⟩
    · exact ⟨item', by rw [TreeMap.get_insert, if_neg hpos, hitem'], rfl⟩

section removed

variable {s' : Holdings} {b : Bool} {pos amount : ℕ} {item : Item}

section

variable (h : Removed mgr s s' b pos)
include h

theorem Removed.get (b' : Bool) (pos' : ℕ) :
    (s'.items b')[pos']? = if b' = b ∧ pos' = pos then none else (s.items b')[pos']? := by
  by_cases hb : b' = b
  · subst hb
    rw [h.items_eq, TreeMap.get_erase]
    simp [eq_comm]
  · have hb' : b' = !b := by
      cases b <;> cases b' <;> simp_all
    simp [hb', h.other]

/-- **An item that is removed** is in the hand. -/
theorem Removed.consistent (hs : s.Consistent mgr hand)
    (hitem : (s.items b)[pos]? = some item) : s'.Consistent mgr (item.guid ::ₘ hand) := by
  have hguids : s'.guids + (item.guid ::ₘ hand) = s.guids + hand := by
    rw [guids, guids, total_eq _ b, total_eq _ b, h.items_eq, h.other, ← TreeMap.total_erase hitem,
      ← Multiset.singleton_add]
    ac_rfl
  have hsub (b' : Bool) (pos' : ℕ) (item' : Item) (hitem' : (s'.items b')[pos']? = some item') :
      (s.items b')[pos']? = some item' := by
    rw [h.get] at hitem'
    split_ifs at hitem'
    exact hitem'
  refine ⟨hguids ▸ hs.nodup, fun guid hguid ↦ ?_, fun b' pos' item' hitem' ↦ ?_, fun b' pos' item' hitem' ↦ ?_⟩
  · rw [hguids] at hguid
    rw [h.nextGuid]
    exact hs.fresh guid hguid
  · exact hs.template b' pos' item' (hsub b' pos' item' hitem')
  · exact h.keepsSlots _ _ (hs.slot b' pos' item' (hsub b' pos' item' hitem'))

theorem Removed.fits (hs : s.StacksFit mgr) : s'.StacksFit mgr := by
  intro b' pos' item' proto' hitem'
  rw [h.get] at hitem'
  split_ifs at hitem'
  exact hs b' pos' item' proto' hitem'

theorem Removed.itemCount_eq (hitem : (s.items b)[pos]? = some item) (entry : ℕ) :
    s'.itemCount entry + (if item.entry = entry then item.count else 0) = s.itemCount entry := by
  rw [itemCount, itemCount, total_eq _ b, total_eq _ b, h.items_eq, h.other, ← TreeMap.total_erase hitem]
  omega

end

section

variable (h : Reduced mgr s s' b pos item amount)
include h

theorem Reduced.get (b' : Bool) (pos' : ℕ) : (s'.items b')[pos']? =
      if b' = b ∧ pos' = pos then some { item with count := item.count - amount }
      else (s.items b')[pos']? := by
  by_cases hb : b' = b
  · subst hb
    rw [h.items_eq, TreeMap.get_insert]
    simp [eq_comm]
  · have hb' : b' = !b := by
      cases b <;> cases b' <;> simp_all
    simp [hb', h.other]

/-- **An item that is split** stays where it is. -/
theorem Reduced.consistent (hs : s.Consistent mgr hand)
    (hitem : (s.items b)[pos]? = some item) : s'.Consistent mgr hand := by
  have hguids : s'.guids = s.guids := by
    have htotal := TreeMap.total_replace (f := fun _ (item : Item) ↦ ({item.guid} : Multiset ℕ)) hitem
      { item with count := item.count - amount }
    rw [add_right_cancel_iff] at htotal
    simp [guids, total_eq _ b, h.items_eq, h.other, htotal]
  have hsub (b' : Bool) (pos' : ℕ) (item' : Item) (hitem' : (s'.items b')[pos']? = some item') :
      ∃ old : Item, (s.items b')[pos']? = some old ∧ old.entry = item'.entry := by
    rw [h.get] at hitem'
    split_ifs at hitem' with hpos
    · obtain rfl := Option.some.inj hitem'
      exact ⟨item, by rw [hpos.1, hpos.2, hitem], rfl⟩
    · exact ⟨item', hitem', rfl⟩
  refine ⟨hguids ▸ hs.nodup, fun guid hguid ↦ ?_, fun b' pos' item' hitem' ↦ ?_, fun b' pos' item' hitem' ↦ ?_⟩
  · rw [hguids] at hguid
    rw [h.nextGuid]
    exact hs.fresh guid hguid
  · obtain ⟨old, hold, hentry⟩ := hsub b' pos' item' hitem'
    exact hentry ▸ hs.template b' pos' old hold
  · obtain ⟨old, hold, -⟩ := hsub b' pos' item' hitem'
    exact h.keepsSlots _ _ (hs.slot b' pos' old hold)

theorem Reduced.fits (hs : s.StacksFit mgr) (hitem : (s.items b)[pos]? = some item) : s'.StacksFit mgr := by
  intro b' pos' item' proto' hitem' hproto'
  rw [h.get] at hitem'
  split_ifs at hitem'
  · obtain rfl := Option.some.inj hitem'
    exact Nat.le_trans (Nat.sub_le ..) (hs b pos item proto' hitem hproto')
  · exact hs b' pos' item' proto' hitem' hproto'

theorem Reduced.itemCount_eq (hitem : (s.items b)[pos]? = some item) (hle : amount ≤ item.count) (entry : ℕ) :
    s'.itemCount entry + (if item.entry = entry then amount else 0) = s.itemCount entry := by
  have htotal := TreeMap.total_replace (f := fun _ (item : Item) ↦
    if item.entry = entry then item.count else 0) hitem { item with count := item.count - amount }
  dsimp only at htotal
  rw [itemCount, itemCount, total_eq _ b, total_eq _ b, h.items_eq, h.other]
  split_ifs at htotal ⊢ <;> omega

end

end removed

/-! ## What `CanStore` finds -/

/-- So much of an item fits to a position, where it does not count itself. -/
def FitsAt (items : ExtTreeMap ℕ Item) (proto : ItemTemplate) (pItem : Item) (pos count : ℕ) : Prop :=
  match items[pos]? with
  | none => count ≤ proto.GetMaxStackSize
  | some item2 => item2.guid = pItem.guid ∧ count ≤ proto.GetMaxStackSize ∨
    item2.entry = pItem.entry ∧ item2.count + count ≤ proto.GetMaxStackSize

/-- There is a place for all of an item. -/
structure Finds (mgr : ObjectMgr) (data : MoveItemData) (s : Holdings) (proto : ItemTemplate)
    (pItem : Item) (dest : List (ℕ × ℕ)) : Prop where
  distinct : (dest.map fun x ↦ data.key x.1).Nodup
  slot : ∀ x ∈ dest, s.IsSlot mgr data.IsBank (data.key x.1)
  space : ∀ x ∈ dest, FitsAt (s.items data.IsBank) proto pItem (data.key x.1) x.2
  total : (dest.map Prod.snd).sum = pItem.count

section bank

variable {container slotId : ℕ} {vec vec' : Search} {total : ℕ}

/-- A slot of a tab that an item can be put to. -/
def BankGood (s : Holdings) (container : ℕ) (proto : ItemTemplate) (pItem : Item)
    (slotId count : ℕ) : Prop :=
  slotId < GUILD_BANK_MAX_SLOTS ∧ FitsAt s.tabs proto pItem (makePos container slotId) count

section

variable (hproto : mgr.GetItemTemplate pItem.entry = some proto) (htab : container < s.purchasedTabs)
include hproto htab

theorem sound_reserve (hslot : slotId < GUILD_BANK_MAX_SLOTS)
    (hvec : vec.Sound (BankGood s container proto pItem) total)
    (h : _ReserveSpace mgr slotId pItem ((s._GetItem container slotId).filter
      fun item ↦ !item.isItem (some pItem)) vec = some vec') :
    vec'.Sound (BankGood s container proto pItem) total := by
  have hget : s._GetItem container slotId = s.tabs[makePos container slotId]? := if_pos ⟨htab, hslot⟩
  have hmax : GetMaxStackCount mgr pItem = proto.GetMaxStackSize := by
    rw [GetMaxStackCount, hproto]
    rfl
  have hreserve {requiredSpace : ℕ} (hgood : ∀ n, n ≤ requiredSpace →
      FitsAt s.tabs proto pItem (makePos container slotId) n)
      (h : (if vec.isContained slotId then vec else vec.push slotId requiredSpace) = vec') :
      vec'.Sound (BankGood s container proto pItem) total := by
    rw [← h]
    split_ifs with hpos
    · exact hvec
    · exact hvec.push hpos fun n hn ↦ ⟨hslot, hgood n hn⟩
  rw [_ReserveSpace.eq_def, hget, hmax] at h
  cases hitem : s.tabs[makePos container slotId]? with
  | none =>
    rw [hitem, Option.filter_none] at h
    refine hreserve (fun n hn ↦ ?_) (Option.some.inj h)
    rw [FitsAt, hitem]
    exact hn
  | some item2 =>
    rw [hitem, Option.filter_some] at h
    by_cases hself : pItem.guid = item2.guid
    · have hisItem : item2.isItem (some pItem) = true := decide_eq_true hself
      rw [hisItem] at h
      refine hreserve (fun n hn ↦ ?_) (Option.some.inj h)
      rw [FitsAt, hitem]
      exact .inl ⟨hself.symm, hn⟩
    · have hisItem : item2.isItem (some pItem) = false := decide_eq_false hself
      rw [hisItem, if_pos Bool.not_false] at h
      dsimp only at h
      by_cases hbad : item2.entry ≠ pItem.entry ∨ item2.count ≥ proto.GetMaxStackSize
      · simp [hbad] at h
      rw [if_neg hbad] at h
      obtain ⟨hentry, hcount⟩ := not_or.mp hbad
      refine hreserve (fun n hn ↦ ?_) (Option.some.inj h)
      rw [FitsAt, hitem]
      exact .inr ⟨not_not.mp hentry, by omega⟩

theorem sound_inTab (skipSlotId : ℕ) (merge : Bool) {slots : List ℕ} (hslots : ∀ j ∈ slots, j < GUILD_BANK_MAX_SLOTS)
    (hvec : vec.Sound (BankGood s container proto pItem) total) :
    (s.CanStoreItemInTab mgr container pItem skipSlotId merge slots vec).Sound
      (BankGood s container proto pItem) total := by
  induction slots generalizing vec with
  | nil => exact hvec
  | cons j slots ih =>
    have hrest : ∀ i ∈ slots, i < GUILD_BANK_MAX_SLOTS := fun i hi ↦
      hslots i (List.mem_cons_of_mem _ hi)
    rw [CanStoreItemInTab]
    dsimp only
    split_ifs
    · exact hvec
    · exact ih hrest hvec
    · exact ih hrest hvec
    · refine ih hrest ?_
      cases hreserve : _ReserveSpace mgr j pItem ((s._GetItem container j).filter
        fun item ↦ !item.isItem (some pItem)) vec with
      | none => exact hvec
      | some vec' => exact sound_reserve hproto htab (hslots j List.mem_cons_self) hvec hreserve

theorem sound_searchTab (hvec : vec.Sound (BankGood s container proto pItem) total) :
    (s.searchTab mgr container slotId pItem vec).2.Sound (BankGood s container proto pItem) total ∧
    ((s.searchTab mgr container slotId pItem vec).1 = .OK →
      (s.searchTab mgr container slotId pItem vec).2.count = 0) := by
  have hslots : ∀ j ∈ slotRange 0 GUILD_BANK_MAX_SLOTS, j < GUILD_BANK_MAX_SLOTS := fun j hj ↦
    (Player.mem_slotRange.mp hj).2
  rw [searchTab]
  constructor
  · refine sound_inTab hproto htab slotId false hslots ?_
    split_ifs
    · exact sound_inTab hproto htab slotId true hslots hvec
    · exact hvec
  · intro hok
    by_contra hcount
    simp [hcount] at hok

end

/-- **The bank** finds a place for all of an item, or refuses it. -/
theorem bankCanStore_spec (hproto : mgr.GetItemTemplate pItem.entry = some proto)
    (hslot : slotId < GUILD_BANK_MAX_SLOTS ∨ slotId = NULL_SLOT)
    (hok : (s.bankCanStore mgr container slotId pItem false).1 = .OK) :
    container < s.purchasedTabs ∧ ∃ vec : Search,
      (s.bankCanStore mgr container slotId pItem false).2 = vec.dest ∧ vec.count = 0 ∧
      vec.Sound (BankGood s container proto pItem) pItem.count := by
  have hstart := Search.Sound.start (BankGood s container proto pItem) pItem.count
  rw [bankCanStore] at hok ⊢
  by_cases hbound : pItem.soulBound = true
  · simp [hbound] at hok
  by_cases htab : container ≥ s.purchasedTabs
  · simp [hbound, htab] at hok
  rw [if_neg hbound, if_neg htab] at hok ⊢
  have htab := Nat.lt_of_not_le htab
  refine ⟨htab, ?_⟩
  by_cases htold : slotId ≠ NULL_SLOT
  · have hfilter : (fun item : Item ↦ !(item.isItem (some pItem) || false)) = fun item ↦ !item.isItem (some pItem) := by
      funext item
      simp
    rw [if_pos htold, hfilter] at hok ⊢
    dsimp only at hok ⊢
    cases hreserve : _ReserveSpace mgr slotId pItem ((s._GetItem container slotId).filter
        fun item ↦ !item.isItem (some pItem)) ⟨[], pItem.count⟩ with
    | none =>
      simp [hreserve] at hok
    | some vec =>
      have hvec := sound_reserve hproto htab (hslot.resolve_right htold) hstart hreserve
      rw [hreserve] at hok
      dsimp only at hok ⊢
      split_ifs at hok ⊢ with hcount
      · exact ⟨vec, rfl, hcount, hvec⟩
      · obtain ⟨hsound, hzero⟩ := sound_searchTab hproto htab hvec
        exact ⟨_, rfl, hzero hok, hsound⟩
  · rw [if_neg htold] at hok ⊢
    obtain ⟨hsound, hzero⟩ := sound_searchTab hproto htab hstart
    exact ⟨_, rfl, hzero hok, hsound⟩

end bank

/-- What there is to say about where items can be stored: the templates, the slot of a tab, and counts that are
no more than a stack. -/
structure Storable (mgr : ObjectMgr) (data : MoveItemData) (proto : ItemTemplate) (pItem : Item) :
    Prop where
  proto_eq : mgr.GetItemTemplate pItem.entry = some proto
  slot : data.IsBank = true → data.m_slotId < GUILD_BANK_MAX_SLOTS ∨ data.m_slotId = NULL_SLOT
  count_le : pItem.count ≤ proto.GetMaxStackSize

theorem Storable.count_lt (h : Storable mgr data proto pItem) : pItem.count < 2 ^ 32 := by
  have hlt := proto.GetMaxStackSize_lt (mgr.Stackable_lt _ _ h.proto_eq)
  have hle := h.count_le
  omega

theorem entry_of_merge {item2 : Item} (h : item2.CanBeMergedPartlyWith proto = .OK) : item2.entry = proto.ItemId := by
  rw [Item.CanBeMergedPartlyWith] at h
  split_ifs at h with _ hentry
  exact not_not.mp hentry

/-- **Both sides** find a place for all of an item, or refuse it. -/
theorem canStore_spec (h : Storable mgr data proto pItem) (hok : (data.CanStore mgr s pItem false).1 = .OK) :
    (data.IsBank = true → data.m_container < s.purchasedTabs) ∧
      Finds mgr data s proto pItem (data.CanStore mgr s pItem false).2 := by
  rw [CanStore] at hok ⊢
  cases hbank : data.IsBank with
  | true =>
    have hkey (pos : ℕ) (hpos : pos < GUILD_BANK_MAX_SLOTS) :
        data.key pos = makePos data.m_container pos := by
      have hlimit : GUILD_BANK_MAX_SLOTS = 98 := rfl
      rw [key, if_pos hbank, Nat.mod_eq_of_lt (by omega)]
    rw [if_pos hbank] at hok
    obtain ⟨htab, vec, hdest, hzero, hvec⟩ := bankCanStore_spec h.proto_eq (h.slot hbank) hok
    rw [if_pos rfl, hdest]
    refine ⟨fun _ ↦ htab, ?_, fun x hx ↦ ?_, fun x hx ↦ ?_, ?_⟩
    · have hmap : vec.dest.map (fun x ↦ data.key x.1) = (vec.dest.map Prod.fst).map data.key := by
        simp
      rw [hmap]
      refine List.Nodup.map_on (fun i hi j hj heq ↦ ?_) hvec.distinct
      obtain ⟨x, hx, rfl⟩ := List.mem_map.mp hi
      obtain ⟨y, hy, rfl⟩ := List.mem_map.mp hj
      rw [hkey _ (hvec.good x hx).1, hkey _ (hvec.good y hy).1, makePos, makePos] at heq
      exact Nat.add_left_cancel heq
    · have hlt : x.1 < 256 := Nat.lt_of_lt_of_le (hvec.good x hx).1 (by decide)
      rw [hkey _ (hvec.good x hx).1, hbank]
      exact (isSlot_tab hlt).mpr ⟨htab, (hvec.good x hx).1⟩
    · rw [hkey _ (hvec.good x hx).1, hbank]
      exact (hvec.good x hx).2
    · simpa [hzero] using hvec.total
  | false =>
    rw [hbank, if_neg Bool.false_ne_true] at hok
    obtain ⟨proto', hproto, hsound⟩ := Player.canStoreItem_ok h.count_lt hok
    obtain rfl : proto = proto' := Option.some.inj (h.proto_eq.symm.trans hproto)
    have hkey : data.key = id := by
      funext pos
      rw [key, if_neg (by simp [hbank])]
      rfl
    refine ⟨(absurd · Bool.false_ne_true), ?_, fun x hx ↦ ?_, fun x hx ↦ ?_, (hsound.ok hok).2⟩
    · rw [hkey]
      exact hsound.distinct
    · rw [hkey, hbank]
      exact (hsound.good x hx).1
    · obtain ⟨hslot, hspace⟩ := hsound.good x hx
      rw [Player.HasSpace, Player.GetItemByPos_of_hasSlot hslot, Player.makePos_div_mod] at hspace
      rw [hkey, hbank, items, FitsAt]
      dsimp only [id]
      cases hitem : s.player.items[x.1]? with
      | none =>
        simpa [hitem] using hspace
      | some item2 =>
        rw [hitem] at hspace
        dsimp only at hspace ⊢
        split_ifs at hspace with hself
        · exact .inl ⟨(of_decide_eq_true hself).symm, hspace⟩
        · have hentry := entry_of_merge hspace.1
          rw [mgr.ItemId_eq _ _ h.proto_eq] at hentry
          exact .inr ⟨hentry, hspace.2⟩

/-- **A swap** puts all of an item to the slot of the other one, or is refused. -/
theorem canStore_swap (h : Storable mgr data proto pItem) (hlt : data.m_slotId < 256)
    (hslot : s.IsSlot mgr data.IsBank data.place)
    (hok : (data.CanStore mgr s pItem true).1 = .OK) :
    ∃ pos, data.key pos = data.place ∧ (data.CanStore mgr s pItem true).2 = [(pos, pItem.count)] := by
  rw [CanStore] at hok ⊢
  cases hbank : data.IsBank with
  | true =>
    rw [hbank] at hslot
    have htold := (isSlot_tab hlt).mp hslot
    have hne : data.m_slotId ≠ NULL_SLOT := by
      have hlimits : GUILD_BANK_MAX_SLOTS = 98 ∧ NULL_SLOT = 255 := ⟨rfl, rfl⟩
      omega
    have hnone : ((s._GetItem data.m_container data.m_slotId).filter
        fun item ↦ !(item.isItem (some pItem) || true)) = none := by
      cases s._GetItem data.m_container data.m_slotId with
      | none => rfl
      | some item => rw [Option.filter_some, Bool.or_true, if_neg (by simp)]
    have hmax : GetMaxStackCount mgr pItem = proto.GetMaxStackSize := by
      rw [GetMaxStackCount, h.proto_eq]
      rfl
    refine ⟨data.m_slotId, by rw [key, hbank, if_pos rfl, Nat.mod_eq_of_lt hlt, place], ?_⟩
    have hreserve : _ReserveSpace mgr data.m_slotId pItem none ⟨[], pItem.count⟩ =
        some ⟨[(data.m_slotId, pItem.count)], 0⟩ := by
      have hfree : ¬ (Search.mk [] pItem.count).isContained data.m_slotId = true := Bool.false_ne_true
      simp [_ReserveSpace.eq_def, hfree, Search.push, hmax, Nat.min_eq_right h.count_le]
    rw [hbank, if_pos rfl, bankCanStore] at hok
    rw [if_pos rfl, bankCanStore]
    by_cases hbound : pItem.soulBound = true
    · simp [hbound] at hok
    simp [hbound, (Nat.not_le_of_lt htold.1), hne, hreserve]
  | false =>
    rw [hbank, IsSlot, place, Player.makePos_div hlt, Player.makePos_mod hlt] at hslot
    have hbag : data.m_container ≠ NULL_BAG := by
      intro hnull
      have hsome := Player.GetBagByPos_isSome hslot (by rw [hnull]; decide)
      rw [hnull, Player.GetBagByPos, if_neg (by decide)] at hsome
      cases hsome
    have htold : data.m_slotId ≠ NULL_SLOT := by
      have hlimits : BANK_SLOT_BAG_END = 74 ∧ CURRENCYTOKEN_SLOT_END = 150 ∧ MAX_BAG_SIZE = 36 ∧
        NULL_SLOT = 255 := by decide
      have hsize : s.player.GetBagSize mgr data.m_container ≤ MAX_BAG_SIZE := Player.GetBagSize_le _
      rcases hslot with ⟨-, hslot | hslot⟩ | ⟨-, hslot⟩ <;> omega
    rw [hbank, if_neg Bool.false_ne_true] at hok
    obtain ⟨-, hdest⟩ := Player.canStoreItem_swap h.proto_eq h.count_lt h.count_le hbag htold hok
    exact ⟨data.place, by rw [key, hbank, if_neg Bool.false_ne_true], hdest⟩

/-! ## Moving -/

/-- Nothing is lost or doubled. -/
structure Conserves (mgr : ObjectMgr) (s s' : Holdings) : Prop where
  consistent : s'.Consistent mgr 0
  fits : s'.StacksFit mgr
  count : ∀ entry, s'.itemCount entry = s.itemCount entry

/-- There is room where there was, unless something else has come. -/
theorem hasRoom_of_fitsAt {s s' : Holdings} {b : Bool} {pos count : ℕ}
    (h : FitsAt (s.items b) proto pItem pos count) (hslot : s'.IsSlot mgr b pos)
    (hchange : (s'.items b)[pos]? = none ∨ ∃ old new : Item, (s.items b)[pos]? = some old ∧
      (s'.items b)[pos]? = some new ∧ new.entry = old.entry ∧ new.count ≤ old.count ∧
      old.guid ≠ pItem.guid) :
    HasRoom mgr s' b proto pItem pos count := by
  refine ⟨hslot, ?_⟩
  rw [FitsAt] at h
  rcases hchange with hnone | ⟨old, new, hold, hnew, hentry, hcount, hguid⟩
  · rw [hnone]
    cases hitem : (s.items b)[pos]? with
    | none =>
      rw [hitem] at h
      exact h
    | some item2 =>
      rw [hitem] at h
      rcases h with ⟨-, h⟩ | ⟨-, h⟩
      · exact h
      · exact Nat.le_trans (Nat.le_add_left ..) h
  · rw [hold] at h
    rw [hnew]
    rcases h with ⟨h, -⟩ | ⟨hsame, h⟩
    · exact absurd h hguid
    · exact ⟨hentry.trans hsame, Nat.le_trans (Nat.add_le_add_right hcount _) h⟩

theorem consistent_clone {guid : ℕ} (hs : s.Consistent mgr 0) (hguid : guid = s.nextGuid) :
    ({ s with nextGuid := s.nextGuid + 1 } : Holdings).Consistent mgr (guid ::ₘ 0) := by
  have hguids : ({ s with nextGuid := s.nextGuid + 1 } : Holdings).guids + guid ::ₘ 0 =
      guid ::ₘ (s.guids + 0) := Multiset.add_cons ..
  refine ⟨?_, fun used hused ↦ ?_, hs.template, hs.slot⟩
  · rw [hguids]
    refine Multiset.nodup_cons.mpr ⟨fun hmem ↦ ?_, hs.nodup⟩
    exact Nat.lt_irrefl _ (hguid ▸ hs.fresh _ hmem)
  · rw [hguids] at hused
    rcases Multiset.mem_cons.mp hused with rfl | hused
    · exact hguid ▸ Nat.lt_succ_self _
    · exact Nat.lt_succ_of_lt (hs.fresh used hused)

theorem plan_single {pos count : ℕ} (hslot : s.IsSlot mgr data.IsBank (data.key pos))
    (hfree : (s.items data.IsBank)[data.key pos]? = none) (hle : count ≤ proto.GetMaxStackSize) :
    Plan mgr s data.IsBank proto pItem data.key [(pos, count)] := by
  refine ⟨List.nodup_singleton _, fun x hx ↦ ?_⟩
  obtain rfl := List.mem_singleton.mp hx
  refine ⟨hslot, ?_⟩
  rw [hfree]
  exact hle

theorem tab_lt (hlt : data.m_slotId < 256) (hbank : data.IsBank = true)
    (hslot : s.IsSlot mgr data.IsBank data.place) : data.m_container < s.purchasedTabs := by
  rw [hbank] at hslot
  exact ((isSlot_tab hlt).mp hslot).1

section moves

variable {pSrc pDest : MoveItemData} {item item2 : Item}

/-- **Merging an item**, or putting it to free slots. -/
theorem conserves_merge (hs : s.Consistent mgr 0) (hfits : s.StacksFit mgr)
    (hsrc : Takes mgr pSrc s item) (hdest : Storable mgr pDest proto item)
    (hok : (pDest.CanStore mgr s item false).1 = .OK) :
    Conserves mgr s (pDest.StoreItem mgr (pSrc.RemoveItem mgr s item 0) item (pDest.CanStore mgr s item false).2) := by
  obtain ⟨htab, hfinds⟩ := canStore_spec hdest hok
  have hremoved := hsrc.removed item
  generalize pSrc.RemoveItem mgr s item 0 = s' at hremoved ⊢
  generalize (pDest.CanStore mgr s item false).2 = vec at hfinds ⊢
  have hplan : Plan mgr s' pDest.IsBank proto item pDest.key vec := by
    refine ⟨hfinds.distinct, fun x hx ↦ hasRoom_of_fitsAt (hfinds.space x hx)
      (hremoved.keepsSlots _ _ (hfinds.slot x hx)) ?_⟩
    have hget := hremoved.get pDest.IsBank (pDest.key x.1)
    by_cases hown : pDest.IsBank = pSrc.IsBank ∧ pDest.key x.1 = pSrc.place
    · rw [if_pos hown] at hget
      exact .inl hget
    · rw [if_neg hown] at hget
      cases hitem : (s.items pDest.IsBank)[pDest.key x.1]? with
      | none => exact .inl (hget.trans hitem)
      | some old =>
        refine .inr ⟨old, old, rfl, hget.trans hitem, rfl, le_rfl, fun hguid ↦ ?_⟩
        exact hown (hs.inj hitem hsrc.item_eq hguid)
  have hstored := storeLoop_spec hdest.proto_eq (fun s x clone hroom ↦
    puts_storeAt hdest.proto_eq clone hroom) (hremoved.consistent hs hsrc.item_eq)
    (hremoved.fits hfits) hplan
  rw [StoreItem_eq fun hbank ↦ hremoved.purchasedTabs ▸ htab hbank]
  refine ⟨hstored.consistent, hstored.fits, fun entry ↦ ?_⟩
  rw [hstored.count, hfinds.total, hremoved.itemCount_eq hsrc.item_eq]

/-- **Splitting a stack.** -/
theorem conserves_split {cloned : Item} {amount : ℕ} (hs : s.Consistent mgr 0)
    (hfits : s.StacksFit mgr) (hsrc : Takes mgr pSrc s item) (hne : amount ≠ 0)
    (hle : amount ≤ item.count) (hcloned : item.CloneItem mgr amount s.nextGuid false = some cloned)
    (hdest : Storable mgr pDest proto cloned)
    (hok : (pDest.CanStore mgr { s with nextGuid := s.nextGuid + 1 } cloned false).1 = .OK) :
    Conserves mgr s (pDest.StoreItem mgr
      (pSrc.RemoveItem mgr { s with nextGuid := s.nextGuid + 1 } item amount) cloned
      (pDest.CanStore mgr { s with nextGuid := s.nextGuid + 1 } cloned false).2) := by
  obtain ⟨proto', hproto⟩ := hs.template _ _ _ hsrc.item_eq
  obtain ⟨hguid, hentry, hmin⟩ := Item.cloneItem_eq_some hproto hcloned
  have hcount : cloned.count = amount := by
    have hmax := hfits _ _ _ _ hsrc.item_eq hproto
    rw [hmin, Nat.min_eq_left (Nat.le_trans hle hmax)]
  have hs' := consistent_clone hs hguid
  have hfits' : ({ s with nextGuid := s.nextGuid + 1 } : Holdings).StacksFit mgr := hfits
  have hsrc' : Takes mgr pSrc { s with nextGuid := s.nextGuid + 1 } item :=
    ⟨hsrc.item_eq, hsrc.slot_lt, hsrc.isSlot, hsrc.notWorn⟩
  have hcount' (entry : ℕ) :
      ({ s with nextGuid := s.nextGuid + 1 } : Holdings).itemCount entry = s.itemCount entry := rfl
  generalize ({ s with nextGuid := s.nextGuid + 1 } : Holdings) = t at hs' hfits' hsrc' hcount' hok ⊢
  obtain ⟨htab, hfinds⟩ := canStore_spec hdest hok
  have hreduced := hsrc'.reduced hne
  generalize pSrc.RemoveItem mgr t item amount = s' at hreduced ⊢
  generalize (pDest.CanStore mgr t cloned false).2 = vec at hfinds ⊢
  have hplan : Plan mgr s' pDest.IsBank proto cloned pDest.key vec := by
    refine ⟨hfinds.distinct, fun x hx ↦ hasRoom_of_fitsAt (hfinds.space x hx)
      (hreduced.keepsSlots _ _ (hfinds.slot x hx)) ?_⟩
    have hget := hreduced.get pDest.IsBank (pDest.key x.1)
    cases hitem : (t.items pDest.IsBank)[pDest.key x.1]? with
    | none =>
      rw [if_neg fun hown ↦ ?_] at hget
      · exact .inl (hget.trans hitem)
      · simp [hown.1, hown.2, hsrc'.item_eq] at hitem
    | some old =>
      -- the guid of the clone is not in use
      have hother : old.guid ≠ cloned.guid := by
        intro heq
        have hnodup := hs'.nodup
        rw [Multiset.add_cons, Multiset.nodup_cons, ← heq] at hnodup
        exact hnodup.1 (Multiset.mem_add.mpr (.inl (mem_guids hitem)))
      by_cases hown : pDest.IsBank = pSrc.IsBank ∧ pDest.key x.1 = pSrc.place
      · rw [if_pos hown] at hget
        rw [hown.1, hown.2, hsrc'.item_eq] at hitem
        obtain rfl := Option.some.inj hitem
        exact .inr ⟨item, _, rfl, hget, rfl, Nat.sub_le .., hother⟩
      · rw [if_neg hown] at hget
        exact .inr ⟨old, old, rfl, hget.trans hitem, rfl, le_rfl, hother⟩
  have hstored := storeLoop_spec hdest.proto_eq (fun s x clone hroom ↦
    puts_storeAt hdest.proto_eq clone hroom) (hreduced.consistent hs' hsrc'.item_eq)
    (hreduced.fits hfits' hsrc'.item_eq) hplan
  rw [StoreItem_eq fun hbank ↦ hreduced.purchasedTabs ▸ htab hbank]
  refine ⟨hstored.consistent, hstored.fits, fun entry ↦ ?_⟩
  have hsplit := hreduced.itemCount_eq hsrc'.item_eq hle entry
  rw [hstored.count, hfinds.total, hcount, hentry, ← hcount', ← hsplit]

/-- **Swapping two items.** -/
theorem conserves_swap {proto2 : ItemTemplate} (hs : s.Consistent mgr 0) (hfits : s.StacksFit mgr)
    (hsrc : Takes mgr pSrc s item) (hdest : Takes mgr pDest s item2)
    (hne : ¬ (pSrc.IsBank = pDest.IsBank ∧ pSrc.place = pDest.place))
    (hstore : Storable mgr pDest proto item) (hback : Storable mgr pSrc proto2 item2)
    (hok : (pDest.CanStore mgr s item true).1 = .OK)
    (hok' : (pSrc.CanStore mgr s item2 true).1 = .OK) :
    Conserves mgr s (pSrc.StoreItem mgr (pDest.StoreItem mgr
      (pDest.RemoveItem mgr (pSrc.RemoveItem mgr s item 0) item2 0) item
      (pDest.CanStore mgr s item true).2) item2 (pSrc.CanStore mgr s item2 true).2) := by
  have hitem := hsrc.item_eq
  have hremoved := hsrc.removed item
  obtain ⟨pos, hpos, hvec⟩ := canStore_swap hstore hdest.slot_lt hdest.isSlot hok
  obtain ⟨pos', hpos', hvec'⟩ := canStore_swap hback hsrc.slot_lt hsrc.isSlot hok'
  rw [hvec, hvec']
  generalize pSrc.RemoveItem mgr s item 0 = s1 at hremoved ⊢
  have hs1 := hremoved.consistent hs hitem
  have hfits1 := hremoved.fits hfits
  have hdest1 : Takes mgr pDest s1 item2 := by
    refine ⟨?_, hdest.slot_lt, hremoved.keepsSlots _ _ hdest.isSlot, hdest.notWorn⟩
    rw [hremoved.get, if_neg fun h ↦ hne ⟨h.1.symm, h.2.symm⟩]
    exact hdest.item_eq
  have hremoved2 := hdest1.removed item2
  generalize pDest.RemoveItem mgr s1 item2 0 = s2 at hremoved2 ⊢
  have hs2 := hremoved2.consistent hs1 hdest1.item_eq
  have hfits2 := hremoved2.fits hfits1
  have hfree : (s2.items pDest.IsBank)[pDest.key pos]? = none := by
    rw [hremoved2.get, if_pos ⟨rfl, hpos⟩]
  have hother : ¬ (pSrc.IsBank = pDest.IsBank ∧ pSrc.key pos' = pDest.place) := by
    rw [hpos']
    exact hne
  have hfree' : (s2.items pSrc.IsBank)[pSrc.key pos']? = none := by
    rw [hremoved2.get, if_neg hother, hremoved.get, if_pos ⟨rfl, hpos'⟩]
  -- the first item is stored
  have hslot2 := hremoved2.keepsSlots _ _ hdest1.isSlot
  have hstored := storeLoop_spec hstore.proto_eq (fun s x clone hroom ↦
    puts_storeAt hstore.proto_eq clone hroom) (Multiset.cons_swap .. ▸ hs2) hfits2
    (plan_single (hpos ▸ hslot2) hfree hstore.count_le)
  rw [StoreItem_eq fun hbank ↦ tab_lt hdest.slot_lt hbank hslot2]
  generalize storeLoop (pDest.storeAt mgr item) [(pos, item.count)] s2 = s3 at hstored ⊢
  -- and the second one
  have hslot3 := hstored.keepsSlots _ _ (hremoved2.keepsSlots _ _ (hremoved.keepsSlots _ _ hsrc.isSlot))
  have hfree3 : (s3.items pSrc.IsBank)[pSrc.key pos']? = none := by
    rw [hstored.other _ _ fun h ↦ hother ⟨h.1, (List.mem_singleton.mp h.2).trans hpos⟩, hfree']
  have hstored' := storeLoop_spec hback.proto_eq (fun s x clone hroom ↦
    puts_storeAt hback.proto_eq clone hroom) hstored.consistent hstored.fits
    (plan_single (hpos' ▸ hslot3) hfree3 hback.count_le)
  rw [StoreItem_eq fun hbank ↦ tab_lt hsrc.slot_lt hbank hslot3]
  refine ⟨hstored'.consistent, hstored'.fits, fun entry ↦ (hstored'.count entry).trans ?_⟩
  have hcount3 := hstored.count entry
  have hcount2 := hremoved2.itemCount_eq hdest1.item_eq entry
  have hcount1 := hremoved.itemCount_eq hitem entry
  simp only [List.map_cons, List.map_nil, List.sum_cons, List.sum_nil, Nat.add_zero] at hcount3 ⊢
  omega

end moves

end MoveItemData

namespace Holdings

open Guilds.MoveItemData

/-! ## The result -/

/-- What a move does to the items, whether they have been moved or not. -/
structure Conserved (mgr : ObjectMgr) (s : Holdings) (result : Bool × Holdings) : Prop where
  count : ∀ entry, result.2.itemCount entry = s.itemCount entry
  inj : ∀ (b b' : Bool) (pos pos' : ℕ) (item item' : Item), (result.2.items b)[pos]? = some item →
    (result.2.items b')[pos']? = some item' → item.guid = item'.guid → b = b' ∧ pos = pos'
  fits : result.2.StacksFit mgr
  consistent : result.2.Consistent mgr 0
  refused : result.1 = false → result.2.tabs = s.tabs ∧ result.2.player = s.player

variable {mgr : ObjectMgr} {rights : TabRights} {s : Holdings} {pSrc pDest : MoveItemData}
variable {item : Item}

theorem conserved_moved {s' : Holdings} (h : Conserves mgr s s') : Conserved mgr s (true, s') :=
  ⟨h.count, fun _ _ _ _ _ _ hitem hitem' hguid ↦ h.consistent.inj hitem hitem' hguid, h.fits, h.consistent, nofun⟩

section moves

variable (hs : s.Consistent mgr 0) (hfits : s.StacksFit mgr)

include hs hfits

theorem conserved_refused : Conserved mgr s (false, s) :=
  ⟨fun _ ↦ rfl, fun _ _ _ _ _ _ hitem hitem' hguid ↦ hs.inj hitem hitem' hguid, hfits, hs, fun _ ↦ ⟨rfl, rfl⟩⟩

theorem exists_storable {b : Bool} {pos : ℕ} {data : MoveItemData} (hitem : (s.items b)[pos]? = some item)
    (hslot : data.IsBank = true → data.m_slotId < GUILD_BANK_MAX_SLOTS ∨ data.m_slotId = NULL_SLOT) :
    ∃ proto, Storable mgr data proto item := by
  obtain ⟨proto, hproto⟩ := hs.template b pos item hitem
  exact ⟨proto, hproto, hslot, hfits b pos item proto hitem hproto⟩

variable (hslot : pSrc.IsBank = true → pSrc.m_slotId < GUILD_BANK_MAX_SLOTS ∨ pSrc.m_slotId = NULL_SLOT)
variable (hslot' : pDest.IsBank = true → pDest.m_slotId < GUILD_BANK_MAX_SLOTS ∨ pDest.m_slotId = NULL_SLOT)

include hslot'

theorem conserved_movePart {amount : ℕ} (hsrc : Takes mgr pSrc s item) (hne : amount ≠ 0)
    (hle : amount ≤ item.count) : Conserved mgr s (s.movePart mgr pSrc pDest item amount) := by
  rw [movePart]
  cases hcloned : item.CloneItem mgr amount s.nextGuid false with
  | none => exact conserved_refused hs hfits
  | some cloned =>
    obtain ⟨proto, hproto, -, hcount⟩ := exists_storable hs hfits hsrc.item_eq hslot'
    obtain ⟨hguid, hentry, hmin⟩ := Item.cloneItem_eq_some hproto hcloned
    have hstore : Storable mgr pDest proto cloned := ⟨hentry ▸ hproto, hslot', hmin ▸ Nat.min_le_right ..⟩
    have hsplit := conserves_split hs hfits hsrc hne hle hcloned hstore
    have hs' := (consistent_clone hs hguid).mono (Multiset.zero_le _)
    dsimp only
    rw [_DoItemsMove, Option.isSome_none]
    generalize pDest.CanStore mgr { s with nextGuid := s.nextGuid + 1 } cloned false = answer
      at hsplit ⊢
    obtain ⟨res, vec⟩ := answer
    cases res with
    | OK => exact conserved_moved (hsplit rfl)
    | _ => exact ⟨fun _ ↦ rfl, fun _ _ _ _ _ _ hitem hitem' hguid ↦ hs'.inj hitem hitem' hguid,
        hfits, hs', fun _ ↦ ⟨rfl, rfl⟩⟩

theorem conserved_merge (hsrc : Takes mgr pSrc s item) :
    Conserved mgr s (s._DoItemsMove mgr pSrc pDest item item none 0) := by
  obtain ⟨proto, hstore⟩ := exists_storable hs hfits hsrc.item_eq hslot'
  rw [_DoItemsMove]
  have hmerge := conserves_merge hs hfits hsrc hstore
  rw [Option.isSome_none]
  generalize pDest.CanStore mgr s item false = answer at hmerge ⊢
  obtain ⟨res, vec⟩ := answer
  cases res with
  | OK => exact conserved_moved (hmerge rfl)
  | _ => exact conserved_refused hs hfits

include hslot

theorem conserved_swap {item2 : Item} (hsrc : Takes mgr pSrc s item) (hdest : Takes mgr pDest s item2)
    (hne : ¬ (pSrc.IsBank = pDest.IsBank ∧ pSrc.place = pDest.place)) :
    Conserved mgr s (s._DoItemsMove mgr pSrc pDest item item (some item2) 0) := by
  obtain ⟨proto, hstore⟩ := exists_storable hs hfits hsrc.item_eq hslot'
  obtain ⟨proto2, hback⟩ := exists_storable hs hfits hdest.item_eq hslot
  have hswap := conserves_swap hs hfits hsrc hdest hne hstore hback
  rw [_DoItemsMove, Option.isSome_some]
  dsimp only
  generalize pDest.CanStore mgr s item true = answer at hswap ⊢
  generalize pSrc.CanStore mgr s item2 true = answer2 at hswap ⊢
  obtain ⟨res, vec⟩ := answer
  obtain ⟨res2, vec2⟩ := answer2
  cases res with
  | OK =>
    cases res2 with
    | OK => exact conserved_moved (hswap rfl rfl)
    | _ => exact conserved_refused hs hfits
  | _ => exact conserved_refused hs hfits

theorem conserved_moveWhole (hsrc : Takes mgr pSrc s item)
    (hne : ¬ (pSrc.IsBank = pDest.IsBank ∧ pSrc.place = pDest.place)) :
    Conserved mgr s (s.moveWhole mgr rights pSrc pDest item) := by
  have hmerge := conserved_merge hs hfits hslot' hsrc
  rw [moveWhole]
  generalize s._DoItemsMove mgr pSrc pDest item item none 0 = first at hmerge ⊢
  obtain ⟨moved, s'⟩ := first
  cases moved with
  | true => exact hmerge
  | false =>
    cases hinit : pDest.InitItem mgr s with
    | none => exact conserved_refused hs hfits
    | some item2 =>
      have hdest := takes_of_InitItem hinit
      split_ifs with hback hwithdraw
      · exact conserved_refused hs hfits
      · exact conserved_refused hs hfits
      · exact conserved_swap hs hfits hslot hslot' hsrc hdest hne

/-- **Every move** conserves the items. -/
theorem conserved_MoveItems (splitedAmount : ℕ) (hne : ¬ (pSrc.IsBank = pDest.IsBank ∧ pSrc.place = pDest.place)) :
    Conserved mgr s (s._MoveItems mgr rights pSrc pDest splitedAmount) := by
  rw [_MoveItems]
  cases hinit : pSrc.InitItem mgr s with
  | none => exact conserved_refused hs hfits
  | some item =>
    have hsrc := takes_of_InitItem hinit
    dsimp only
    split_ifs with hcount hstore hwithdraw hpart
    · exact conserved_refused hs hfits
    · exact conserved_refused hs hfits
    · exact conserved_refused hs hfits
    · exact conserved_movePart hs hfits hslot' hsrc hpart.1 (Nat.le_of_not_lt hcount)
    · exact conserved_moveWhole hs hfits hslot hslot' hsrc hne

end moves

/-- **Items are conserved** by both operations, for all positions, amounts and rights. -/
theorem itemsConserved (mgr : ObjectMgr) (rights : TabRights) (s : Holdings) (toChar : Bool)
    (tabId slotId destTabId destSlotId playerBag playerSlotId splitedAmount : ℕ)
    (hs : s.Consistent mgr 0) (hfits : s.StacksFit mgr) :
    Conserved mgr s (s.SwapItems mgr rights tabId slotId destTabId destSlotId splitedAmount) ∧
    Conserved mgr s (s.SwapItemsWithInventory mgr rights toChar tabId slotId playerBag playerSlotId
      splitedAmount) := by
  constructor
  · rw [SwapItems]
    split_ifs with hbad hsame
    · exact conserved_refused hs hfits
    · exact conserved_refused hs hfits
    · simp only [not_or, not_le] at hbad
      obtain ⟨-, hslot, -, hslot'⟩ := hbad
      refine conserved_MoveItems hs hfits (fun _ ↦ .inl hslot) (fun _ ↦ .inl hslot') splitedAmount ?_
      rintro ⟨-, hplace⟩
      have hlimit : GUILD_BANK_MAX_SLOTS = 98 := rfl
      dsimp only [place, makePos] at hplace
      omega
  · rw [SwapItemsWithInventory]
    by_cases hbad : slotId ≥ GUILD_BANK_MAX_SLOTS ∧ slotId ≠ NULL_SLOT ∨ tabId ≥ s.purchasedTabs
    · rw [if_pos hbad]
      exact conserved_refused hs hfits
    have hslot : slotId < GUILD_BANK_MAX_SLOTS ∨ slotId = NULL_SLOT := by
      by_contra hnot
      rw [not_or, not_lt] at hnot
      exact hbad (.inl hnot)
    split_ifs
    · exact conserved_MoveItems hs hfits (fun _ ↦ hslot) (fun h ↦ by cases h) splitedAmount
        fun h ↦ by cases h.1
    · exact conserved_MoveItems hs hfits (fun h ↦ by cases h) (fun _ ↦ hslot) splitedAmount
        fun h ↦ by cases h.1

/-! ### A stack that is too large -/

/-- A store with one item, of which 20 are a stack. -/
def stackMgr : ObjectMgr where
  GetItemTemplate entry := if entry = 1 then some { ItemId := 1, Stackable := 20 } else none
  ItemId_eq entry proto h := by
    split_ifs at h with hentry
    cases h
    exact hentry.symm
  ContainerSlots_le entry proto h := by
    split_ifs at h
    cases h
    exact Nat.zero_le _
  Stackable_lt entry proto h := by
    split_ifs at h
    cases h
    decide
  ItemLimitCategory _ := none

/-- A bank with one stack in its first slot, and a player with nothing. -/
def oneStack (count : ℕ) : Holdings where
  tabs := (∅ : ExtTreeMap ℕ Item).insert (makePos 0 0) { guid := 1, entry := 1, count }
  purchasedTabs := 1
  player := ⟨∅⟩
  nextGuid := 2

def allRights : TabRights := ⟨fun _ ↦ true, fun _ ↦ 1⟩

theorem oneStack_item {count : ℕ} {b : Bool} {pos : ℕ} {item : Item}
    (h : ((oneStack count).items b)[pos]? = some item) :
    b = true ∧ pos = makePos 0 0 ∧ item = { guid := 1, entry := 1, count } := by
  cases b with
  | true =>
    rw [oneStack, items, TreeMap.get_insert] at h
    split_ifs at h with hpos
    · exact ⟨rfl, hpos.symm, (Option.some.inj h).symm⟩
    · cases h
  | false => cases h

theorem consistent_oneStack (count : ℕ) : (oneStack count).Consistent stackMgr 0 := by
  have hguids : (oneStack count).guids = {1} := by
    rw [guids, total, oneStack]
    rw [TreeMap.total_insert rfl, TreeMap.total_empty, zero_add, add_zero]
  refine ⟨?_, fun guid hguid ↦ ?_, fun b pos item hitem ↦ ?_, fun b pos item hitem ↦ ?_⟩
  · rw [hguids]
    exact Multiset.nodup_singleton _
  · rw [hguids, add_zero, Multiset.mem_singleton] at hguid
    exact hguid ▸ Nat.lt_succ_self 1
  · obtain ⟨-, -, rfl⟩ := oneStack_item hitem
    exact ⟨_, rfl⟩
  · obtain ⟨rfl, rfl, -⟩ := oneStack_item hitem
    exact ⟨Nat.lt_succ_self 0, Nat.lt_of_lt_of_le (Nat.lt_succ_self 0) (by decide)⟩

theorem fits_oneStack {count : ℕ} (hcount : count ≤ 20) : (oneStack count).StacksFit stackMgr := by
  intro b pos item proto hitem hproto
  obtain ⟨-, -, rfl⟩ := oneStack_item hitem
  obtain rfl := Option.some.inj hproto
  exact hcount

theorem itemsConserved_five :
    Conserved stackMgr (oneStack 5) ((oneStack 5).SwapItems stackMgr allRights 0 0 0 1 3) ∧
    Conserved stackMgr (oneStack 5)
      ((oneStack 5).SwapItemsWithInventory stackMgr allRights true 0 0 255 255 3) :=
  itemsConserved stackMgr allRights (oneStack 5) true 0 0 0 1 255 255 3 (consistent_oneStack 5)
    (fits_oneStack (by decide))

/-- **A stack that is too large** loses what a clone cannot have when it is split. -/
theorem not_itemsConserved : ¬ ∀ (mgr : ObjectMgr) (rights : TabRights) (s : Holdings)
    (tabId slotId destTabId destSlotId splitedAmount entry : ℕ), s.Consistent mgr 0 →
    (s.SwapItems mgr rights tabId slotId destTabId destSlotId splitedAmount).2.itemCount entry =
      s.itemCount entry := by
  intro h
  have hcount := h stackMgr allRights (oneStack 30) 0 0 0 1 25 1 (consistent_oneStack 30)
  have hbefore : (oneStack 30).itemCount 1 = 30 := by decide +kernel
  have hafter : ((oneStack 30).SwapItems stackMgr allRights 0 0 0 1 25).2.itemCount 1 = 25 := by
    decide +kernel
  exact absurd hcount (by decide)

end Holdings

end Gundrak.Guilds
