import Gundrak.Guilds.ItemConservation
import Gundrak.Mails.MailHandlers

/-!
# What there is in mailboxes and inventories

The gold and the items of a character are what he has on him and what is in his mails.  `World.gold`,
`World.guids` and `World.itemCount` add this up over all characters.

While a handler is at work some items are in a draft, and so nowhere: `World.Sound` says of a world, and of
the guids that are in a draft, that no guid is used twice, that the items attached to the mails of a character
are the ones in his `mMitems`, and what else the server promises about items and slots.

* `sound_update`: a character changes.
* **`sound_sendMailTo`**: a draft is sent, and what is in it is nowhere else.
-/

open Std (ExtTreeMap)

namespace Gundrak.Mails

open Players

/-! ## Gold, guids and counts -/

/-- The guids in a map of items. -/
def guidsIn (items : ExtTreeMap ℕ Item) : Multiset ℕ := TreeMap.total items fun _ item ↦ {item.guid}

/-- How much of an item there is in a map. -/
def countIn (entry : ℕ) (items : ExtTreeMap ℕ Item) : ℕ :=
  TreeMap.total items fun _ item ↦ if item.entry = entry then item.count else 0

namespace Character

/-- The gold of a character, and in his mails. -/
def gold (c : Character) : ℕ := c.purse.money + (c.m_mail.map (·.money.toNat)).sum

/-- The items of a character, and those in his mails. -/
def guids (c : Character) : Multiset ℕ := guidsIn c.inventory.items + guidsIn c.mMitems

/-- How much of an item a character has, and his mails. -/
def itemCount (c : Character) (entry : ℕ) : ℕ := countIn entry c.inventory.items + countIn entry c.mMitems

/-- The guids that the mails of a character list. -/
def listed (c : Character) : Multiset ℕ := (c.m_mail.flatMap (·.items) : List ℕ)

end Character

namespace World

/-- The gold of all characters, and in all mails. -/
def gold (w : World) : ℕ := TreeMap.total w.characters fun _ c ↦ c.gold

/-- The items of all characters, and in all mails. -/
def guids (w : World) : Multiset ℕ := TreeMap.total w.characters fun _ c ↦ c.guids

/-- How much there is of an item. -/
def itemCount (w : World) (entry : ℕ) : ℕ := TreeMap.total w.characters fun _ c ↦ c.itemCount entry

end World

/-! ## Sound characters and worlds -/

/-- An item of a kind that there is, and no larger stack than there can be. -/
def Item.IsFine (mgr : ObjectMgr) (item : Item) : Prop :=
  ∃ proto, mgr.GetItemTemplate item.entry = some proto ∧ item.count ≤ proto.GetMaxStackSize

/-- What the server promises about a character. -/
structure Character.Sound (mgr : ObjectMgr) (c : Character) : Prop where
  fine : ∀ (pos : ℕ) (item : Item), c.inventory.items[pos]? = some item → Item.IsFine mgr item
  slot : ∀ (pos : ℕ) (item : Item), c.inventory.items[pos]? = some item →
    c.inventory.HasSlot mgr (pos / 256) (pos % 256)
  mailed : ∀ (guid : ℕ) (item : Item), c.mMitems[guid]? = some item → item.guid = guid ∧ Item.IsFine mgr item
  /-- every attachment is there, and in one mail -/
  attached : guidsIn c.mMitems = c.listed
  ids : (c.m_mail.map Mail.messageID).Nodup

/-- No guid is used twice, and all characters are as they should be. -/
structure World.Sound (mgr : ObjectMgr) (hand : Multiset ℕ) (w : World) : Prop where
  nodup : (w.guids + hand).Nodup
  fresh : ∀ guid ∈ w.guids + hand, guid < w.nextGuid
  character : ∀ (p : ℕ) (c : Character), w.characters[p]? = some c → c.Sound mgr
  mailId : ∀ (p : ℕ) (c : Character), w.characters[p]? = some c → ∀ m ∈ c.m_mail, m.messageID < w.mailId

variable {mgr : ObjectMgr} {w : World} {hand hand' : Multiset ℕ} {p : ℕ} {c c' : Character}

section

variable {items : ExtTreeMap ℕ Item} {item : Item} {pos : ℕ}

theorem guidsIn_insert (h : items[pos]? = none) :
    guidsIn (items.insert pos item) = guidsIn items + {item.guid} := TreeMap.total_insert h

theorem countIn_insert (h : items[pos]? = none) (entry : ℕ) : countIn entry (items.insert pos item) =
      countIn entry items + if item.entry = entry then item.count else 0 := TreeMap.total_insert h

theorem guidsIn_erase (h : items[pos]? = some item) : guidsIn (items.erase pos) + {item.guid} = guidsIn items :=
  TreeMap.total_erase (f := fun _ (item : Item) ↦ ({item.guid} : Multiset ℕ)) h

theorem countIn_erase (h : items[pos]? = some item)
    (entry : ℕ) : countIn entry (items.erase pos) + (if item.entry = entry then item.count else 0) =
      countIn entry items :=
  TreeMap.total_erase (f := fun _ (item : Item) ↦ if item.entry = entry then item.count else 0) h

theorem mem_guidsIn (h : items[pos]? = some item) : item.guid ∈ guidsIn items := by
  rw [← guidsIn_erase h]
  exact Multiset.mem_add.mpr (.inr (Multiset.mem_singleton_self _))

end

theorem mem_sum {l : List (Multiset ℕ)} {guid : ℕ} (h : guid ∈ l.sum) : ∃ ids ∈ l, guid ∈ ids := by
  induction l with
  | nil => exact absurd h (Multiset.notMem_zero guid)
  | cons ids l ih =>
    rw [List.sum_cons, Multiset.mem_add] at h
    rcases h with h | h
    · exact ⟨ids, List.mem_cons_self, h⟩
    · obtain ⟨ids', hmem, hguid⟩ := ih h
      exact ⟨ids', List.mem_cons_of_mem _ hmem, hguid⟩

theorem exists_of_mem_guidsIn {items : ExtTreeMap ℕ Item} {guid : ℕ} (h : guid ∈ guidsIn items) :
    ∃ (pos : ℕ) (item : Item), items[pos]? = some item ∧ item.guid = guid := by
  obtain ⟨ids, hids, hguid⟩ := mem_sum h
  obtain ⟨x, hx, rfl⟩ := List.mem_map.mp hids
  exact ⟨x.1, x.2, ExtTreeMap.mem_toList_iff_getElem?_eq_some.mp hx, (Multiset.mem_singleton.mp hguid).symm⟩

/-! ## One character changes -/

section

variable (h : w.characters[p]? = some c) (c' : Character)
include h

theorem gold_insert (n id : ℕ) : World.gold ⟨w.characters.insert p c', n, id⟩ + c.gold = w.gold + c'.gold :=
  TreeMap.total_replace (f := fun _ (c : Character) ↦ c.gold) h c'

theorem guids_insert (n id : ℕ) : World.guids ⟨w.characters.insert p c', n, id⟩ + c.guids = w.guids + c'.guids :=
  TreeMap.total_replace (f := fun _ (c : Character) ↦ c.guids) h c'

theorem itemCount_insert (n id entry : ℕ) :
    World.itemCount ⟨w.characters.insert p c', n, id⟩ entry + c.itemCount entry =
      w.itemCount entry + c'.itemCount entry :=
  TreeMap.total_replace (f := fun _ (c : Character) ↦ c.itemCount entry) h c'

end

theorem guids_le (h : w.characters[p]? = some c) : c.guids ≤ w.guids := by
  rw [World.guids, ← TreeMap.total_erase h]
  exact Multiset.le_add_left _ _

/-- **A character changes**, and the items he has and those in the hand are no others than before, or new
ones. -/
theorem sound_update (hs : w.Sound mgr hand) (h : w.characters[p]? = some c) (hc : c'.Sound mgr)
    {n id : ℕ} (hid : w.mailId ≤ id) (hids : ∀ m ∈ c'.m_mail, m.messageID < id)
    (hnodup : ∀ rest, (rest + (c.guids + hand)).Nodup → (∀ guid ∈ rest + (c.guids + hand), guid < w.nextGuid) →
      (rest + (c'.guids + hand')).Nodup ∧ ∀ guid ∈ rest + (c'.guids + hand'), guid < n) :
    World.Sound mgr hand' ⟨w.characters.insert p c', n, id⟩ := by
  -- the guids of everybody else
  obtain ⟨rest, hrest⟩ := Multiset.le_iff_exists_add.mp (guids_le h)
  have hguids : World.guids ⟨w.characters.insert p c', n, id⟩ = rest + c'.guids := by
    have heq := guids_insert h c' n id
    rw [hrest, add_assoc, add_comm c.guids, add_right_cancel_iff] at heq
    exact heq
  have hold : w.guids + hand = rest + (c.guids + hand) := by
    rw [hrest, add_comm c.guids, add_assoc]
  have hnew : World.guids ⟨w.characters.insert p c', n, id⟩ + hand' = rest + (c'.guids + hand') := by
    rw [hguids, add_assoc]
  obtain ⟨hnodup', hfresh'⟩ := hnodup rest (hold ▸ hs.nodup) (hold ▸ hs.fresh)
  refine ⟨hnew ▸ hnodup', hnew ▸ hfresh', fun q d hd ↦ ?_, fun q d hd m hm ↦ ?_⟩
  · rw [TreeMap.get_insert] at hd
    split at hd
    · exact Option.some.inj hd ▸ hc
    · exact hs.character q d hd
  · rw [TreeMap.get_insert] at hd
    split at hd
    · obtain rfl := Option.some.inj hd
      exact hids m hm
    · exact Nat.lt_of_lt_of_le (hs.mailId q d hd m hm) hid

/-- A character keeps his items, but for what is taken into the hand or given from it. -/
theorem sound_update_eq (hs : w.Sound mgr hand) (h : w.characters[p]? = some c) (hc : c'.Sound mgr)
    (hids : ∀ m ∈ c'.m_mail, m.messageID < w.mailId) (heq : c'.guids + hand' = c.guids + hand) :
    World.Sound mgr hand' ⟨w.characters.insert p c', w.nextGuid, w.mailId⟩ :=
  sound_update hs h hc le_rfl hids fun rest hnodup hfresh ↦ by
    rw [heq]
    exact ⟨hnodup, hfresh⟩

/-! ## Sending a draft -/

theorem sum_map_singleton {α : Type} (f : α → ℕ) (l : List α) :
    (l.map fun x ↦ ({f x} : Multiset ℕ)).sum = (l.map f : List ℕ) := by
  induction l with
  | nil => rfl
  | cons x l ih => rw [List.map_cons, List.sum_cons, ih, List.map_cons, Multiset.singleton_add, Multiset.cons_coe]

/-- Items that are added to `mMitems` under their guids. -/
structure Character.Adds (c c' : Character) (items : List Item) : Prop where
  purse : c'.purse = c.purse
  inventory : c'.inventory = c.inventory
  m_mail : c'.m_mail = c.m_mail
  guids : guidsIn c'.mMitems = guidsIn c.mMitems + (items.map (·.guid) : List ℕ)
  count : ∀ entry, countIn entry c'.mMitems =
    countIn entry c.mMitems + (items.map fun item ↦ if item.entry = entry then item.count else 0).sum
  get : ∀ (guid : ℕ) (item : Item), c'.mMitems[guid]? = some item →
    c.mMitems[guid]? = some item ∨ item ∈ items ∧ item.guid = guid

theorem adds_foldl {items : List Item} (hnew : ∀ it ∈ items, c.mMitems[it.guid]? = none)
    (hnodup : (items.map (·.guid)).Nodup) : c.Adds (items.foldl Character.AddMItem c) items := by
  induction items generalizing c with
  | nil =>
    refine ⟨rfl, rfl, rfl, ?_, fun entry ↦ rfl, fun guid item h ↦ .inl h⟩
    simp
  | cons it items ih =>
    obtain ⟨hnot, hnodup⟩ := List.nodup_cons.mp hnodup
    have hfree := hnew it List.mem_cons_self
    have hnew' : ∀ it' ∈ items, (c.AddMItem it).mMitems[it'.guid]? = none := by
      intro it' hit'
      have hmem : it'.guid ∈ items.map (·.guid) := List.mem_map_of_mem hit'
      have hne : it.guid ≠ it'.guid := by
        intro heq
        rw [← heq] at hmem
        exact hnot hmem
      rw [Character.AddMItem, TreeMap.get_insert, if_neg hne]
      exact hnew it' (List.mem_cons_of_mem _ hit')
    obtain ⟨hpurse, hinventory, hmail, hguids, hcount, hget⟩ := ih hnew' hnodup
    refine ⟨hpurse, hinventory, hmail, ?_, fun entry ↦ ?_, fun guid item h ↦ ?_⟩
    · rw [List.foldl_cons, hguids, Character.AddMItem, guidsIn_insert hfree, List.map_cons, add_assoc,
        Multiset.singleton_add, Multiset.cons_coe]
    · rw [List.foldl_cons, hcount, Character.AddMItem, countIn_insert hfree, List.map_cons,
        List.sum_cons, Nat.add_assoc]
    · rcases hget guid item h with h | ⟨hmem, hguid⟩
      · rw [Character.AddMItem, TreeMap.get_insert] at h
        split at h
        · rename_i hself
          obtain rfl := Option.some.inj h
          exact .inr ⟨List.mem_cons_self, hself⟩
        · exact .inl h
      · exact .inr ⟨List.mem_cons_of_mem _ hmem, hguid⟩

/-- Attachments are under their guids, and of kinds that there are. -/
def MailDraft.Sound (mgr : ObjectMgr) (draft : MailDraft) : Prop :=
  ∀ (guid : ℕ) (item : Item), draft.m_items[guid]? = some item → item.guid = guid ∧ Item.IsFine mgr item

theorem MailDraft.Sound.map_guid {draft : MailDraft} (hd : draft.Sound mgr) :
    (draft.m_items.toList.map Prod.snd).map (·.guid) = draft.m_items.keys := by
  rw [List.map_map, ← ExtTreeMap.map_fst_toList_eq_keys]
  refine List.map_congr_left fun x hx ↦ ?_
  exact (hd x.1 x.2 (ExtTreeMap.mem_toList_iff_getElem?_eq_some.mp hx)).1

theorem MailDraft.Sound.guidsIn_eq {draft : MailDraft} (hd : draft.Sound mgr) :
    guidsIn draft.m_items = (draft.m_items.keys : List ℕ) := by
  rw [guidsIn, TreeMap.total, sum_map_singleton (fun x : ℕ × Item ↦ x.2.guid), ← hd.map_guid, List.map_map]
  rfl

variable {draft : MailDraft} {receiver sender t : ℕ} {type : MailMessageType}

/-- What a world with a draft in the hand is after it has been sent. -/
structure Sent (mgr : ObjectMgr) (w w' : World) (draft : MailDraft) : Prop where
  sound : w'.Sound mgr 0
  gold : w'.gold = w.gold + draft.m_money.toNat
  count : ∀ entry, w'.itemCount entry = w.itemCount entry + countIn entry draft.m_items

/-- **A draft that is sent** is in the mailbox of the receiver. -/
theorem sound_sendMailTo (hs : w.Sound mgr (guidsIn draft.m_items)) (hd : draft.Sound mgr)
    (hr : w.characters[receiver]? = some c) :
    Sent mgr w (draft.SendMailTo w receiver type sender t) draft := by
  have hc := hs.character receiver c hr
  have hdisjoint : ∀ guid ∈ guidsIn draft.m_items, guid ∉ w.guids := fun guid hguid hmem ↦
    Multiset.disjoint_left.mp (Multiset.nodup_add.mp hs.nodup).2.2 hmem hguid
  have hkeys : (draft.m_items.keys : List ℕ).Nodup := ExtTreeMap.nodup_keys
  -- the receiver gets the mail and the items
  have hadds : ({ c with m_mail :=
      { messageID := w.mailId, messageType := type, sender, receiver, items := draft.m_items.keys,
        deliver_time := t, money := draft.m_money, COD := draft.m_COD } :: c.m_mail } : Character).Adds
      ((draft.m_items.toList.map Prod.snd).foldl Character.AddMItem { c with m_mail :=
      { messageID := w.mailId, messageType := type, sender, receiver, items := draft.m_items.keys,
        deliver_time := t, money := draft.m_money, COD := draft.m_COD } :: c.m_mail })
      (draft.m_items.toList.map Prod.snd) := by
    refine adds_foldl (fun it hit ↦ ?_) (hd.map_guid ▸ hkeys)
    obtain ⟨x, hx, rfl⟩ := List.mem_map.mp hit
    have hget := ExtTreeMap.mem_toList_iff_getElem?_eq_some.mp hx
    refine Option.eq_none_iff_forall_ne_some.mpr fun item hitem ↦ ?_
    refine hdisjoint x.2.guid (mem_guidsIn hget) (Multiset.mem_of_le (guids_le hr) ?_)
    rw [Character.guids, Multiset.mem_add]
    exact .inr ((hc.mailed _ item hitem).1 ▸ mem_guidsIn hitem)
  rw [MailDraft.SendMailTo, TreeMap.modify_eq_insert hr]
  generalize (draft.m_items.toList.map Prod.snd).foldl Character.AddMItem _ = c' at hadds ⊢
  obtain ⟨hpurse, hinventory, hmail, hguids, hcount, hget⟩ := hadds
  rw [hd.map_guid, ← hd.guidsIn_eq] at hguids
  have hguids' : c'.guids = c.guids + guidsIn draft.m_items := by
    simp [Character.guids, hinventory, hguids, add_assoc]
  have hc' : c'.Sound mgr := by
    refine ⟨hinventory ▸ hc.fine, hinventory ▸ hc.slot, fun guid item hitem ↦ ?_, ?_, ?_⟩
    · rcases hget guid item hitem with hitem | ⟨hmem, hguid⟩
      · exact hc.mailed guid item hitem
      · obtain ⟨x, hx, rfl⟩ := List.mem_map.mp hmem
        exact ⟨hguid, (hd _ _ (ExtTreeMap.mem_toList_iff_getElem?_eq_some.mp hx)).2⟩
    · rw [hguids, hc.attached, Character.listed, Character.listed, hmail, List.flatMap_cons,
        ← Multiset.coe_add, ← hd.guidsIn_eq, add_comm]
    · rw [hmail, List.map_cons]
      refine List.nodup_cons.mpr ⟨fun hmem ↦ ?_, hc.ids⟩
      obtain ⟨m, hm, hid⟩ := List.mem_map.mp hmem
      exact Nat.lt_irrefl _ (hid ▸ hs.mailId receiver c hr m hm)
  refine ⟨sound_update hs hr hc' (Nat.le_succ _) (fun m hm ↦ ?_) (fun rest hnodup hfresh ↦ ?_), ?_, fun entry ↦ ?_⟩
  · rw [hmail] at hm
    rcases List.mem_cons.mp hm with rfl | hm
    · exact Nat.lt_succ_self _
    · exact Nat.lt_succ_of_lt (hs.mailId receiver c hr m hm)
  · rw [hguids', add_zero]
    exact ⟨hnodup, hfresh⟩
  · have heq := gold_insert hr c' w.nextGuid (w.mailId + 1)
    rw [Character.gold, Character.gold, hpurse, hmail, List.map_cons, List.sum_cons] at heq
    dsimp only at heq
    omega
  · have heq := itemCount_insert hr c' w.nextGuid (w.mailId + 1) entry
    have hcount' := hcount entry
    rw [Character.itemCount, Character.itemCount, hinventory] at heq
    rw [List.map_map] at hcount'
    have hdraft : countIn entry draft.m_items = (draft.m_items.toList.map
      ((fun item ↦ if item.entry = entry then item.count else 0) ∘ Prod.snd)).sum := rfl
    dsimp only at hcount' heq
    omega

end Gundrak.Mails
