import Gundrak.Mails.Attachments

/-!
# What each handler of mail does to the accounts

`Step` is what a call of a handler should be: the world stays sound, no gold is lost but what the call costs,
and of every item there is as much as before.

* `step_sendMail`: money, postage and attachments leave the sender, and all but the postage is in a new mail.
* `step_takeItem`: an attachment is stored, and the COD is paid.
* `step_takeMoney`: the money of a mail is taken, if it is less than `2 ^ 31`.
* `step_return` and `step_delete`: a mail goes back, or it is empty and is deleted.
-/

open Std (ExtTreeMap)

namespace Gundrak.Mails

open Players

variable {mgr : ObjectMgr} {w w' : World} {p : ℕ} {c c' : Character} {m m' : Mail} {id : ℕ}

/-! ## Mailboxes -/

/-- A mail that `GetMail` finds, and what changing or removing it does. -/
structure Character.Holds (c : Character) (m : Mail) (l₁ l₂ : List Mail) : Prop where
  m_mail : c.m_mail = l₁ ++ m :: l₂
  ids : ∀ m' ∈ l₁ ++ l₂, m'.messageID ≠ m.messageID
  removeMail : (c.RemoveMail m.messageID).m_mail = l₁ ++ l₂
  setMail : ∀ m', m'.messageID = m.messageID → (c.setMail m').m_mail = l₁ ++ m' :: l₂

theorem holds_of_getMail (hids : (c.m_mail.map Mail.messageID).Nodup) (h : c.GetMail id = some m) :
    m.messageID = id ∧ ∃ l₁ l₂, c.Holds m l₁ l₂ := by
  obtain ⟨hid, l₁, l₂, heq, hbefore⟩ := List.find?_eq_some_iff_append.mp h
  obtain rfl : m.messageID = id := of_decide_eq_true hid
  have hne : ∀ m' ∈ l₁ ++ l₂, m'.messageID ≠ m.messageID := by
    rw [heq, List.map_append, List.map_cons, List.nodup_middle, List.nodup_cons, ← List.map_append] at hids
    exact fun m' hm' hsame ↦ hids.1 (hsame ▸ List.mem_map_of_mem hm')
  have hkeep (m' : Mail) (l : List Mail) (hl : ∀ x ∈ l, x ∈ l₁ ++ l₂) (hm' : m'.messageID = m.messageID) :
      l.map (fun x ↦ if x.messageID = m'.messageID then m' else x) = l := by
    refine (List.map_congr_left fun x hx ↦ ?_).trans (List.map_id l)
    exact if_neg (hm' ▸ hne x (hl x hx))
  refine ⟨rfl, l₁, l₂, heq, hne, ?_, fun m' hm' ↦ ?_⟩
  · rw [Character.RemoveMail, heq]
    have herase : (m :: l₂).eraseP (fun x ↦ decide (x.messageID = m.messageID)) = l₂ := List.eraseP_cons_of_pos hid
    rw [List.eraseP_append_right _ fun x hx ↦ by simpa using hne x (List.mem_append_left _ hx), herase]
  · rw [Character.setMail, heq]
    rw [List.map_append, List.map_cons, if_pos hm'.symm,
      hkeep m' l₁ (fun _ ↦ List.mem_append_left _) hm', hkeep m' l₂ (fun _ ↦ List.mem_append_right _) hm']

theorem holds_of_deliveredMail {time : ℕ} (hids : (c.m_mail.map Mail.messageID).Nodup)
    (h : c.deliveredMail id time = some m) : m.messageID = id ∧ ∃ l₁ l₂, c.Holds m l₁ l₂ :=
  holds_of_getMail hids (Option.filter_eq_some_iff.mp h).1

theorem Character.Holds.ids_set {l₁ l₂ : List Mail} (hm : c.Holds m l₁ l₂) (hid : m'.messageID = m.messageID)
    (hids : (c.m_mail.map Mail.messageID).Nodup) :
    ((l₁ ++ m' :: l₂).map Mail.messageID).Nodup := by
  simpa [hid, hm.m_mail] using hids

theorem Character.Holds.ids_remove {l₁ l₂ : List Mail} (hm : c.Holds m l₁ l₂)
    (hids : (c.m_mail.map Mail.messageID).Nodup) : ((l₁ ++ l₂).map Mail.messageID).Nodup := by
  rw [hm.m_mail, List.map_append, List.map_cons] at hids
  rw [List.map_append]
  exact (List.nodup_cons.mp (List.nodup_middle.mp hids)).2

theorem listed_middle (l₁ l₂ : List Mail) (m : Mail) : (((l₁ ++ m :: l₂).flatMap (·.items) : List ℕ) : Multiset ℕ) =
      ((l₁ ++ l₂).flatMap (·.items) : List ℕ) + (m.items : List ℕ) := by
  rw [List.flatMap_append, List.flatMap_cons, List.flatMap_append, ← Multiset.coe_add,
    ← Multiset.coe_add, ← Multiset.coe_add, add_assoc, add_comm (m.items : Multiset ℕ)]

theorem money_middle (l₁ l₂ : List Mail) (m : Mail) :
    ((l₁ ++ m :: l₂).map (·.money.toNat)).sum = ((l₁ ++ l₂).map (·.money.toNat)).sum + m.money.toNat := by
  simp only [List.map_append, List.map_cons, List.sum_append, List.sum_cons]
  omega

section

variable {l₁ l₂ : List Mail}

theorem Character.Holds.lt_set {n : ℕ} (hm : c.Holds m l₁ l₂)
    (hid : m'.messageID = m.messageID) (hlt : ∀ x ∈ c.m_mail, x.messageID < n) :
    ∀ x ∈ l₁ ++ m' :: l₂, x.messageID < n := by
  rw [hm.m_mail] at hlt
  intro x hx
  rcases List.mem_append.mp hx with hx | hx
  · exact hlt x (List.mem_append_left _ hx)
  · rcases List.mem_cons.mp hx with rfl | hx
    · exact hid ▸ hlt m (List.mem_append_right _ List.mem_cons_self)
    · exact hlt x (List.mem_append_right _ (List.mem_cons_of_mem _ hx))

theorem Character.Holds.lt_remove {n : ℕ} (hm : c.Holds m l₁ l₂)
    (hlt : ∀ x ∈ c.m_mail, x.messageID < n) : ∀ x ∈ l₁ ++ l₂, x.messageID < n := by
  rw [hm.m_mail] at hlt
  intro x hx
  rcases List.mem_append.mp hx with hx | hx
  · exact hlt x (List.mem_append_left _ hx)
  · exact hlt x (List.mem_append_right _ (List.mem_cons_of_mem _ hx))

theorem Character.Holds.gold (hm : c.Holds m l₁ l₂) :
    c.gold = c.purse.money + (((l₁ ++ l₂).map (·.money.toNat)).sum + m.money.toNat) := by
  rw [Character.gold, hm.m_mail, money_middle]

theorem Character.Holds.listed (hm : c.Holds m l₁ l₂) :
    c.listed = ((l₁ ++ l₂).flatMap (·.items) : List ℕ) + (m.items : List ℕ) := by
  rw [Character.listed, hm.m_mail, listed_middle]

end

/-! ## The accounts of one step -/

/-- A step keeps the accounts: nothing is lost but what it costs. -/
structure Step (mgr : ObjectMgr) (w w' : World) (cost : ℕ) : Prop where
  sound : w'.Sound mgr 0
  gold : w'.gold + cost = w.gold
  count : ∀ entry, w'.itemCount entry = w.itemCount entry

theorem Step.refl (hs : w.Sound mgr 0) : Step mgr w w 0 := ⟨hs, rfl, fun _ ↦ rfl⟩

theorem Step.of_sent {w₁ : World} {draft : MailDraft} {cost : ℕ} (h : Sent mgr w₁ w' draft)
    (hgold : w₁.gold + draft.m_money.toNat + cost = w.gold)
    (hcount : ∀ entry, w₁.itemCount entry + countIn entry draft.m_items = w.itemCount entry) :
    Step mgr w w' cost :=
  ⟨h.sound, h.gold ▸ hgold, fun entry ↦ (h.count entry).trans (hcount entry)⟩

theorem exists_insert {q : ℕ} (h : q ∈ w.characters) (c' : Character) :
    ∃ d, (w.characters.insert p c')[q]? = some d := by
  rw [TreeMap.get_insert]
  split
  · exact ⟨c', rfl⟩
  · exact ⟨_, ExtTreeMap.getElem?_eq_some_getElem h⟩

theorem step_takeMoney (hs : w.Sound mgr 0) (hc : w.characters[p]? = some c) {time : ℕ}
    (hm : c.deliveredMail id time = some m) (hlt : m.money.toNat < 2 ^ 31) {purse : Purse}
    (hp : c.purse.ModifyMoney (int32 m.money.toNat) = (purse, true)) :
    Step mgr w { w with
      characters := w.characters.insert p ({ c with purse }.setMail { m with money := 0 }) } 0 := by
  have hcs := hs.character p c hc
  obtain ⟨-, l₁, l₂, hl⟩ := holds_of_deliveredMail hcs.ids hm
  have hmail : ({ c with purse }.setMail { m with money := 0 }).m_mail =
      l₁ ++ { m with money := 0 } :: l₂ := hl.setMail _ rfl
  have hlisted : ({ c with purse }.setMail { m with money := 0 }).listed = c.listed := by
    rw [Character.listed, hmail, hl.listed, listed_middle]
  have hsound : ({ c with purse }.setMail { m with money := 0 }).Sound mgr :=
    ⟨hcs.fine, hcs.slot, hcs.mailed, hcs.attached.trans hlisted.symm, hmail ▸ hl.ids_set rfl hcs.ids⟩
  refine ⟨sound_update_eq hs hc hsound (hmail ▸ hl.lt_set rfl (hs.mailId p c hc)) rfl, ?_, fun entry ↦ ?_⟩
  · have hmoney := Purse.ModifyMoney_pos c.purse hlt hp
    have hnew : ({ c with purse }.setMail { m with money := 0 }).gold =
        purse.money + ((l₁ ++ l₂).map (·.money.toNat)).sum := by
      rw [Character.gold, hmail, money_middle]
      rfl
    have hold := hl.gold
    have heq := gold_insert hc ({ c with purse }.setMail { m with money := 0 }) w.nextGuid w.mailId
    omega
  · have heq := itemCount_insert hc ({ c with purse }.setMail { m with money := 0 }) w.nextGuid w.mailId
      entry
    exact Nat.add_right_cancel heq

theorem draft_empty_sound (money COD : UInt32) : MailDraft.Sound mgr ⟨∅, money, COD⟩ := by
  intro guid item h
  rw [ExtTreeMap.getElem?_empty] at h
  cases h

/-- An attachment goes to the inventory of its receiver, who may have paid for it. -/
theorem takeItem_stored (hs : w.Sound mgr 0) (hc : w.characters[p]? = some c) {time itemId : ℕ}
    (it : Item) (purse : Purse)
    (hm : c.deliveredMail id time = some m) (hitem : itemId ∈ m.items) (hguid : it.guid = itemId)
    {old : Item} (hold : c.mMitems[itemId]? = some old) (hentry : it.entry = old.entry)
    (hcount : it.count = old.count)
    (hok : (c.inventory.CanStoreItem mgr NULL_BAG NULL_SLOT it.entry it.count (some it) false none).result = .OK) :
    let stored := c.inventory.StoreItem mgr it w.nextGuid (c.inventory.CanStoreItem mgr NULL_BAG
      NULL_SLOT it.entry it.count (some it) false none).dest
    let w' : World := { w with
      characters := w.characters.insert p (({ c with purse, inventory := stored.1 }.setMail
        { m.RemoveItem itemId with COD := 0 }).RemoveMItem it.guid)
      nextGuid := stored.2 }
    w'.Sound mgr 0 ∧ w'.gold + c.purse.money = w.gold + purse.money ∧
      ∀ entry, w'.itemCount entry = w.itemCount entry := by
  intro stored w'
  have hcs := hs.character p c hc
  obtain ⟨-, l₁, l₂, hl⟩ := holds_of_deliveredMail hcs.ids hm
  obtain ⟨holdGuid, proto, hproto, hstack⟩ := hcs.mailed itemId old hold
  have hfine : Item.IsFine mgr it := ⟨proto, hentry ▸ hproto, hcount ▸ hstack⟩
  have hstored (hand : Multiset ℕ) (hnodup : (guidsIn c.inventory.items + it.guid ::ₘ hand).Nodup)
      (hfresh : ∀ guid ∈ guidsIn c.inventory.items + it.guid ::ₘ hand, guid < w.nextGuid) :
      StoredIn mgr c.inventory stored.1 stored.2 it hand :=
    storeItem_spec hcs.fine hcs.slot hfine hnodup hfresh hok
  set t : Character := (({ c with purse, inventory := stored.1 } : Character).setMail
    { m.RemoveItem itemId with COD := 0 }).RemoveMItem it.guid with ht
  have hmail : t.m_mail = l₁ ++ { m.RemoveItem itemId with COD := 0 } :: l₂ := hl.setMail _ rfl
  have hmitems : t.mMitems = c.mMitems.erase itemId := by
    rw [ht, ← hguid]
    rfl
  have htguids : t.guids = guidsIn stored.1.items + guidsIn (c.mMitems.erase itemId) := by
    rw [Character.guids, hmitems]
    rfl
  have herase : guidsIn (c.mMitems.erase itemId) + {it.guid} = guidsIn c.mMitems := by
    rw [hguid, ← holdGuid, ← guidsIn_erase hold, holdGuid]
  -- the item is in the hand for a moment
  have hhand (rest : Multiset ℕ) : rest + (c.guids + 0) =
      guidsIn c.inventory.items + it.guid ::ₘ (guidsIn (c.mMitems.erase itemId) + rest) := by
    rw [Character.guids, ← herase, ← Multiset.singleton_add]
    abel
  have hput (rest : Multiset ℕ) (hnodup : (rest + (c.guids + 0)).Nodup)
      (hfresh : ∀ guid ∈ rest + (c.guids + 0), guid < w.nextGuid) :
      StoredIn mgr c.inventory stored.1 stored.2 it (guidsIn (c.mMitems.erase itemId) + rest) :=
    hstored _ (hhand rest ▸ hnodup) (hhand rest ▸ hfresh)
  obtain ⟨others, hothers⟩ := Multiset.le_iff_exists_add.mp (guids_le hc)
  have hworld : w.guids + 0 = others + (c.guids + 0) := by
    rw [hothers]
    abel
  have hin := hput others (hworld ▸ hs.nodup) (hworld ▸ hs.fresh)
  have hlisted : guidsIn (c.mMitems.erase itemId) = t.listed := by
    have hall := hcs.attached
    have hmem : (itemId :: m.items.erase itemId : List ℕ) = (m.items : Multiset ℕ) :=
      Multiset.coe_eq_coe.mpr (List.perm_cons_erase hitem).symm
    rw [hl.listed, ← hmem, ← herase, hguid, ← Multiset.cons_coe, ← Multiset.singleton_add,
      add_comm ({itemId} : Multiset ℕ), ← add_assoc] at hall
    rw [Character.listed, hmail, listed_middle]
    exact add_right_cancel hall
  have hsound : t.Sound mgr := by
    refine ⟨hin.fine, hin.slot, fun guid item h ↦ ?_, hmitems ▸ hlisted, hmail ▸ hl.ids_set rfl hcs.ids⟩
    rw [hmitems, TreeMap.get_erase] at h
    exact hcs.mailed guid item (Option.ite_none_left_eq_some.mp h).2
  refine ⟨sound_update hs hc hsound le_rfl (hmail ▸ hl.lt_set rfl (hs.mailId p c hc))
    fun rest hnodup hfresh ↦ ?_, ?_, fun entry ↦ ?_⟩
  · have hstored := hput rest hnodup hfresh
    have hnew : rest + (t.guids + 0) = guidsIn stored.1.items + (guidsIn (c.mMitems.erase itemId) + rest) := by
      rw [htguids]
      abel
    exact ⟨hnew ▸ hstored.nodup, hnew ▸ hstored.fresh⟩
  · have hnew : t.gold = purse.money + (((l₁ ++ l₂).map (·.money.toNat)).sum + m.money.toNat) := by
      rw [Character.gold, hmail, money_middle]
      rfl
    have heq : w'.gold + c.gold = w.gold + t.gold := gold_insert hc t stored.2 w.mailId
    rw [hnew, hl.gold] at heq
    omega
  · have hcountStored := hin.count entry
    have hcountErase := countIn_erase hold entry
    have hnew : t.itemCount entry = countIn entry stored.1.items + countIn entry (c.mMitems.erase itemId) := by
      rw [Character.itemCount, hmitems]
      rfl
    have heq : w'.itemCount entry + c.itemCount entry = w.itemCount entry + t.itemCount entry :=
      itemCount_insert hc t stored.2 w.mailId entry
    rw [hnew, Character.itemCount] at heq
    rw [hentry, hcount] at hcountStored
    omega

theorem paid_spec (h : c.purse.HasEnoughMoney m.COD = true) :
    (if m.COD > 0 then (c.purse.ModifyMoney (-int32 m.COD.toNat)).1 else c.purse).money + m.COD.toNat =
      c.purse.money := by
  split
  · exact c.purse.ModifyMoney_neg h
  · rename_i hnot
    have hzero : m.COD.toNat = 0 := Nat.eq_zero_of_not_pos fun hpos ↦ hnot hpos
    rw [hzero, add_zero]

section

variable (hs : w.Sound mgr 0) (hc : w.characters[p]? = some c)
include hs hc

/-- An attachment is taken, and the COD is paid to the sender. -/
theorem step_takeItem {time itemId : ℕ}
    {old : Item} {bound : Bool} (hm : c.deliveredMail id time = some m) (hitem : itemId ∈ m.items)
    (hold : c.mMitems[itemId]? = some old) (henough : c.purse.HasEnoughMoney m.COD = true)
    (hexists : m.COD > 0 → m.sender ∈ w.characters)
    (hok : (c.inventory.CanStoreItem mgr NULL_BAG NULL_SLOT old.entry old.count
      (some { old with bindedNotWith := bound }) false none).result = .OK) :
    Step mgr w (w.takeItem mgr p c m itemId { old with bindedNotWith := bound }
      (c.inventory.CanStoreItem mgr NULL_BAG NULL_SLOT old.entry old.count
        (some { old with bindedNotWith := bound }) false none).dest time) 0 := by
  have hpaid := paid_spec henough
  obtain ⟨hsound, hgold, hcount⟩ := takeItem_stored hs hc { old with bindedNotWith := bound }
    (if m.COD > 0 then (c.purse.ModifyMoney (-int32 m.COD.toNat)).1 else c.purse) hm hitem
    ((hs.character p c hc).mailed itemId old hold).1 hold rfl rfl hok
  rw [World.takeItem]
  dsimp only at hsound hgold hcount ⊢
  split
  · rename_i hcod
    obtain ⟨sender, hsender⟩ := exists_insert hcod.2 _
    refine Step.of_sent (sound_sendMailTo hsound (draft_empty_sound m.COD 0) hsender) ?_ fun entry ↦ ?_
    · dsimp only
      omega
    · exact (add_zero _).trans (hcount entry)
  · rename_i hcod
    have hzero : m.COD.toNat = 0 := Nat.eq_zero_of_not_pos fun hpos ↦ hcod ⟨hpos, hexists hpos⟩
    exact ⟨hsound, by omega, hcount⟩

/-- A mail is taken out of a mailbox, and its attachments are in the hand. -/
theorem removeMail_spec {time : ℕ} (hm : c.deliveredMail id time = some m) (money COD : UInt32) :
    let detached := World.detach m.items c.mMitems
    let w' : World :=
      { w with characters := w.characters.insert p { c.RemoveMail id with mMitems := detached.2 } }
    w'.Sound mgr (guidsIn detached.1) ∧ MailDraft.Sound mgr ⟨detached.1, money, COD⟩ ∧
      w'.gold + m.money.toNat = w.gold ∧
      ∀ entry, w'.itemCount entry + countIn entry detached.1 = w.itemCount entry := by
  intro detached w'
  have hcs := hs.character p c hc
  obtain ⟨rfl, l₁, l₂, hl⟩ := holds_of_deliveredMail hcs.ids hm
  have hall := hcs.attached.trans hl.listed
  have hnodup : (guidsIn c.mMitems).Nodup := by
    have hw := hs.nodup
    rw [add_zero] at hw
    exact (Multiset.nodup_add.mp (Multiset.nodup_of_le (guids_le hc) hw)).2.1
  have hitems : m.items.Nodup := by
    rw [hall] at hnodup
    exact Multiset.coe_nodup.mp (Multiset.nodup_add.mp hnodup).2.1
  have hthere : ∀ guid ∈ m.items, ∃ item : Item, c.mMitems[guid]? = some item := by
    intro guid hguid
    have hmem : guid ∈ guidsIn c.mMitems := by
      rw [hall, Multiset.mem_add]
      exact .inr hguid
    obtain ⟨pos, item, hitem, rfl⟩ := exists_of_mem_guidsIn hmem
    exact ⟨item, (hcs.mailed pos item hitem).1 ▸ hitem⟩
  obtain ⟨hmoved, hdetached⟩ := detach_spec hnodup hitems (fun guid item h ↦ (hcs.mailed guid item h).1)
    hthere
  set c' : Character := { c.RemoveMail m.messageID with mMitems := detached.2 } with hc'
  have hmail : c'.m_mail = l₁ ++ l₂ := hl.removeMail
  have hlisted : guidsIn detached.2 = c'.listed := by
    have hparts := hmoved.guids
    rw [hall, hdetached] at hparts
    rw [Character.listed, hmail]
    exact add_right_cancel hparts
  have hsound : c'.Sound mgr := by
    refine ⟨hcs.fine, hcs.slot, fun guid item h ↦ ?_, hlisted, hmail ▸ hl.ids_remove hcs.ids⟩
    exact hcs.mailed guid item (hmoved.sub guid item h)
  refine ⟨sound_update_eq hs hc hsound (hmail ▸ hl.lt_remove (hs.mailId p c hc)) ?_,
    fun guid item h ↦ ?_, ?_, fun entry ↦ ?_⟩
  · have hparts := hmoved.guids
    rw [Character.guids, Character.guids, ← hparts, add_zero, ← add_assoc]
    rfl
  · obtain ⟨hguid, pos, hitem⟩ := hmoved.keyed guid item h
    exact ⟨hguid, (hcs.mailed pos item hitem).2⟩
  · have hnew : c'.gold = c.purse.money + ((l₁ ++ l₂).map (·.money.toNat)).sum := by
      rw [Character.gold, hmail]
      rfl
    have heq : w'.gold + c.gold = w.gold + c'.gold := gold_insert hc c' w.nextGuid w.mailId
    rw [hnew, hl.gold] at heq
    omega
  · have hnew : c'.itemCount entry = countIn entry c.inventory.items + countIn entry detached.2 := rfl
    have heq : w'.itemCount entry + c.itemCount entry = w.itemCount entry + c'.itemCount entry :=
      itemCount_insert hc c' w.nextGuid w.mailId entry
    have hparts : countIn entry detached.2 + countIn entry detached.1 = countIn entry c.mMitems := hmoved.count entry
    rw [hnew, Character.itemCount] at heq
    omega

/-- A mail goes back to its sender, with everything that is in it. -/
theorem step_return {time delay account : ℕ}
    {connected : Bool} (hm : c.deliveredMail id time = some m) (hsender : m.sender ∈ w.characters) :
    Step mgr w (MailDraft.SendReturnToSender
      { m_items := (World.detach m.items c.mMitems).1, m_money := m.money, m_COD := 0 }
      { w with
        characters := w.characters.insert p
          { c.RemoveMail id with mMitems := (World.detach m.items c.mMitems).2 } }
      account m.receiver m.sender time delay connected) 0 := by
  obtain ⟨hsound, hdraft, hgold, hcount⟩ := removeMail_spec hs hc hm m.money 0
  obtain ⟨d, hd⟩ := exists_insert hsender
    { c.RemoveMail id with mMitems := (World.detach m.items c.mMitems).2 }
  rw [MailDraft.SendReturnToSender]
  rw [hd]
  exact Step.of_sent (sound_sendMailTo hsound hdraft hd) hgold hcount

theorem step_delete {time : ℕ} (hm : c.deliveredMail id time = some m) (hmoney : m.money = 0) (hitems : m.items = []) :
    Step mgr w { w with characters := w.characters.insert p (c.RemoveMail id) } 0 := by
  obtain ⟨hsound, -, hgold, hcount⟩ := removeMail_spec hs hc hm m.money 0
  rw [hitems] at hsound hgold hcount
  rw [hmoney] at hgold
  exact ⟨hsound, hgold, fun entry ↦ (add_zero _).symm.trans (hcount entry)⟩

end

/-- The check of `HandleSendMail` against an overflow is right: postage and money are added without a carry. -/
theorem reqmoney_eq {packet : SendMail} (h : ¬ packet.reqmoney < packet.money) :
    packet.reqmoney.toNat = packet.cost.toNat + packet.money.toNat := by
  have hsum : packet.reqmoney.toNat = (packet.cost.toNat + packet.money.toNat) % 2 ^ 32 := UInt32.toNat_add _ _
  have hge : packet.money.toNat ≤ packet.reqmoney.toNat := Nat.le_of_not_lt h
  have hcost := packet.cost.toNat_lt
  have hmoney := packet.money.toNat_lt
  omega

section

variable (hs : w.Sound mgr 0) (hc : w.characters[p]? = some c) {packet : SendMail} {sameAccount : Bool}
include hs hc

/-- The attachments leave the inventory, and money and postage the purse. -/
theorem attached_spec (purse : Purse) (money COD : UInt32)
    (herror : packet.itemGUIDs.findSome? (packet.attachmentError mgr c.inventory sameAccount) = none) :
    let attached := Inventory.attach mgr packet.itemGUIDs (c.inventory, ∅)
    let w' : World :=
      { w with characters := w.characters.insert p { c with purse, inventory := attached.1 } }
    w'.Sound mgr (guidsIn attached.2) ∧ MailDraft.Sound mgr ⟨attached.2, money, COD⟩ ∧
      w'.gold + c.purse.money = w.gold + purse.money ∧
      ∀ entry, w'.itemCount entry + countIn entry attached.2 = w.itemCount entry := by
  intro attached w'
  have hcs := hs.character p c hc
  have hnodup : (guidsIn c.inventory.items).Nodup := by
    have hw := hs.nodup
    rw [add_zero] at hw
    exact (Multiset.nodup_add.mp (Multiset.nodup_of_le (guids_le hc) hw)).1
  obtain ⟨hmoved, hslots⟩ := Inventory.attach_spec (s := (c.inventory, ∅)) hnodup
    (fun guid (hguid : guid ∈ packet.itemGUIDs) pos item hitem hsame ↦
      not_worn_of_attachmentError hnodup (List.findSome?_eq_none_iff.mp herror guid hguid) hitem hsame)
    (Moved.start c.inventory.items)
  set c' : Character := { c with purse, inventory := attached.1 } with hc'
  have hsound : c'.Sound mgr := by
    refine ⟨fun pos item h ↦ hcs.fine pos item (hmoved.sub pos item h), fun pos item h ↦ ?_, hcs.mailed,
      hcs.attached, hcs.ids⟩
    exact hslots pos (hcs.slot pos item (hmoved.sub pos item h))
  refine ⟨sound_update_eq hs hc hsound (hs.mailId p c hc) ?_, fun guid item h ↦ ?_, ?_, fun entry ↦ ?_⟩
  · have hparts : guidsIn attached.1.items + guidsIn attached.2 = guidsIn c.inventory.items := hmoved.guids
    have hnew : c'.guids = guidsIn attached.1.items + guidsIn c.mMitems := rfl
    rw [hnew, Character.guids, ← hparts]
    abel
  · obtain ⟨hguid, pos, hitem⟩ := hmoved.keyed guid item h
    exact ⟨hguid, hcs.fine pos item hitem⟩
  · have hnew : c'.gold = purse.money + (c.m_mail.map (·.money.toNat)).sum := rfl
    have heq : w'.gold + c.gold = w.gold + c'.gold := gold_insert hc c' w.nextGuid w.mailId
    rw [hnew, Character.gold] at heq
    omega
  · have hnew : c'.itemCount entry = countIn entry attached.1.items + countIn entry c.mMitems := rfl
    have heq : w'.itemCount entry + c.itemCount entry = w.itemCount entry + c'.itemCount entry :=
      itemCount_insert hc c' w.nextGuid w.mailId entry
    have hparts : countIn entry attached.1.items + countIn entry attached.2 =
        countIn entry c.inventory.items := hmoved.count entry
    rw [hnew, Character.itemCount] at heq
    omega

theorem step_sendMail {receiver : ℕ} (hreceiver : receiver ∈ w.characters) (hsum : ¬ packet.reqmoney < packet.money)
    (henough : c.purse.HasEnoughMoney packet.reqmoney = true)
    (herror : packet.itemGUIDs.findSome? (packet.attachmentError mgr c.inventory sameAccount) = none) :
    Step mgr w (w.sendMail mgr p c receiver packet sameAccount) packet.cost.toNat := by
  obtain ⟨hsound, hdraft, hgold, hcount⟩ := attached_spec hs hc
    (c.purse.ModifyMoney (-int32 packet.reqmoney.toNat)).1 packet.money
    (if packet.itemGUIDs = [] then 0 else packet.COD) herror
  obtain ⟨d, hd⟩ := exists_insert hreceiver
    { c with
      purse := (c.purse.ModifyMoney (-int32 packet.reqmoney.toNat)).1
      inventory := (Inventory.attach mgr packet.itemGUIDs (c.inventory, ∅)).1 }
  have hpaid := c.purse.ModifyMoney_neg henough
  have hreq := reqmoney_eq hsum
  rw [World.sendMail]
  refine Step.of_sent (sound_sendMailTo hsound hdraft hd) ?_ hcount
  dsimp only at hgold ⊢
  omega

end

end Gundrak.Mails
