import Gundrak.Mails.Accounts

/-!
# Attaching and taking items

Items get from an inventory into a draft, from the mailbox into a draft, and from the mailbox into an
inventory.

* `Moved`: some of the items of a map are in a draft, under their guids, and the others are still there.
  Moving one more keeps it (`Moved.step`), and both `attach` and `detach` move items one by one.
* **`attach_spec`** also needs that no bag that is worn is moved, since what is in its slots would then
  be nowhere; `attachmentError` refuses such a bag.
* **`storeItem_spec`** is for an item that comes out of a mail and is put where `CanStoreItem` says.
-/

open Std (ExtTreeMap)

namespace Gundrak.Mails

open Players

variable {mgr : ObjectMgr} {items rest draft : ExtTreeMap ℕ Item} {item it : Item} {pos guid : ℕ}
  {player player' : Player}

/-! ## Items on the move -/

/-- Some of the items are in a draft now, and the rest is where it was. -/
structure Moved (items rest draft : ExtTreeMap ℕ Item) : Prop where
  guids : guidsIn rest + guidsIn draft = guidsIn items
  count : ∀ entry, countIn entry rest + countIn entry draft = countIn entry items
  sub : ∀ (pos : ℕ) (item : Item), rest[pos]? = some item → items[pos]? = some item
  keyed : ∀ (guid : ℕ) (item : Item), draft[guid]? = some item → item.guid = guid ∧ ∃ pos : ℕ, items[pos]? = some item

theorem Moved.start (items : ExtTreeMap ℕ Item) : Moved items items ∅ where
  guids := add_zero _
  count := fun _ ↦ rfl
  sub := fun _ _ h ↦ h
  keyed := fun guid item h ↦ by
    simp at h

theorem pos_unique {pos' : ℕ} {item' : Item} (hnodup : (guidsIn items).Nodup)
    (h : items[pos]? = some item) (h' : items[pos']? = some item') (hguid : item.guid = item'.guid) :
    pos = pos' := by
  by_contra hne
  have herased : (items.erase pos)[pos']? = some item' := by rw [TreeMap.get_erase, if_neg hne, h']
  rw [← guidsIn_erase h, add_comm, Multiset.singleton_add, Multiset.nodup_cons] at hnodup
  exact hnodup.1 (hguid ▸ mem_guidsIn herased)

/-- **One more item** gets into the draft. -/
theorem Moved.step (hm : Moved items rest draft) (hnodup : (guidsIn items).Nodup) (h : rest[pos]? = some item) :
    Moved items (rest.erase pos) (draft.insert item.guid item) ∧
      guidsIn (draft.insert item.guid item) = guidsIn draft + {item.guid} := by
  have hfree : draft[item.guid]? = none := by
    refine Option.eq_none_iff_forall_ne_some.mpr fun other hother ↦ ?_
    rw [← hm.guids] at hnodup
    have hdisjoint := (Multiset.nodup_add.mp hnodup).2.2
    exact Multiset.disjoint_left.mp hdisjoint (mem_guidsIn h)
      ((hm.keyed _ other hother).1 ▸ mem_guidsIn hother)
  refine ⟨⟨?_, fun entry ↦ ?_, fun pos' item' h' ↦ ?_, fun guid item' h' ↦ ?_⟩, guidsIn_insert hfree⟩
  · rw [guidsIn_insert hfree, ← hm.guids, ← guidsIn_erase h, add_assoc, add_comm (guidsIn draft), ← add_assoc]
  · have hrest := countIn_erase h entry
    have hcount := hm.count entry
    rw [countIn_insert hfree]
    omega
  · rw [TreeMap.get_erase] at h'
    split at h'
    · cases h'
    · exact hm.sub pos' item' h'
  · rw [TreeMap.get_insert] at h'
    split at h'
    · rename_i hguid
      obtain rfl := Option.some.inj h'
      exact ⟨hguid, pos, hm.sub pos item h⟩
    · exact hm.keyed guid item' h'

/-! ## Out of the inventory -/

namespace Inventory

theorem getItemByGuid_eq_some {bag slot : ℕ} (h : GetItemByGuid mgr player guid = some (bag, slot, item)) :
    player.GetItemByPos mgr bag slot = some item ∧ item.guid = guid := by
  obtain ⟨x, -, hx⟩ := List.exists_of_findSome?_eq_some h
  obtain ⟨found, hfound, heq⟩ := Option.map_eq_some_iff.mp hx
  obtain ⟨hget, hguid⟩ := Option.filter_eq_some_iff.mp hfound
  obtain ⟨rfl, rfl, rfl⟩ : x.1 = bag ∧ x.2 = slot ∧ found = item := by
    simpa only [Prod.mk.injEq] using heq
  exact ⟨hget, of_decide_eq_true hguid⟩

/-- **Removing an item** that is no bag that is worn. -/
theorem removeItem_spec {bag slot : ℕ} (h : player.GetItemByPos mgr bag slot = some item)
    (hworn : ¬ (item.IsBag mgr = true ∧ IsBagPos bag slot = true)) :
    player.items[makePos bag slot]? = some item ∧
      (player.RemoveItem mgr bag slot).items = player.items.erase (makePos bag slot) ∧
      ∀ pos, player.HasSlot mgr (pos / 256) (pos % 256) →
        (player.RemoveItem mgr bag slot).HasSlot mgr (pos / 256) (pos % 256) := by
  have hslot := Player.hasSlot_of_GetItemByPos h
  have hitem := (Player.GetItemByPos_of_hasSlot hslot).symm.trans h
  have htakes : Guilds.MoveItemData.Takes mgr ⟨false, bag, slot⟩ ⟨∅, 0, player, 0⟩ item := by
    refine ⟨hitem, hslot.lt, ?_, fun _ ↦ hworn⟩
    change player.HasSlot mgr (makePos bag slot / 256) (makePos bag slot % 256)
    rw [Player.makePos_div hslot.lt, Player.makePos_mod hslot.lt]
    exact hslot
  have hremoved := htakes.removed item
  exact ⟨hitem, hremoved.items_eq, fun pos ↦ hremoved.keepsSlots false pos⟩

/-- **The attachments** of a mail leave the inventory, and every other item keeps its slot. -/
theorem attach_spec {guids : List ℕ} {s : Player × ExtTreeMap ℕ Item} {items : ExtTreeMap ℕ Item}
    (hnodup : (guidsIn items).Nodup)
    (hworn : ∀ guid ∈ guids, ∀ (pos : ℕ) (item : Item), items[pos]? = some item → item.guid = guid →
      ¬ (item.IsBag mgr = true ∧ IsBagPos (pos / 256) (pos % 256) = true))
    (hm : Moved items s.1.items s.2) :
    Moved items (attach mgr guids s).1.items (attach mgr guids s).2 ∧ ∀ pos, s.1.HasSlot mgr (pos / 256) (pos % 256) →
        (attach mgr guids s).1.HasSlot mgr (pos / 256) (pos % 256) := by
  induction guids generalizing s with
  | nil => exact ⟨hm, fun _ h ↦ h⟩
  | cons guid guids ih =>
    have hworn' := fun guid' hguid' ↦ hworn guid' (List.mem_cons_of_mem _ hguid')
    rw [attach]
    cases hfind : GetItemByGuid mgr s.1 guid with
    | none => exact ih hworn' hm
    | some found =>
      obtain ⟨bag, slot, item⟩ := found
      obtain ⟨hget, hguid⟩ := getItemByGuid_eq_some hfind
      have hlt := (Player.hasSlot_of_GetItemByPos hget).lt
      have hitem := (Player.GetItemByPos_of_hasSlot (Player.hasSlot_of_GetItemByPos hget)).symm.trans hget
      have hnot := hworn guid List.mem_cons_self _ item (hm.sub _ item hitem) hguid
      rw [Player.makePos_div hlt, Player.makePos_mod hlt] at hnot
      obtain ⟨-, heq, hslots⟩ := removeItem_spec hget hnot
      have hstep := (hm.step hnodup hitem).1
      obtain ⟨hmoved, hkept⟩ := ih (s := (s.1.RemoveItem mgr bag slot, s.2.insert item.guid item)) hworn'
        (heq ▸ hstep)
      exact ⟨hmoved, fun pos hpos ↦ hkept pos (hslots pos hpos)⟩

end Inventory

theorem not_worn_of_attachmentError {packet : SendMail} {sameAccount : Bool} (hnodup : (guidsIn player.items).Nodup)
    (h : packet.attachmentError mgr player sameAccount guid = none) (hitem : player.items[pos]? = some item)
    (hguid : item.guid = guid) :
    ¬ (item.IsBag mgr = true ∧ IsBagPos (pos / 256) (pos % 256) = true) := by
  rw [SendMail.attachmentError] at h
  split at h
  · cases h
  cases hfind : Inventory.GetItemByGuid mgr player guid with
  | none =>
    simp [hfind] at h
  | some found =>
    obtain ⟨bag, slot, item'⟩ := found
    obtain ⟨hget, hguid'⟩ := Inventory.getItemByGuid_eq_some hfind
    have hslot := Player.hasSlot_of_GetItemByPos hget
    have hitem' := (Player.GetItemByPos_of_hasSlot hslot).symm.trans hget
    obtain rfl := pos_unique hnodup hitem hitem' (hguid.trans hguid'.symm)
    obtain rfl : item = item' := Option.some.inj (hitem.symm.trans hitem')
    rw [Player.makePos_div hslot.lt, Player.makePos_mod hslot.lt]
    intro hbag
    rw [hfind] at h
    dsimp only at h
    rw [if_pos (.inr (.inl ⟨hbag.1, .inl hbag.2⟩))] at h
    cases h

/-! ## Out of the mailbox -/

/-- The loop over the attachments, from where none of them has been moved. -/
theorem detach_loop {guids : List ℕ} {s : ExtTreeMap ℕ Item × ExtTreeMap ℕ Item}
    (hnodup : (guidsIn items).Nodup) (hguids : guids.Nodup)
    (hkeyed : ∀ (guid : ℕ) (item : Item), items[guid]? = some item → item.guid = guid)
    (hthere : ∀ guid ∈ guids, ∃ item : Item, s.2[guid]? = some item) (hm : Moved items s.2 s.1) :
    Moved items (guids.foldl World.detachOne s).2 (guids.foldl World.detachOne s).1 ∧
      guidsIn (guids.foldl World.detachOne s).1 = guidsIn s.1 + (guids : List ℕ) := by
  induction guids generalizing s with
  | nil => exact ⟨hm, (add_zero _).symm⟩
  | cons guid guids ih =>
    obtain ⟨hnot, hguids⟩ := List.nodup_cons.mp hguids
    obtain ⟨item, hitem⟩ := hthere guid List.mem_cons_self
    have hguid : item.guid = guid := hkeyed guid item (hm.sub guid item hitem)
    obtain ⟨hstep, hids⟩ := hm.step hnodup hitem
    have hone : World.detachOne s guid = (s.1.insert item.guid item, s.2.erase guid) := by
      simp [World.detachOne, hitem]
    have hrest : ∀ guid' ∈ guids, ∃ item' : Item, (World.detachOne s guid).2[guid']? = some item' := by
      intro guid' hguid'
      have hne : guid ≠ guid' := by
        rintro rfl
        exact hnot hguid'
      rw [hone, TreeMap.get_erase, if_neg hne]
      exact hthere guid' (List.mem_cons_of_mem _ hguid')
    rw [hone] at hrest
    obtain ⟨hmoved, heq⟩ := ih hguids hrest hstep
    rw [List.foldl_cons, hone]
    refine ⟨hmoved, ?_⟩
    rw [heq, hids, hguid, add_assoc, Multiset.singleton_add, Multiset.cons_coe]

/-- **The attachments** of a mail that goes back leave the mailbox. -/
theorem detach_spec {guids : List ℕ} (hnodup : (guidsIn items).Nodup) (hguids : guids.Nodup)
    (hkeyed : ∀ (guid : ℕ) (item : Item), items[guid]? = some item → item.guid = guid)
    (hthere : ∀ guid ∈ guids, ∃ item : Item, items[guid]? = some item) :
    Moved items (World.detach guids items).2 (World.detach guids items).1 ∧
      guidsIn (World.detach guids items).1 = (guids : List ℕ) := by
  obtain ⟨hmoved, heq⟩ := detach_loop (s := (∅, items)) hnodup hguids hkeyed hthere (Moved.start items)
  exact ⟨hmoved, heq.trans (zero_add _)⟩

/-! ## Into the inventory -/

/-- What storing an item does to an inventory, and to the guids of it and of everything else. -/
structure StoredIn (mgr : ObjectMgr) (player player' : Player) (n : ℕ) (it : Item) (hand : Multiset ℕ) :
    Prop where
  nodup : (guidsIn player'.items + hand).Nodup
  fresh : ∀ guid ∈ guidsIn player'.items + hand, guid < n
  count : ∀ entry, countIn entry player'.items = countIn entry player.items + if it.entry = entry then it.count else 0
  fine : ∀ (pos : ℕ) (item : Item), player'.items[pos]? = some item → Item.IsFine mgr item
  slot : ∀ (pos : ℕ) (item : Item), player'.items[pos]? = some item → player'.HasSlot mgr (pos / 256) (pos % 256)

/-- **An item is stored** where `CanStoreItem` says. -/
theorem storeItem_spec {n : ℕ} {hand : Multiset ℕ}
    (hfine : ∀ (pos : ℕ) (item : Item), player.items[pos]? = some item → Item.IsFine mgr item)
    (hslot : ∀ (pos : ℕ) (item : Item), player.items[pos]? = some item → player.HasSlot mgr (pos / 256) (pos % 256))
    (hit : Item.IsFine mgr it) (hnodup : (guidsIn player.items + it.guid ::ₘ hand).Nodup)
    (hfresh : ∀ guid ∈ guidsIn player.items + it.guid ::ₘ hand, guid < n)
    (hok : (player.CanStoreItem mgr NULL_BAG NULL_SLOT it.entry it.count (some it) false none).result = .OK) :
    StoredIn mgr player (player.StoreItem mgr it n (player.CanStoreItem mgr NULL_BAG NULL_SLOT it.entry
        it.count (some it) false none).dest).1
      (player.StoreItem mgr it n (player.CanStoreItem mgr NULL_BAG NULL_SLOT it.entry
        it.count (some it) false none).dest).2 it hand := by
  obtain ⟨proto, hproto, hcount⟩ := hit
  -- the guild bank's account of storing, for a bank without tabs
  let data : Guilds.MoveItemData := ⟨false, NULL_BAG, NULL_SLOT⟩
  let s : Guilds.Holdings := ⟨∅, 0, player, n⟩
  have hguids (player : Player) (n : ℕ) :
      (⟨∅, 0, player, n⟩ : Guilds.Holdings).guids = guidsIn player.items := zero_add _
  have hitemCount (player : Player) (n entry : ℕ) :
      (⟨∅, 0, player, n⟩ : Guilds.Holdings).itemCount entry = countIn entry player.items := zero_add _
  have hs : s.Consistent mgr (it.guid ::ₘ hand) := by
    refine ⟨hguids player n ▸ hnodup, hguids player n ▸ hfresh, fun b pos item hitem ↦ ?_, fun b pos item hitem ↦ ?_⟩
    · cases b with
      | true => exact absurd hitem (by simp [s, Guilds.Holdings.items])
      | false =>
        obtain ⟨proto, hproto, -⟩ := hfine pos item hitem
        exact ⟨proto, hproto⟩
    · cases b with
      | true => exact absurd hitem (by simp [s, Guilds.Holdings.items])
      | false => exact hslot pos item hitem
  have hfits : s.StacksFit mgr := by
    intro b pos item proto' hitem hproto'
    cases b with
    | true => exact absurd hitem (by simp [s, Guilds.Holdings.items])
    | false =>
      obtain ⟨proto, hproto, hle⟩ := hfine pos item hitem
      rw [hproto] at hproto'
      exact Option.some.inj hproto' ▸ hle
  have hstorable : Guilds.MoveItemData.Storable mgr data proto it := ⟨hproto, (absurd · Bool.false_ne_true), hcount⟩
  obtain ⟨-, hfinds⟩ := Guilds.MoveItemData.canStore_spec (s := s) hstorable hok
  have hplan : Guilds.Holdings.Plan mgr s false proto it data.key
      (player.CanStoreItem mgr NULL_BAG NULL_SLOT it.entry it.count (some it) false none).dest := by
    refine ⟨hfinds.distinct, fun x hx ↦ Guilds.MoveItemData.hasRoom_of_fitsAt (hfinds.space x hx)
      (hfinds.slot x hx) ?_⟩
    cases hitem : (s.items false)[data.key x.1]? with
    | none => exact .inl rfl
    | some old =>
      refine .inr ⟨old, old, rfl, rfl, rfl, le_rfl, fun heq ↦ ?_⟩
      have hmem : old.guid ∈ guidsIn player.items := mem_guidsIn hitem
      rw [heq] at hmem
      rw [Multiset.add_cons, Multiset.nodup_cons] at hnodup
      exact hnodup.1 (Multiset.mem_add.mpr (.inl hmem))
  have hput : ∀ (s : Guilds.Holdings) (x : ℕ × ℕ) (clone : Bool),
      Guilds.Holdings.HasRoom mgr s data.IsBank proto it (data.key x.1) x.2 →
      Guilds.Holdings.Puts s (data.storeAt mgr it s x clone) data.IsBank it (data.key x.1) x.2 clone :=
    fun s x clone hroom ↦ Guilds.MoveItemData.puts_storeAt hproto clone hroom
  have hloop (dest : List (ℕ × ℕ)) :
      data.StoreItem mgr s it dest = storeLoop (data.storeAt mgr it) dest s :=
    Guilds.MoveItemData.StoreItem_eq (fun hbank ↦ absurd hbank Bool.false_ne_true) dest
  have hstored := Guilds.Holdings.storeLoop_spec hproto hput hs hfits hplan
  rw [← hloop] at hstored
  obtain ⟨⟨hnodup', hfresh', htemplate, hslot'⟩, hfits', hcount', -, -⟩ := hstored
  have hafter := hguids (player.StoreItem mgr it n (player.CanStoreItem mgr NULL_BAG NULL_SLOT it.entry
    it.count (some it) false none).dest).1 (player.StoreItem mgr it n (player.CanStoreItem mgr NULL_BAG
    NULL_SLOT it.entry it.count (some it) false none).dest).2
  refine ⟨hafter ▸ hnodup', hafter ▸ hfresh', fun entry ↦ ?_, fun pos item hitem ↦ ?_,
    fun pos item hitem ↦ hslot' false pos item hitem⟩
  · have hc := hcount' entry
    have htotal : ((player.CanStoreItem mgr NULL_BAG NULL_SLOT it.entry it.count (some it) false
      none).dest.map Prod.snd).sum = it.count := hfinds.total
    rw [htotal] at hc
    exact (hitemCount _ _ entry).symm.trans (hc.trans (by rw [hitemCount]))
  · obtain ⟨proto', hproto'⟩ := htemplate false pos item hitem
    exact ⟨proto', hproto', hfits' false pos item proto' hitem hproto'⟩

end Gundrak.Mails
