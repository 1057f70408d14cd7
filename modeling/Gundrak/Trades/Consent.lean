import Gundrak.Trades.TradeData

/-!
# Consent to a trade

`TradesAsOffered` says that what a player gave in a trade is what he offered when the other one accepted for the
last time.  The setters of the trade window and `Item::SetCount` take care of this: they reset both flags.
Nothing does when an item leaves the inventory, or comes back: `TradeData::GetItem` looks it up, finds nothing
and the other player gets nothing for what he has accepted.  An item is also kept back when there is no room
for it, or for the one in the same slot of the other side, while the rest of the trade goes on.

**`tradesAsOffered_of_reaches`** is about the runs in which no item leaves or comes back while the trader has
accepted it, and in which `moveItems` has room for all of them (`KeepsOffers`).
-/

open Std (ExtTreeMap)

namespace Gundrak.Trading

/-! ## What is claimed -/

/-- All trades were made as the players had accepted them. -/
def TradesAsOffered (s : Traders) : Prop := ∀ e ∈ s.exchanges, ∀ p, e.given p = e.offered p

/-- The item is in one of the six slots of a player whose trader has accepted. -/
def Traders.watched (s : Traders) (p : Bool) (guid : ℕ) : Bool := s.trade.any fun t ↦ (t !p).accepted &&
    (List.finRange TRADE_SLOT_TRADED_COUNT).any fun slot ↦ (t p).items slot.castSucc = guid

/-- The item itself ends at a position, and not in a stack that was there before. -/
def Dest.keepsItem : Dest → Bool
  | .store dest => dest.getLast?.any fun pos ↦ pos.stack.isNone
  | .equip stack => stack.isNone

/-- The calls that neither take an item away that the trader has accepted, nor bring one back, and the trades
with room for everything. -/
def KeepsOffers (maxStack : ℕ → ℕ) (s : Traders) : TradeCall → Prop
  | .SwapItem p src dst view => ∀ srcItem ∈ (s.items p)[src]?, view.allowed →
    match dst with
    | none => ∀ dest ∈ view.move, s.watched p src → dest.keepsItem
    | some dst => ∀ dstItem ∈ (s.items p)[dst]?,
      match view.merge with
      | some dest => srcItem.count + dstItem.count ≤ maxStack srcItem.entry → s.watched p src → dest.keepsItem
      | none => ∀ toDst ∈ view.toDst, ∀ toSrc ∈ view.toSrc,
        (s.watched p src → toDst.keepsItem) ∧ (s.watched p dst → toSrc.keepsItem)
  | .DestroyItemCount p guid count => ∀ item ∈ (s.items p)[guid]?, item.count ≤ count → ¬ s.watched p guid
  | .HandleSellItem p guid count price => ∀ item ∈ (s.items p)[guid]?,
    ¬ (count > item.count ∨ price = 0) → ¬ (count ≠ 0 ∧ count < item.count) → ¬ s.watched p guid
  | .MoveItemFromInventory p guid _ => guid ∈ s.items p → ¬ s.watched p guid
  | .MoveItemToInventory p guid dest => ∀ x ∈ s.outside[guid]?,
    (Dest.store dest).keepsItem → s.watched p guid → x.2 = some p
  | .HandleAcceptTrade p view => ∀ t ∈ s.trade, s.refusal p (t.SetAccepted p true) view = none →
    ∀ slot, Traders.canTrade p (fun q ↦ s.tradedItems q t) view slot
  | _ => True

/-! ## Trade windows -/

/-- What the other player has accepted, if he still has, is as it was. -/
def Quiet (t t' : Trade) : Prop := ∀ p, (t' !p).accepted = true →
  (t !p).accepted = true ∧ (t' p).money = (t p).money ∧ (t' p).items = (t p).items

theorem Quiet.refl (t : Trade) : Quiet t t := fun _ h ↦ ⟨h, rfl, rfl⟩

theorem Quiet.trans {t t' t'' : Trade} (h : Quiet t t') (h' : Quiet t' t'') : Quiet t t'' := by
  intro p hp
  obtain ⟨haccepted', hmoney', hitems'⟩ := h' p hp
  obtain ⟨haccepted, hmoney, hitems⟩ := h p haccepted'
  exact ⟨haccepted, hmoney'.trans hmoney, hitems'.trans hitems⟩

namespace Trade

variable (t t₀ : Trade) (p q : Bool)

theorem setAccepted_accepted (state : Bool) :
    ((t.SetAccepted p state) q).accepted = if q = p then state else (t q).accepted := by
  rw [SetAccepted]
  by_cases h : q = p
  · subst h
    simp
  · simp [h]

theorem setAccepted_money (state : Bool) : ((t.SetAccepted p state) q).money = (t q).money := by
  rw [SetAccepted]
  by_cases h : q = p
  · subst h
    simp
  · simp [h]

theorem setAccepted_items (state : Bool) : ((t.SetAccepted p state) q).items = (t q).items := by
  rw [SetAccepted]
  by_cases h : q = p
  · subst h
    simp
  · simp [h]

theorem resetAccepted_accepted : ((t.resetAccepted p) q).accepted = false := by
  rw [resetAccepted, setAccepted_accepted, setAccepted_accepted]
  cases p <;> cases q <;> rfl

/-- After both flags have been reset nothing is accepted any more. -/
theorem quiet_resetAccepted : Quiet t₀ (t.resetAccepted p) := by
  intro q hq
  rw [resetAccepted_accepted] at hq
  cases hq

theorem quiet_setAccepted_false : Quiet t (t.SetAccepted p false) := by
  intro q hq
  rw [setAccepted_accepted] at hq
  rw [setAccepted_money, setAccepted_items]
  split_ifs at hq
  exact ⟨hq, rfl, rfl⟩

theorem quiet_setSpell (spell castItem : ℕ) : Quiet t (t.SetSpell p spell castItem) := by
  rw [SetSpell]
  split_ifs
  · exact Quiet.refl t
  · exact quiet_resetAccepted _ t p

theorem quiet_setMoney (money : UInt32) (purse : Purse) : Quiet t (t.SetMoney p money purse) := by
  rw [SetMoney]
  split_ifs
  · exact Quiet.refl t
  · exact Quiet.refl t
  · exact quiet_resetAccepted _ t p

theorem quiet_setItem (slot : Fin TRADE_SLOT_COUNT) (guid : ℕ) (update : Bool) :
    Quiet t (t.SetItem p slot guid update) := by
  dsimp only [SetItem]
  split_ifs
  · exact Quiet.refl t
  · exact ((quiet_resetAccepted _ t p).trans (quiet_setSpell _ _ _ _)).trans (quiet_setSpell _ _ _ _)
  · exact (quiet_resetAccepted _ t p).trans (quiet_setSpell _ _ _ _)

theorem setItem_accepted (slot : Fin TRADE_SLOT_COUNT) (guid : ℕ) :
    ((t.SetItem p slot guid true) !q).accepted = false := by
  have hspell (t : Trade) (p spell castItem) (h : ∀ q, (t q).accepted = false) (q : Bool) :
      ((t.SetSpell p spell castItem) q).accepted = false := by
    rw [SetSpell]
    split_ifs
    · exact h q
    · exact resetAccepted_accepted _ p q
  dsimp only [SetItem]
  rw [if_neg (by simp)]
  refine hspell _ _ _ _ (fun q ↦ ?_) _
  split_ifs
  · exact hspell _ _ _ _ (fun q ↦ resetAccepted_accepted _ p q) q
  · exact resetAccepted_accepted _ p q

end Trade

/-! ## What keeps the offers -/

variable {maxStack : ℕ → ℕ} {s s' s'' : Traders} {p : Bool} {out : Bool → ℕ → Prop}

theorem watched_eq_true_iff {guid : ℕ} : s.watched p guid = true ↔ ∃ t, s.trade = some t ∧ (t !p).accepted = true ∧
      ∃ slot : Fin TRADE_SLOT_TRADED_COUNT, (t p).items slot.castSucc = guid := by
  rw [Traders.watched, Option.any_eq_true]
  simp

/-- Nothing has happened to what the players have accepted, except for the items in `out`. -/
structure Tame (out : Bool → ℕ → Prop) (s s' : Traders) : Prop where
  exchanges : s'.exchanges = s.exchanges
  consents : s'.consents = s.consents
  trade : ∀ t', s'.trade = some t' → ∃ t, s.trade = some t ∧ Quiet t t'
  items : ∀ (p : Bool) (guid : ℕ), s'.watched p guid = true → ¬ out p guid → (s'.items p)[guid]? = (s.items p)[guid]?

/-- Nothing has happened to what the players have accepted. -/
abbrev Tame' (s s' : Traders) : Prop := Tame (fun _ _ ↦ False) s s'

namespace Tame

theorem refl (s : Traders) : Tame out s s := ⟨rfl, rfl, fun t ht ↦ ⟨t, ht, Quiet.refl t⟩, fun _ _ _ _ ↦ rfl⟩

theorem watched (h : Tame out s s') {guid : ℕ} (hw : s'.watched p guid = true) : s.watched p guid = true := by
  obtain ⟨t', ht', haccepted', slot, hslot⟩ := watched_eq_true_iff.mp hw
  obtain ⟨t, ht, hquiet⟩ := h.trade t' ht'
  obtain ⟨haccepted, -, hitems⟩ := hquiet p haccepted'
  exact watched_eq_true_iff.mpr ⟨t, ht, haccepted, slot, hitems ▸ hslot⟩

theorem trans (h : Tame out s s') (h' : Tame out s' s'') : Tame out s s'' := by
  refine ⟨h'.exchanges.trans h.exchanges, h'.consents.trans h.consents, fun t'' ht'' ↦ ?_, fun p guid hw hout ↦ ?_⟩
  · obtain ⟨t', ht', hquiet'⟩ := h'.trade t'' ht''
    obtain ⟨t, ht, hquiet⟩ := h.trade t' ht'
    exact ⟨t, ht, hquiet.trans hquiet'⟩
  · exact (h'.items p guid hw hout).trans (h.items p guid (h'.watched hw) hout)

theorem mono {out' : Bool → ℕ → Prop} (h : Tame out s s')
    (hout : ∀ p guid, out p guid → out' p guid) : Tame out' s s' :=
  ⟨h.exchanges, h.consents, h.trade, fun p guid hw hnot ↦ h.items p guid hw fun hin ↦ hnot (hout p guid hin)⟩

/-- An item that is back where it was, or that nobody has accepted any more, is no exception. -/
theorem back (h : Tame out s s') (hback : ∀ p guid, out p guid → s'.watched p guid = true →
    (s'.items p)[guid]? = (s.items p)[guid]?) : Tame' s s' := by
  refine ⟨h.exchanges, h.consents, h.trade, fun p guid hw _ ↦ ?_⟩
  by_cases hout : out p guid
  · exact hback p guid hout hw
  · exact h.items p guid hw hout

end Tame

/-- Just this item of this player. -/
def only (p : Bool) (guid : ℕ) (q : Bool) (guid' : ℕ) : Prop := q = p ∧ guid' = guid

theorem Tame.back_only {guid : ℕ} (h : Tame (only p guid) s s')
    (hback : s'.watched p guid = true → (s'.items p)[guid]? = (s.items p)[guid]?) : Tame' s s' := by
  refine h.back ?_
  rintro q guid' ⟨rfl, rfl⟩
  exact hback

theorem Tame.but (h : Tame' s s') : Tame out s s' := h.mono fun _ _ ↦ False.elim

theorem tame_setItems {items : ExtTreeMap ℕ Item} (h : ∀ guid, ¬ out p guid → items[guid]? = (s.items p)[guid]?) :
    Tame out s (s.setItems p items) := by
  refine ⟨rfl, rfl, fun t ht ↦ ⟨t, ht, Quiet.refl t⟩, fun q guid _ hout ↦ ?_⟩
  dsimp only [Traders.setItems]
  by_cases hq : q = p
  · subst hq
    rw [Function.update_self]
    exact h guid hout
  · rw [Function.update_of_ne hq]

theorem tame_putItem (guid : ℕ) (item : Item) : Tame (only p guid) s (s.putItem p guid item) := by
  refine tame_setItems fun guid' hout ↦ ?_
  rw [TreeMap.get_insert, if_neg fun h ↦ hout ⟨rfl, h.symm⟩]

theorem tame_removeItem (guid : ℕ) : Tame (only p guid) s (s.RemoveItem p guid) := by
  refine tame_setItems fun guid' hout ↦ ?_
  rw [TreeMap.get_erase, if_neg fun h ↦ hout ⟨rfl, h.symm⟩]

theorem tame_mapTrade {f : Trade → Trade} (hf : ∀ t, Quiet t (f t)) : Tame' s { s with trade := s.trade.map f } := by
  refine ⟨rfl, rfl, fun t' ht' ↦ ?_, fun _ _ _ _ ↦ rfl⟩
  obtain ⟨t, ht, rfl⟩ := Option.map_eq_some_iff.mp ht'
  exact ⟨t, ht, hf t⟩

theorem tame_of_eq (hexchanges : s'.exchanges = s.exchanges) (hconsents : s'.consents = s.consents)
    (htrade : s'.trade = s.trade) (hitems : s'.items = s.items) : Tame' s s' := by
  refine ⟨hexchanges, hconsents, fun t ht ↦ ⟨t, htrade ▸ ht, Quiet.refl t⟩, fun p guid _ _ ↦ ?_⟩
  rw [hitems]

/-! ## Counts and stacks -/

theorem tame_updateTrade (owner : Option Bool) (guid : ℕ) : Tame' s (s.updateTrade owner guid) := by
  cases owner with
  | none => exact Tame.refl s
  | some q =>
    refine tame_mapTrade fun t ↦ ?_
    cases t.GetTradeSlotForItem q guid with
    | none => exact Quiet.refl t
    | some slot => exact t.quiet_setItem q slot guid true

theorem watched_updateTrade (guid : ℕ) : (s.updateTrade (some p) guid).watched p guid = false := by
  rw [Bool.eq_false_iff]
  intro hw
  obtain ⟨t', ht', haccepted, slot, hslot⟩ := watched_eq_true_iff.mp hw
  obtain ⟨t, ht, heq⟩ := Option.map_eq_some_iff.mp ht'
  cases hfind : t.GetTradeSlotForItem p guid with
  | none =>
    rw [hfind] at heq
    subst heq
    have hnot := List.find?_eq_none.mp hfind slot.castSucc (List.mem_finRange _)
    exact hnot (decide_eq_true hslot)
  | some found =>
    rw [hfind] at heq
    subst heq
    simp [Trade.setItem_accepted] at haccepted

theorem tame_setCount (guid count : ℕ) : Tame' s (s.SetCount p guid count) := by
  have hset : Tame (only p guid) s (s.setItems p
      ((s.items p).modify guid fun item ↦ { item with count := count })) := by
    refine tame_setItems fun guid' hout ↦ ?_
    rw [TreeMap.get_modify, if_neg fun h ↦ hout ⟨rfl, h.symm⟩]
  refine (hset.trans (tame_updateTrade (some p) guid).but).back_only fun hw ↦ ?_
  exact absurd hw (Bool.eq_false_iff.mp (watched_updateTrade guid))

theorem tame_addCount (stack count : ℕ) : Tame' s (s.addCount p stack count) := by
  rw [Traders.addCount]
  cases (s.items p)[stack]? with
  | none => exact Tame.refl s
  | some item2 => exact tame_setCount stack _

theorem createItem_spec {entry count guid : ℕ} {item : Item}
    (h : s.CreateItem maxStack p entry count = (some (guid, item), s')) :
    Tame' s s' ∧ s'.watched p guid = false := by
  rw [Traders.CreateItem] at h
  split_ifs at h
  · cases h
  · cases h
    have hnext : Tame' s { s with nextGuid := s.nextGuid + 1 } := tame_of_eq rfl rfl rfl rfl
    exact ⟨hnext.trans (tame_updateTrade (some p) s.nextGuid), watched_updateTrade s.nextGuid⟩

theorem createItem_none {entry count : ℕ} (h : s.CreateItem maxStack p entry count = (none, s')) : s' = s := by
  rw [Traders.CreateItem] at h
  split_ifs at h
  · cases h
    rfl
  · cases h

theorem tame_putNew {guid : ℕ} (h : Tame' s s') (hw : s'.watched p guid = false) (item : Item) :
    Tame' s (s'.putItem p guid item) := by
  have hput := tame_putItem (s := s') (p := p) guid item
  refine h.trans (hput.back_only fun hw' ↦ ?_)
  rw [hput.watched hw'] at hw
  cases hw

variable (maxStack) in
theorem tame_storeClone (pos : ItemPosCount) (guid : ℕ) (item : Item) (owner : Option Bool) :
    Tame' s (s.storeItemAt maxStack p pos guid item owner true) := by
  rw [Traders.storeItemAt]
  cases pos.stack with
  | some stack => exact tame_addCount stack pos.count
  | none =>
    simp only [↓reduceIte]
    rcases hcreate : s.CreateItem maxStack p item.entry pos.count with ⟨_ | ⟨newGuid, newItem⟩, s'⟩
    · obtain rfl := createItem_none hcreate
      exact Tame.refl _
    · obtain ⟨htame, hw⟩ := createItem_spec hcreate
      exact tame_putNew htame hw newItem

variable (maxStack) in
/-- An item that is stored in an empty place is announced to the trade of its owner. -/
theorem storeLast_spec (pos : ItemPosCount) (guid : ℕ) (item : Item) (owner : Option Bool) :
    Tame (only p guid) s (s.storeItemAt maxStack p pos guid item owner false) ∧
      (pos.stack.isSome = true → Tame' s (s.storeItemAt maxStack p pos guid item owner false)) ∧
      (pos.stack = none → owner = some p →
        (s.storeItemAt maxStack p pos guid item owner false).watched p guid = false) := by
  rw [Traders.storeItemAt]
  cases pos.stack with
  | some stack =>
    have htame := tame_addCount (s := s) (p := p) stack pos.count
    exact ⟨htame.but, fun _ ↦ htame, fun h ↦ by cases h⟩
  | none =>
    have hput := tame_putItem (s := s.updateTrade owner guid) (p := p) guid
      { item with count := pos.count }
    refine ⟨(tame_updateTrade owner guid).but.trans hput, ?_, ?_⟩
    · intro h
      cases h
    · rintro - rfl
      rw [Bool.eq_false_iff]
      intro hw
      exact absurd (hput.watched hw) (Bool.eq_false_iff.mp (watched_updateTrade guid))

variable (maxStack) in
theorem storeItem_spec (dest : List ItemPosCount) (guid : ℕ) (item : Item) (owner : Option Bool) :
    Tame (only p guid) s (s.StoreItem maxStack p guid item owner dest) ∧
      ((Dest.store dest).keepsItem = false → Tame' s (s.StoreItem maxStack p guid item owner dest)) ∧
      ((Dest.store dest).keepsItem = true → owner = some p →
        (s.StoreItem maxStack p guid item owner dest).watched p guid = false) := by
  induction dest generalizing s with
  | nil => exact ⟨Tame.refl s, fun _ ↦ Tame.refl s, fun h ↦ by cases h⟩
  | cons pos dest ih =>
    cases dest with
    | nil =>
      obtain ⟨htame, hmerged, hplaced⟩ := storeLast_spec maxStack (s := s) (p := p)
        pos guid item owner
      have hkeeps : (Dest.store [pos]).keepsItem = pos.stack.isNone := rfl
      rw [Traders.StoreItem, hkeeps]
      refine ⟨htame, fun h ↦ hmerged ?_, fun h ↦ hplaced (Option.isNone_iff_eq_none.mp h)⟩
      simpa using h
    | cons next dest =>
      have hclone := tame_storeClone maxStack (s := s) (p := p) pos guid item owner
      have hkeeps : (Dest.store (pos :: next :: dest)).keepsItem = (Dest.store (next :: dest)).keepsItem := by
        simp [Dest.keepsItem]
      obtain ⟨htame, hmerged, hplaced⟩ := ih (s := s.storeItemAt maxStack p pos guid item owner true)
      rw [Traders.StoreItem, hkeeps]
      exact ⟨hclone.but.trans htame, fun h ↦ hclone.trans (hmerged h), hplaced⟩

variable (maxStack) in
/-- An item that has been taken up is put down again, or merged with another one. -/
theorem place_spec (dest : Dest) (guid : ℕ) (item : Item) : Tame (only p guid) s (s.place maxStack p guid item dest) ∧
      (dest.keepsItem = true → (s.place maxStack p guid item dest).watched p guid = true →
        ((s.place maxStack p guid item dest).items p)[guid]? = some item) := by
  cases dest with
  | store dest =>
    obtain ⟨htame, -, hplaced⟩ := storeItem_spec maxStack (s := s) (p := p) dest guid item (some p)
    refine ⟨htame, fun hkeeps hw ↦ ?_⟩
    simp [Traders.place, hplaced hkeeps rfl] at hw
  | equip stack =>
    cases stack with
    | none =>
      refine ⟨tame_putItem guid item, fun _ _ ↦ ?_⟩
      show (Function.update s.items p ((s.items p).insert guid item) p)[guid]? = some item
      simp
    | some stack => exact ⟨(tame_addCount stack item.count).but, fun h ↦ by cases h⟩

/-! ## What the players do with their items -/

/-- An item is taken up and put down again, or merged with another one that nobody watches. -/
theorem tame_move {src : ℕ} {srcItem : Item} {dest : Dest} (hsrc : (s.items p)[src]? = some srcItem)
    (hkeeps : s.watched p src = true → dest.keepsItem = true) :
    Tame' s ((s.RemoveItem p src).place maxStack p src srcItem dest) := by
  obtain ⟨hplace, hback⟩ := place_spec maxStack (s := s.RemoveItem p src) (p := p) dest src srcItem
  have htame := (tame_removeItem src).trans hplace
  refine htame.back_only fun hw ↦ ?_
  rw [hsrc, hback (hkeeps (htame.watched hw)) hw]

/-- Two items are taken up, and each is put down again or is not watched. -/
theorem tame_swap {src dst : ℕ} {srcItem dstItem : Item} {toDst toSrc : Dest}
    (hsrc : (s.items p)[src]? = some srcItem) (hdst : (s.items p)[dst]? = some dstItem)
    (hkeepsSrc : s.watched p src = true → toDst.keepsItem = true)
    (hkeepsDst : s.watched p dst = true → toSrc.keepsItem = true) :
    Tame' s ((((s.RemoveItem p dst).RemoveItem p src).place maxStack p src srcItem toDst).place
      maxStack p dst dstItem toSrc) := by
  let out (q : Bool) (guid : ℕ) : Prop := only p dst q guid ∨ only p src q guid
  have hremoved : Tame out s ((s.RemoveItem p dst).RemoveItem p src) :=
    ((tame_removeItem dst).mono fun _ _ h ↦ .inl h).trans
      ((tame_removeItem src).mono fun _ _ h ↦ .inr h)
  obtain ⟨hfirst, hbackSrc⟩ := place_spec maxStack (s := (s.RemoveItem p dst).RemoveItem p src)
    (p := p) toDst src srcItem
  generalize ((s.RemoveItem p dst).RemoveItem p src).place maxStack p src srcItem toDst = middle
    at hfirst hbackSrc ⊢
  obtain ⟨hsecond, hbackDst⟩ := place_spec maxStack (s := middle) (p := p) toSrc dst dstItem
  have hmiddle : Tame out s middle := hremoved.trans (hfirst.mono fun _ _ h ↦ .inr h)
  have htame := hmiddle.trans (hsecond.mono fun _ _ h ↦ .inl h)
  refine htame.back fun q guid hout hw ↦ ?_
  by_cases hguid : only p dst q guid
  · obtain ⟨rfl, rfl⟩ := hguid
    rw [hdst, hbackDst (hkeepsDst (htame.watched hw)) hw]
  · obtain ⟨rfl, rfl⟩ := hout.resolve_left hguid
    rw [hsecond.items q guid hw hguid, hsrc]
    exact hbackSrc (hkeepsSrc (htame.watched hw)) (hsecond.watched hw)

theorem tame_leave {guid : ℕ} (hnot : ¬ s.watched p guid = true) : Tame' s (s.RemoveItem p guid) :=
  (tame_removeItem guid).back_only fun hw ↦ absurd ((tame_removeItem guid).watched hw) hnot

theorem tame_splitItem (src count : ℕ) (lootGenerated : Bool) (dest : Option Dest) :
    Tame' s (s.SplitItem maxStack p src count lootGenerated dest) := by
  rw [Traders.SplitItem]
  cases (s.items p)[src]? with
  | none => exact Tame.refl s
  | some srcItem =>
    dsimp only
    split_ifs
    · exact Tame.refl s
    · exact Tame.refl s
    · exact Tame.refl s
    rcases hcreate : s.CreateItem maxStack p srcItem.entry count with ⟨_ | ⟨newGuid, newItem⟩, s'⟩
    · obtain rfl := createItem_none hcreate
      exact Tame.refl _
    · obtain ⟨hcreated, hunwatched⟩ := createItem_spec hcreate
      have hless := hcreated.trans (tame_setCount (p := p) src (srcItem.count - count))
      cases dest with
      | none => exact hless.trans (tame_setCount src srcItem.count)
      | some dest =>
        obtain ⟨hplace, -⟩ := place_spec maxStack (s := s'.SetCount p src (srcItem.count - count))
          (p := p) dest newGuid newItem
        refine hless.trans (hplace.back_only fun hw ↦ ?_)
        have hw' := (tame_setCount (p := p) src (srcItem.count - count)).watched (hplace.watched hw)
        simp [hunwatched] at hw'

theorem tame_swapItem {src : ℕ} {dst : Option ℕ} {view : Traders.SwapView}
    (hkeeps : KeepsOffers maxStack s (.SwapItem p src dst view)) :
    Tame' s (s.SwapItem maxStack p src dst view) := by
  rw [Traders.SwapItem]
  cases hsrc : (s.items p)[src]? with
  | none => exact Tame.refl s
  | some srcItem =>
    dsimp only
    by_cases hallowed : view.allowed = true
    swap
    · rw [if_pos (by simpa using hallowed)]
      exact Tame.refl s
    rw [if_neg (by simpa using hallowed)]
    have hkeeps := hkeeps srcItem hsrc hallowed
    cases dst with
    | none =>
      cases hmove : view.move with
      | none => exact Tame.refl s
      | some dest => exact tame_move hsrc (hkeeps dest hmove)
    | some dst =>
      dsimp only at hkeeps ⊢
      cases hdst : (s.items p)[dst]? with
      | none => exact Tame.refl s
      | some dstItem =>
        have hkeeps := hkeeps dstItem hdst
        cases hmerge : view.merge with
        | some dest =>
          rw [hmerge] at hkeeps
          dsimp only at hkeeps ⊢
          split_ifs with hfits
          · exact tame_move hsrc (hkeeps hfits)
          · exact (tame_setCount src _).trans (tame_setCount dst _)
        | none =>
          rw [hmerge] at hkeeps
          dsimp only at hkeeps ⊢
          cases htoDst : view.toDst with
          | none => exact Tame.refl s
          | some toDst =>
            cases htoSrc : view.toSrc with
            | none => exact Tame.refl s
            | some toSrc =>
              obtain ⟨hkeepsSrc, hkeepsDst⟩ := hkeeps toDst htoDst toSrc htoSrc
              exact tame_swap hsrc hdst hkeepsSrc hkeepsDst

theorem tame_destroyItemCount {guid count : ℕ} (hkeeps : KeepsOffers maxStack s (.DestroyItemCount p guid count)) :
    Tame' s (s.DestroyItemCount p guid count) := by
  rw [Traders.DestroyItemCount]
  cases hitem : (s.items p)[guid]? with
  | none => exact Tame.refl s
  | some item =>
    dsimp only
    split_ifs with hall
    · exact tame_leave (hkeeps item hitem hall)
    · exact tame_setCount guid _

theorem tame_moveItemFromInventory {guid : ℕ} {owner : Option Bool}
    (hkeeps : guid ∈ s.items p → ¬ s.watched p guid = true) :
    Tame' s (s.MoveItemFromInventory p guid owner) := by
  rw [Traders.MoveItemFromInventory]
  cases hitem : (s.items p)[guid]? with
  | none => exact Tame.refl s
  | some item =>
    have hleave := tame_leave (hkeeps ((TreeMap.mem_iff (s.items p) guid).mpr ⟨item, hitem⟩))
    exact hleave.trans (tame_of_eq rfl rfl rfl rfl)

theorem tame_moveItemToInventory {guid : ℕ} {dest : List ItemPosCount}
    (hkeeps : KeepsOffers maxStack s (.MoveItemToInventory p guid dest)) :
    Tame' s (s.MoveItemToInventory maxStack p guid dest) := by
  rw [Traders.MoveItemToInventory]
  cases hitem : s.outside[guid]? with
  | none => exact Tame.refl s
  | some x =>
    obtain ⟨item, owner⟩ := x
    have htaken : Tame' s { s with outside := s.outside.erase guid } := tame_of_eq rfl rfl rfl rfl
    obtain ⟨htame, hmerged, hplaced⟩ := storeItem_spec maxStack
      (s := { s with outside := s.outside.erase guid }) (p := p) dest guid item owner
    by_cases hdest : (Dest.store dest).keepsItem = true
    · refine htaken.trans (htame.back_only fun hw ↦ ?_)
      have howner := hkeeps _ hitem hdest (htaken.watched (htame.watched hw))
      simp [hplaced hdest howner] at hw
    · exact htaken.trans (hmerged (Bool.eq_false_iff.mpr hdest))

theorem tame_storeNewItem (entry count : ℕ) (dest : List ItemPosCount) :
    Tame' s (s.StoreNewItem maxStack p entry count dest) := by
  rw [Traders.StoreNewItem]
  rcases hcreate : s.CreateItem maxStack p entry count with ⟨_ | ⟨guid, item⟩, s'⟩
  · obtain rfl := createItem_none hcreate
    exact Tame.refl _
  · obtain ⟨hcreated, hunwatched⟩ := createItem_spec hcreate
    obtain ⟨htame, -, -⟩ := storeItem_spec maxStack (s := s') (p := p) dest guid item (some p)
    refine hcreated.trans (htame.back_only fun hw ↦ ?_)
    have hw' := htame.watched hw
    simp [hunwatched] at hw'

theorem tame_handleSellItem {guid count price : ℕ}
    (hkeeps : KeepsOffers maxStack s (.HandleSellItem p guid count price)) :
    Tame' s (s.HandleSellItem maxStack p guid count price) := by
  rw [Traders.HandleSellItem]
  cases hitem : (s.items p)[guid]? with
  | none => exact Tame.refl s
  | some item =>
    dsimp only
    split_ifs with hrefused hpart
    · exact Tame.refl s
    · rcases hcreate : s.CreateItem maxStack p item.entry count with ⟨_ | ⟨newGuid, newItem⟩, s'⟩
      · obtain rfl := createItem_none hcreate
        exact Tame.refl _
      · obtain ⟨hcreated, -⟩ := createItem_spec hcreate
        exact (hcreated.trans (tame_setCount guid (item.count - count))).trans
          (tame_of_eq rfl rfl rfl rfl)
    · refine (tame_moveItemFromInventory fun _ ↦ ?_).trans (tame_of_eq rfl rfl rfl rfl)
      exact hkeeps item hitem hrefused hpart

/-! ## What has been accepted -/

/-- What the players have accepted is what is offered now. -/
structure ConsentInv (s : Traders) : Prop where
  asOffered : TradesAsOffered s
  consents : ∀ (t : Trade) (p : Bool), s.trade = some t → (t p).accepted = true → s.consents p = s.offer (!p) t

theorem offer_congr {t t' : Trade} (hmoney : (t' p).money = (t p).money) (hitems : (t' p).items = (t p).items)
    (hcounts : ∀ slot : Fin TRADE_SLOT_TRADED_COUNT,
      (s'.items p)[(t p).items slot.castSucc]? = (s.items p)[(t p).items slot.castSucc]?) :
    s'.offer p t' = s.offer p t := by
  have hget (slot : Fin TRADE_SLOT_TRADED_COUNT) :
      s'.GetItem p t' slot.castSucc = s.GetItem p t slot.castSucc := by
    simp [Traders.GetItem, hitems, hcounts]
  simp only [Traders.offer, hget, hmoney]

theorem ConsentInv.tame (h : ConsentInv s) (htame : Tame' s s') : ConsentInv s' := by
  refine ⟨fun e he ↦ ?_, fun t' p ht' haccepted' ↦ ?_⟩
  · rw [htame.exchanges] at he
    exact h.asOffered e he
  · obtain ⟨t, ht, hquiet⟩ := htame.trade t' ht'
    have haccepted'' : (t' !!p).accepted = true := by rwa [Bool.not_not]
    obtain ⟨haccepted, hmoney, hitems⟩ := hquiet (!p) haccepted''
    rw [Bool.not_not] at haccepted
    rw [htame.consents, h.consents t p ht haccepted]
    refine (offer_congr hmoney hitems fun slot ↦ ?_).symm
    refine htame.items (!p) _ (watched_eq_true_iff.mpr ⟨t', ht', haccepted'', slot, ?_⟩) id
    rw [hitems]

theorem ConsentInv.noTrade (h : ConsentInv s) (hexchanges : ∀ e ∈ s'.exchanges, e ∈ s.exchanges ∨
    ∀ p, e.given p = e.offered p) (htrade : s'.trade = none) : ConsentInv s' := by
  refine ⟨fun e he ↦ ?_, fun t p ht ↦ ?_⟩
  · rcases hexchanges e he with hold | hnew
    · exact h.asOffered e hold
    · exact hnew
  · simp [htrade] at ht

theorem ConsentInv.accept (h : ConsentInv s) {t : Trade} (ht : s.trade = some t) : ConsentInv { s with
      trade := some (t.SetAccepted p true)
      consents := Function.update s.consents p (s.offer (!p) (t.SetAccepted p true)) } := by
  refine ⟨h.asOffered, fun t' q ht' haccepted ↦ ?_⟩
  obtain rfl := Option.some_inj.mp ht'
  by_cases hq : q = p
  · subst hq
    exact Function.update_self ..
  · rw [Trade.setAccepted_accepted, if_neg hq] at haccepted
    refine (Function.update_of_ne hq ..).trans ((h.consents t q ht haccepted).trans ?_)
    exact (offer_congr (Trade.setAccepted_money ..) (Trade.setAccepted_items ..) fun _ ↦ rfl).symm

section refused

variable {α : Type} {c : Prop} [Decidable c] {a b : α} {o : Option α}

theorem eq_or_of_ite_eq_some (h : (if c then some a else o) = some b) : a = b ∨ o = some b := by
  by_cases hc : c
  · rw [if_pos hc] at h
    exact .inl (Option.some.inj h)
  · rw [if_neg hc] at h
    exact .inr h

theorem not_of_ite_eq_none (h : (if c then some a else o) = none) : ¬ c ∧ o = none := by
  by_cases hc : c
  · simp [hc] at h
  · rw [if_neg hc] at h
    exact ⟨hc, h⟩

end refused

/-- A refused trade is left open, and what is still accepted stays as it was. -/
theorem refusal_eq_some {t t' : Trade} {view : Traders.AcceptView} (h : s.refusal p t view = some t') : Quiet t t' := by
  rw [Traders.refusal] at h
  rcases eq_or_of_ite_eq_some h with rfl | h
  · exact t.quiet_setAccepted_false p
  rcases eq_or_of_ite_eq_some h with rfl | h
  · exact t.quiet_setAccepted_false p
  rcases eq_or_of_ite_eq_some h with rfl | h
  · exact t.quiet_setAccepted_false !p
  rcases eq_or_of_ite_eq_some h with rfl | h
  · exact t.quiet_setAccepted_false p
  rcases eq_or_of_ite_eq_some h with rfl | h
  · exact t.quiet_setAccepted_false !p
  rcases eq_or_of_ite_eq_some h with rfl | h
  · exact Quiet.refl t
  rcases eq_or_of_ite_eq_some h with rfl | h
  · exact Quiet.refl t
  rcases eq_or_of_ite_eq_some h with rfl | h
  · exact t.quiet_setSpell p 0 0
  rcases eq_or_of_ite_eq_some h with rfl | h
  · exact t.quiet_setSpell (!p) 0 0
  rcases eq_or_of_ite_eq_some h with rfl | h
  · exact t.quiet_resetAccepted t p
  · cases h

/-- A trade is completed when both have accepted it and have the money. -/
theorem refusal_eq_none {t : Trade} {view : Traders.AcceptView} (h : s.refusal p t view = none) :
    (s.purses p).HasEnoughMoney (t p).money = true ∧
      (s.purses !p).HasEnoughMoney (t !p).money = true ∧ (t !p).accepted = true := by
  rw [Traders.refusal] at h
  obtain ⟨-, h⟩ := not_of_ite_eq_none h
  obtain ⟨hmine, h⟩ := not_of_ite_eq_none h
  obtain ⟨hhis, h⟩ := not_of_ite_eq_none h
  obtain ⟨-, h⟩ := not_of_ite_eq_none h
  obtain ⟨-, h⟩ := not_of_ite_eq_none h
  obtain ⟨-, h⟩ := not_of_ite_eq_none h
  obtain ⟨haccepted, -⟩ := not_of_ite_eq_none h
  exact ⟨by simpa using hmine, by simpa using hhis, by simpa using haccepted⟩

theorem canTrade_not (items : Bool → Fin TRADE_SLOT_TRADED_COUNT → Option (ℕ × Item))
    (view : Traders.AcceptView) (slot : Fin TRADE_SLOT_TRADED_COUNT) :
    Traders.canTrade (!p) items view slot = Traders.canTrade p items view slot := by
  simp [Traders.canTrade, Bool.not_not, Bool.and_comm]

/-- If everything can be moved, then what is offered is given. -/
theorem given_eq_offer {t : Trade} {view : Traders.AcceptView} (hmoney : (s.purses p).HasEnoughMoney (t p).money = true)
    (hcan : ∀ slot, Traders.canTrade p (fun q ↦ s.tradedItems q t) view slot = true) :
    s.given p t (fun q ↦ s.tradedItems q t) view = s.offer p t := by
  have hpaid := (s.purses p).ModifyMoney_neg hmoney
  have hgold : (s.purses p).money -
      ((s.purses p).ModifyMoney (-int32 (t p).money.toNat)).1.money = (t p).money.toNat := by omega
  simp [Traders.given, Traders.offer, hcan, hgold, Traders.tradedItems]

theorem ConsentInv.handleAcceptTrade (h : ConsentInv s) {view : Traders.AcceptView}
    (hroom : KeepsOffers maxStack s (.HandleAcceptTrade p view)) :
    ConsentInv (s.HandleAcceptTrade maxStack p view) := by
  rw [Traders.HandleAcceptTrade]
  cases ht : s.trade with
  | none => exact h
  | some t =>
    have haccept := h.accept (p := p) ht
    have hroom := hroom t ht
    dsimp only
    generalize hs' : ({ s with
      trade := some (t.SetAccepted p true)
      consents := Function.update s.consents p (s.offer (!p) (t.SetAccepted p true)) } : Traders) = s' at haccept ⊢
    have htrade : s'.trade = some (t.SetAccepted p true) := by rw [← hs']
    have hrefusal : s'.refusal p (t.SetAccepted p true) view =
        s.refusal p (t.SetAccepted p true) view := by rw [← hs']; rfl
    have hitems (q : Bool) : s'.tradedItems q (t.SetAccepted p true) = s.tradedItems q t := by
      funext slot
      simp [← hs', Traders.tradedItems, Traders.GetItem, Trade.setAccepted_items]
    cases hresult : s'.refusal p (t.SetAccepted p true) view with
    | some t' =>
      have hquiet := refusal_eq_some hresult
      subst hs'
      refine haccept.tame ⟨rfl, rfl, fun t'' ht'' ↦ ?_, fun _ _ _ _ ↦ rfl⟩
      obtain rfl := Option.some_inj.mp ht''
      exact ⟨_, htrade, hquiet⟩
    | none =>
      have hcan := hroom (hrefusal ▸ hresult)
      simp only [← hitems] at hcan
      obtain ⟨hmine, hhis, haccepted⟩ := refusal_eq_none hresult
      refine haccept.noTrade (fun e he ↦ ?_) rfl
      rcases List.mem_cons.mp he with rfl | he
      · refine .inr fun q ↦ ?_
        -- both flags are set: what is given was recorded when the other one's was
        have hboth : ((t.SetAccepted p true) !q).accepted = true ∧
            (s'.purses q).HasEnoughMoney ((t.SetAccepted p true) q).money = true ∧
            ∀ slot, Traders.canTrade q (fun q ↦ s'.tradedItems q (t.SetAccepted p true)) view
              slot = true := by
          by_cases hq : q = p
          · subst hq
            exact ⟨haccepted, hmine, hcan⟩
          · obtain rfl := Bool.eq_not_of_ne hq
            refine ⟨?_, hhis, fun slot ↦ (canTrade_not _ _ _).trans (hcan slot)⟩
            simp [Trade.setAccepted_accepted]
        obtain ⟨hflag, hmoney, hslots⟩ := hboth
        have hoffered := haccept.consents _ (!q) htrade hflag
        rw [Bool.not_not] at hoffered
        exact (given_eq_offer hmoney hslots).trans hoffered.symm
      · exact .inl he

theorem ConsentInv.next (h : ConsentInv s) {a : TradeCall} (hkeeps : KeepsOffers maxStack s a) :
    ConsentInv (s.next maxStack a) := by
  cases a with
  | HandleInitiateTrade =>
    show ConsentInv s.HandleInitiateTrade
    rw [Traders.HandleInitiateTrade]
    split_ifs
    · exact h
    · refine ⟨h.asOffered, fun t p ht haccepted ↦ ?_⟩
      obtain rfl := Option.some_inj.mp ht
      cases haccepted
  | TradeCancel => exact h.noTrade (fun _ he ↦ .inl he) rfl
  | HandleSetTradeGold p gold => exact h.tame (tame_mapTrade fun t ↦ t.quiet_setMoney p gold _)
  | HandleSetTradeItem p tradeSlot guid canBeTraded isBindedNotWith =>
    refine h.tame (tame_mapTrade fun t ↦ ?_)
    dsimp only
    split_ifs
    · exact Quiet.refl t
    · exact Quiet.refl t
    · exact Quiet.refl t
    · exact t.quiet_setItem p _ guid false
    · exact Quiet.refl t
  | HandleClearTradeItem p tradeSlot =>
    refine h.tame (tame_mapTrade fun t ↦ ?_)
    split_ifs
    · exact t.quiet_setItem p _ 0 false
    · exact Quiet.refl t
  | SetTradeSpell p spell castItem =>
    exact h.tame (tame_mapTrade fun t ↦ t.quiet_setSpell p spell castItem)
  | HandleUnacceptTrade p => exact h.tame (tame_mapTrade fun t ↦ t.quiet_setAccepted_false p)
  | HandleAcceptTrade p view => exact h.handleAcceptTrade hkeeps
  | SplitItem p src count lootGenerated dest =>
    exact h.tame (tame_splitItem src count lootGenerated dest)
  | SwapItem p src dst view => exact h.tame (tame_swapItem hkeeps)
  | DestroyItemCount p guid count => exact h.tame (tame_destroyItemCount hkeeps)
  | HandleSellItem p guid count price => exact h.tame (tame_handleSellItem hkeeps)
  | MoveItemFromInventory p guid owner => exact h.tame (tame_moveItemFromInventory hkeeps)
  | MoveItemToInventory p guid dest => exact h.tame (tame_moveItemToInventory hkeeps)
  | StoreNewItem p entry count dest => exact h.tame (tame_storeNewItem entry count dest)
  | ModifyMoney p amount => exact h.tame (tame_of_eq rfl rfl rfl rfl)

/-! ## Runs -/

variable {items : Bool → ExtTreeMap ℕ Item} {purses : Bool → Purse} {nextGuid : ℕ}

theorem consentInv_start : ConsentInv (Traders.start items purses nextGuid) := by
  refine ⟨fun e he ↦ ?_, fun t p ht ↦ ?_⟩
  · cases he
  · cases ht

/-- **Trades are made as they were accepted**, if no item that is watched leaves or comes back and there is
room for what is traded. -/
theorem tradesAsOffered_of_reaches
    (h : (tradeMachine maxStack items purses nextGuid).Reaches (KeepsOffers maxStack) s) :
    TradesAsOffered s := by
  have hinv : ConsentInv s := h.invariant consentInv_start fun s a t hs hok hnext ↦ by
    obtain rfl := Option.some_inj.mp hnext
    exact hs.next hok
  exact hinv.asOffered

instance decidableKeepsOffers : ∀ (s : Traders) (a : TradeCall), Decidable (KeepsOffers maxStack s a)
  | s, .SwapItem p src none view => inferInstanceAs (Decidable (∀ srcItem ∈ (s.items p)[src]?, _))
  | s, .SwapItem p src (some dst) ⟨allowed, _, some merge, _, _⟩ =>
    inferInstanceAs (Decidable (∀ srcItem ∈ (s.items p)[src]?, _))
  | s, .SwapItem p src (some dst) ⟨allowed, _, none, toDst, toSrc⟩ =>
    inferInstanceAs (Decidable (∀ srcItem ∈ (s.items p)[src]?, _))
  | s, .DestroyItemCount p guid count => inferInstanceAs (Decidable (∀ item ∈ (s.items p)[guid]?, _))
  | s, .HandleSellItem p guid count price => inferInstanceAs (Decidable (∀ item ∈ (s.items p)[guid]?, _))
  | s, .MoveItemFromInventory p guid _ => inferInstanceAs (Decidable (_ → _))
  | s, .MoveItemToInventory p guid dest => inferInstanceAs (Decidable (∀ x ∈ s.outside[guid]?, _))
  | s, .HandleAcceptTrade p view => inferInstanceAs (Decidable (∀ t ∈ s.trade, _))
  | _, .HandleInitiateTrade | _, .TradeCancel | _, .HandleSetTradeGold .. | _, .HandleSetTradeItem ..
  | _, .HandleClearTradeItem .. | _, .SetTradeSpell .. | _, .HandleUnacceptTrade _
  | _, .SplitItem .. | _, .StoreNewItem .. | _, .ModifyMoney .. => .isTrue trivial

section runs

/-- One player has a stack of three and some gold, the other one only gold. -/
private def twoPlayers : Machine Traders TradeCall :=
  tradeMachine (fun _ ↦ 20) (fun p ↦ if p then ∅ else (∅ : ExtTreeMap ℕ Item).insert 5 ⟨100, 3⟩)
    (fun _ ↦ ⟨1000, thousand_le_max⟩) 6

/-- The players are close to each other, and there is room for everything. -/
private def goodView : Traders.AcceptView :=
  ⟨true, fun _ _ ↦ true, fun _ ↦ true, fun _ ↦ true, fun _ _ ↦ some [⟨none, 3⟩], fun _ _ ↦ some [⟨none, 3⟩]⟩

/-- A stack is sold for gold, after the price has been changed once. -/
theorem tradesAsOffered_sale : ∃ s, twoPlayers.Reaches (KeepsOffers fun _ ↦ 20) s ∧
    (s.exchanges.map fun e ↦ ((e.given false).items 0, (e.given true).gold)) =
      [(some (5, 3), 700)] ∧ TradesAsOffered s := by
  let run : List TradeCall := [.HandleInitiateTrade, .HandleSetTradeItem false 0 5 true false,
    .HandleSetTradeGold true 600, .HandleAcceptTrade false goodView, .HandleSetTradeGold true 700,
    .HandleAcceptTrade true goodView, .HandleAcceptTrade false goodView]
  obtain ⟨s, hs, h⟩ := twoPlayers.exists_reaches (KeepsOffers fun _ ↦ 20) run
    (fun s ↦ (s.exchanges.map fun e ↦ ((e.given false).items 0, (e.given true).gold)) = [(some (5, 3), 700)]) (by
      decide +kernel)
  exact ⟨s, hs, h, tradesAsOffered_of_reaches hs⟩

/-- The stack is destroyed after the gold has been accepted for it: the gold is given for nothing. -/
theorem not_tradesAsOffered_of_reachable : ¬ ∀ (maxStack : ℕ → ℕ)
    (items : Bool → ExtTreeMap ℕ Item) (purses : Bool → Purse) (nextGuid : ℕ) (s : Traders),
    (tradeMachine maxStack items purses nextGuid).Reachable s → TradesAsOffered s := by
  intro hall
  let run : List TradeCall := [.HandleInitiateTrade, .HandleSetTradeItem false 0 5 true false,
    .HandleSetTradeGold true 700, .HandleAcceptTrade true goodView, .DestroyItemCount false 5 3,
    .HandleAcceptTrade false goodView]
  obtain ⟨s, hs, h⟩ := twoPlayers.exists_reachable run
    (fun s ↦ (s.exchanges.map fun e ↦ ((e.given false).items 0, (e.offered false).items 0)) = [(none, some (5,
      3))]) (by decide +kernel)
  have hoffered := hall _ _ _ _ s hs
  obtain ⟨e, he, hitems⟩ := List.map_eq_singleton_iff.mp h
  have hsame := hoffered e (by rw [he]; exact List.mem_singleton_self e) false
  rw [Prod.mk.injEq] at hitems
  rw [hsame, hitems.2] at hitems
  cases hitems.1

end runs

end Gundrak.Trading
