import Gundrak.Util.Machine
import Gundrak.Util.ObjectGuid

/-!
# Buyback slots

What a player sells goes to one of twelve slots from which he can buy it back.  The next slot is
`m_currentBuybackSlot` if that is empty; otherwise the slots are searched for an empty one, or else the one
with the oldest timestamp, and what is there is lost.  The search begins at the second slot: whether the first
one is empty is only known from its timestamp, which is 0 then.

A timestamp is the time since login in an `uint32`, which is enough for 136 years.

* `searchSlot_spec`: what the search finds.
* `Tracks`: the slots, next to the times at which their items have been added.
* **`slotLaw_of_reaches`**: where an item is put.
-/

namespace Gundrak.Buyback

/-- `BUYBACK_SLOT_START`. -/
def BUYBACK_SLOT_START : ℕ := 74

/-- `BUYBACK_SLOT_END`. -/
def BUYBACK_SLOT_END : ℕ := 86

/-- What is used of an item: its guid, the price in its template if it has one, and how many it is. -/
structure Item where
  guid : ObjectGuid
  SellPrice : Option UInt32
  count : UInt32

/-- A player's items by slot, and the fields for the buyback slots; the fields have the number of the slot
here. -/
structure Player where
  m_items : ℕ → Option Item
  m_currentBuybackSlot : ℕ
  /-- `PLAYER_FIELD_VENDORBUYBACK_SLOT_1` -/
  guids : ℕ → ObjectGuid
  /-- `PLAYER_FIELD_BUYBACK_PRICE_1` -/
  prices : ℕ → UInt32
  /-- `PLAYER_FIELD_BUYBACK_TIMESTAMP_1` -/
  timestamps : ℕ → UInt32
  /-- the items that have got the state `ITEM_REMOVED` -/
  removed : List Item

namespace Player

/-- A player who has logged in. -/
def start : Player := ⟨fun _ ↦ none, BUYBACK_SLOT_START, fun _ ↦ ObjectGuid.Empty, fun _ ↦ 0, fun _ ↦ 0, []⟩

variable (p : Player)

/-- The slots from the second one on. -/
def laterSlots : List ℕ := List.range' (BUYBACK_SLOT_START + 1) (BUYBACK_SLOT_END - (BUYBACK_SLOT_START + 1))

/-- The loop of `AddItemToBuyBackSlot` over the slots. -/
def searchSlot : List ℕ → UInt32 → ℕ → ℕ
  | [], _, oldest_slot => oldest_slot
  | i :: is, oldest_time, oldest_slot =>
    if (p.m_items i).isNone then i
    else if oldest_time > p.timestamps i then searchSlot is (p.timestamps i) i
    else searchSlot is oldest_time oldest_slot

/-- The slot that an item is put to. -/
def nextSlot : ℕ :=
  if (p.m_items p.m_currentBuybackSlot).isSome then
    p.searchSlot laterSlots (p.timestamps BUYBACK_SLOT_START) BUYBACK_SLOT_START
  else p.m_currentBuybackSlot

/-- `Player::RemoveItemFromBuyBackSlot`. -/
def RemoveItemFromBuyBackSlot (slot : ℕ) (del : Bool) : Player :=
  if BUYBACK_SLOT_START ≤ slot ∧ slot < BUYBACK_SLOT_END then
    let m_items := Function.update p.m_items slot none
    { m_items := m_items
      m_currentBuybackSlot :=
        if (m_items p.m_currentBuybackSlot).isSome then slot else p.m_currentBuybackSlot
      guids := Function.update p.guids slot ObjectGuid.Empty
      prices := Function.update p.prices slot 0
      timestamps := Function.update p.timestamps slot 0
      removed := if del then p.removed ++ (p.m_items slot).toList else p.removed }
  else p

/-- `Player::AddItemToBuyBackSlot`, of an item, at a time since login. -/
def AddItemToBuyBackSlot (pItem : Item) (time : ℕ) : Player :=
  let slot := p.nextSlot
  let p := p.RemoveItemFromBuyBackSlot slot true
  { p with
    m_items := Function.update p.m_items slot pItem
    guids := Function.update p.guids slot pItem.guid
    prices := Function.update p.prices slot (pItem.SellPrice.elim 0 (· * pItem.count))
    timestamps := Function.update p.timestamps slot (UInt32.ofNat (time + 30 * 3600))
    m_currentBuybackSlot :=
      if p.m_currentBuybackSlot < BUYBACK_SLOT_END - 1 then p.m_currentBuybackSlot + 1
      else p.m_currentBuybackSlot }

end Player

open Player

/-- One of the slots. -/
def IsSlot (slot : ℕ) : Prop := BUYBACK_SLOT_START ≤ slot ∧ slot < BUYBACK_SLOT_END

/-- A player, when the items in his slots have been added, and the time of the last call. -/
structure Session where
  player : Player
  addedAt : ℕ → ℕ
  now : ℕ

/-- The calls. -/
inductive Call where
  | AddItemToBuyBackSlot (pItem : Item) (time : ℕ)
  | RemoveItemFromBuyBackSlot (slot : ℕ) (del : Bool) (time : ℕ)

/-- What a call does, at a time that is not before the last one. -/
def next (s : Session) : Call → Option Session
  | .AddItemToBuyBackSlot pItem time =>
    if s.now ≤ time then
      some ⟨s.player.AddItemToBuyBackSlot pItem time, Function.update s.addedAt s.player.nextSlot time, time⟩
    else none
  | .RemoveItemFromBuyBackSlot slot del time =>
    if s.now ≤ time then some ⟨s.player.RemoveItemFromBuyBackSlot slot del, s.addedAt, time⟩ else none

/-- A player from his login on. -/
def session : Machine Session Call := ⟨⟨.start, fun _ ↦ 0, 0⟩, next⟩

/-- **The cursor is one of the slots**, and the next item is put to one: to an empty one if there is any, and
otherwise to one with an item that has been there for as long as any. -/
structure SlotLaw (s : Session) : Prop where
  cursor : IsSlot s.player.m_currentBuybackSlot
  adds : ∀ (pItem : Item) (time : ℕ), ∃ slot, IsSlot slot ∧
    (s.player.AddItemToBuyBackSlot pItem time).m_items = Function.update s.player.m_items slot pItem ∧
    ((∃ i, IsSlot i ∧ s.player.m_items i = none) → s.player.m_items slot = none) ∧
    ((∀ i, IsSlot i → s.player.m_items i ≠ none) → ∀ i, IsSlot i → s.addedAt slot ≤ s.addedAt i)

/-- The time fits into a timestamp. -/
def InTime : Call → Prop
  | .AddItemToBuyBackSlot _ time => time + 30 * 3600 < 2 ^ 32
  | .RemoveItemFromBuyBackSlot .. => True

/-- What a run keeps: the cursor is a slot, an empty slot has the timestamp 0, and one with an item the time at
which that has been added. -/
structure Tracks (s : Session) : Prop where
  cursor : IsSlot s.player.m_currentBuybackSlot
  empty : ∀ i, s.player.m_items i = none → s.player.timestamps i = 0
  held : ∀ i, s.player.m_items i ≠ none → (s.player.timestamps i).toNat = s.addedAt i + 30 * 3600

variable {p : Player} {s s' : Session}

/-- **The search** finds an empty slot, or all have items and it finds one with the smallest timestamp. -/
theorem searchSlot_spec (is : List ℕ) (o : ℕ) : p.searchSlot is (p.timestamps o) o ∈ o :: is ∧
    (p.m_items (p.searchSlot is (p.timestamps o) o) = none ∨ (∀ i ∈ is, p.m_items i ≠ none) ∧
      ∀ i ∈ o :: is, p.timestamps (p.searchSlot is (p.timestamps o) o) ≤ p.timestamps i) := by
  induction is generalizing o with
  | nil => simp [searchSlot]
  | cons i is ih =>
    rw [searchSlot]
    by_cases hnone : p.m_items i = none
    · simp [hnone]
    rw [if_neg (by simpa using hnone)]
    -- the older one of the two goes on against the rest
    have hgo (k k' : ℕ) (hle : p.timestamps k ≤ p.timestamps k') (hk : o = k ∧ i = k' ∨ i = k ∧ o = k') :
        p.searchSlot is (p.timestamps k) k ∈ o :: i :: is ∧
        (p.m_items (p.searchSlot is (p.timestamps k) k) = none ∨ (∀ j ∈ i :: is, p.m_items j ≠ none) ∧
          ∀ j ∈ o :: i :: is, p.timestamps (p.searchSlot is (p.timestamps k) k) ≤ p.timestamps j) := by
      obtain ⟨hmem, hfound⟩ := ih k
      refine ⟨by grind, hfound.imp_right fun ⟨hall, hmin⟩ ↦ ⟨by grind, fun j hj ↦ ?_⟩⟩
      have hle' := UInt32.le_trans (hmin k List.mem_cons_self) hle
      grind
    split
    · exact hgo i o (UInt32.le_of_lt ‹_›) (.inr ⟨rfl, rfl⟩)
    · exact hgo o i (UInt32.not_lt.mp ‹_›) (.inl ⟨rfl, rfl⟩)

theorem mem_laterSlots {i : ℕ} : i ∈ BUYBACK_SLOT_START :: laterSlots ↔ IsSlot i := by
  rw [laterSlots, List.mem_cons, List.mem_range'_1, IsSlot, BUYBACK_SLOT_START, BUYBACK_SLOT_END]
  omega

/-- **The slot of the next item.** -/
theorem Tracks.nextSlot (h : Tracks s) : IsSlot s.player.nextSlot ∧
    ((∃ i, IsSlot i ∧ s.player.m_items i = none) → s.player.m_items s.player.nextSlot = none) ∧
    ((∀ i, IsSlot i → s.player.m_items i ≠ none) → ∀ i, IsSlot i → s.addedAt s.player.nextSlot ≤ s.addedAt i) := by
  rw [Player.nextSlot]
  split
  · obtain ⟨hmem, hfound⟩ := searchSlot_spec (p := s.player) laterSlots BUYBACK_SLOT_START
    generalize s.player.searchSlot laterSlots _ BUYBACK_SLOT_START = slot at hmem hfound
    have hslot := mem_laterSlots.mp hmem
    refine ⟨hslot, fun ⟨i, hi, hnone⟩ ↦ ?_, fun hall i hi ↦ ?_⟩
    · obtain hnone' | ⟨hall, hmin⟩ := hfound
      · exact hnone'
      -- only the first slot can be empty, and then its timestamp is 0
      have hle := hmin i (mem_laterSlots.mpr hi)
      rw [h.empty i hnone] at hle
      have hzero : (s.player.timestamps slot).toNat = 0 := Nat.le_zero.mp (UInt32.le_iff_toNat_le.mp hle)
      by_contra hsome
      have hheld := h.held slot hsome
      omega
    · obtain hnone | ⟨-, hmin⟩ := hfound
      · exact absurd hnone (hall slot hslot)
      have hle := UInt32.le_iff_toNat_le.mp (hmin i (mem_laterSlots.mpr hi))
      rw [h.held slot (hall slot hslot), h.held i (hall i hi)] at hle
      exact Nat.le_of_add_le_add_right hle
  · have hnone : s.player.m_items s.player.m_currentBuybackSlot = none := by simp_all
    exact ⟨h.cursor, fun _ ↦ hnone, fun hall ↦ absurd hnone (hall _ h.cursor)⟩

theorem m_items_add {slot : ℕ} (hslot : p.nextSlot = slot) (h : IsSlot slot) (pItem : Item) (time : ℕ) :
    (p.AddItemToBuyBackSlot pItem time).m_items = Function.update p.m_items slot pItem := by
  rw [AddItemToBuyBackSlot, hslot, RemoveItemFromBuyBackSlot, if_pos (show _ ∧ _ from h)]
  exact Function.update_idem ..

theorem Tracks.slotLaw (h : Tracks s) : SlotLaw s := by
  obtain ⟨hslot, hempty, hoccupied⟩ := h.nextSlot
  exact ⟨h.cursor, fun pItem time ↦ ⟨_, hslot, m_items_add rfl hslot pItem time, hempty, hoccupied⟩⟩

theorem Tracks.remove (h : Tracks s) (slot : ℕ) (del : Bool) (now : ℕ) :
    Tracks ⟨s.player.RemoveItemFromBuyBackSlot slot del, s.addedAt, now⟩ := by
  rw [RemoveItemFromBuyBackSlot]
  split
  · rename_i hslot
    refine ⟨?_, fun i hi ↦ ?_, fun i hi ↦ ?_⟩
    · dsimp only
      split
      · exact hslot
      · exact h.cursor
    · have hempty := h.empty i
      grind
    · have hheld := h.held i
      grind
  · exact ⟨h.cursor, h.empty, h.held⟩

theorem Tracks.add (h : Tracks s) (pItem : Item) {time : ℕ} (htime : time + 30 * 3600 < 2 ^ 32) :
    Tracks ⟨s.player.AddItemToBuyBackSlot pItem time, Function.update s.addedAt s.player.nextSlot time, time⟩ := by
  have hremove := h.remove s.player.nextSlot true time
  rw [AddItemToBuyBackSlot]
  generalize s.player.RemoveItemFromBuyBackSlot s.player.nextSlot true = p at hremove
  refine ⟨?_, fun i hi ↦ ?_, fun i hi ↦ ?_⟩
  · have hcursor := hremove.cursor
    simp only [IsSlot] at hcursor ⊢
    split <;> omega
  · have hempty := hremove.empty i
    grind
  · have hheld := hremove.held i
    have hnat : (UInt32.ofNat (time + 30 * 3600)).toNat = time + 30 * 3600 := UInt32.toNat_ofNat_of_lt' htime
    grind

/-- **Where an item is put**, at any time in the next 136 years. -/
theorem slotLaw_of_reaches (h : session.Reaches (fun _ call ↦ InTime call) s) : SlotLaw s := by
  refine Tracks.slotLaw (h.invariant ⟨⟨by decide, by decide⟩, fun _ _ ↦ rfl, fun _ hi ↦ absurd rfl hi⟩ ?_)
  intro s call s' hs hcall hnext
  cases call with
  | AddItemToBuyBackSlot pItem time =>
    obtain ⟨-, hnext⟩ := Option.ite_none_right_eq_some.mp hnext
    exact Option.some.inj hnext ▸ hs.add pItem hcall
  | RemoveItemFromBuyBackSlot slot del time =>
    obtain ⟨-, hnext⟩ := Option.ite_none_right_eq_some.mp hnext
    exact Option.some.inj hnext ▸ hs.remove slot del time

/-- One item is sold, and bought back. -/
theorem slotLaw_boughtBack :
    SlotLaw ⟨(start.AddItemToBuyBackSlot ⟨7, some 10, 2⟩ 5).RemoveItemFromBuyBackSlot 74 false,
      Function.update (fun _ ↦ 0) start.nextSlot 5, 9⟩ :=
  slotLaw_of_reaches (.step (a := .RemoveItemFromBuyBackSlot 74 false 9)
    (.step (a := .AddItemToBuyBackSlot ⟨7, some 10, 2⟩ 5) .start (show 5 + 30 * 3600 < 2 ^ 32 by decide) rfl) trivial rfl)

/-- Eleven items are sold at once, and one when the timestamps begin again. -/
def lateSale : Option Session := session.exec (fun _ _ ↦ True) session.start ((List.range 12).map fun k ↦
      .AddItemToBuyBackSlot ⟨k, none, 1⟩ (if k = 11 then 2 ^ 32 - 30 * 3600 else 0))

theorem lateSale_spec : lateSale.map (fun s ↦ (s.player.nextSlot, (s.player.m_items 85).map Item.guid,
      (List.range' 74 12).all fun i ↦ (s.player.m_items i).isSome, s.addedAt 85, s.addedAt 74)) =
    some (85, some 11, true, 2 ^ 32 - 30 * 3600, 0) := by
  decide +kernel

/-- **After 136 years** the newest item makes room for the next one. -/
theorem not_slotLaw_of_reachable : ¬ ∀ s, session.Reachable s → SlotLaw s := by
  intro h
  obtain ⟨s, hs, hspec⟩ := Option.map_eq_some_iff.mp lateSale_spec
  simp only [Prod.mk.injEq] at hspec
  obtain ⟨hnext, hguid, hall, hlate, hearly⟩ := hspec
  obtain ⟨slot, -, hitems, -, hoccupied⟩ := (h s (Machine.reaches_of_exec _ hs)).adds ⟨12, none, 1⟩ 0
  have hslot : slot = 85 := by
    rw [m_items_add hnext ⟨by decide, by decide⟩] at hitems
    by_contra hne
    have hget := congrArg (·.map Item.guid) (congrFun hitems 85)
    simp [Function.update_of_ne (Ne.symm hne), hguid] at hget
  have hle := hoccupied (fun i hi ↦ ?_) 74 ⟨by decide, by decide⟩
  · rw [hslot, hlate, hearly] at hle
    omega
  · have hmem := List.all_eq_true.mp hall i (by simp [IsSlot, BUYBACK_SLOT_START, BUYBACK_SLOT_END] at hi ⊢; omega)
    exact Option.isSome_iff_ne_none.mp hmem

end Gundrak.Buyback
