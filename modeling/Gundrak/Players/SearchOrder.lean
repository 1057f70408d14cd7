import Gundrak.Players.CanStoreItem
import Gundrak.Util.Filling

/-!
# The order of the search

All the phases of `CanStoreItem` together fill the places of one list, `searchOrder`, in their order; what the
skipped slots, the early returns and the positions that come twice do to it is nothing more than that.
`Follows` says so of a part of the search together with everything that comes after it.

* `searchSlots_toState`: a loop over slots fills the places it finds.
* `Follows.phase` and `Follows.bagPhase`: a phase adds its places in front of those that follow.
* **`follows_storeSearch`**: the whole search.
-/

namespace Gundrak.Players

open Filling (State)

/-- The search as a filling of places. -/
def Search.toState (s : Search) : State ℕ := ⟨s.dest, s.count⟩

namespace Player

variable (mgr : ObjectMgr) (player : Player) (proto : ItemTemplate) (pSrcItem : Option Item)

/-! ## The places -/

/-- The places in some slots of a bag. -/
def slotPlaces (merge : Bool) (bag : ℕ) (skip : ℕ → Bool) (slots : List ℕ) : List (ℕ × ℕ) :=
  (slots.filter fun slot ↦ !skip slot).filterMap fun slot ↦
    (player.slotSpace mgr proto pSrcItem merge bag slot).map (makePos bag slot, ·)

/-- The places in some of the player's own slots. -/
def ownPlaces (slot_begin slot_end : ℕ) (merge : Bool) (skip_bag skip_slot : ℕ) : List (ℕ × ℕ) :=
  player.slotPlaces mgr proto pSrcItem merge INVENTORY_SLOT_BAG_0
    (fun slot ↦ skip_bag = INVENTORY_SLOT_BAG_0 ∧ slot = skip_slot) (slotRange slot_begin slot_end)

/-- The item may go into the bag. -/
def bagIsOpen (bag : ℕ) : Bool :=
  (player.GetBagByPos mgr bag).any fun b ↦ !b.1.isItem pSrcItem && proto.ItemCanGoIntoBag b.2

/-- The bag is a plain one. -/
def bagIsPlain (bag : ℕ) : Bool := (player.GetBagByPos mgr bag).any (·.2.isPlainContainer)

/-- The places in a bag. -/
def bagPlaces (bag : ℕ) (merge : Bool) (skip_slot : ℕ) : List (ℕ × ℕ) :=
  player.slotPlaces mgr proto pSrcItem merge bag (· = skip_slot)
    (slotRange 0 (player.GetBagSize mgr bag))

/-- The places in the bags, either the plain ones or the others. -/
def ownBagPlaces (merge non_specialized : Bool) (skip_bag skip_slot : ℕ) : List (ℕ × ℕ) := bagSlots.flatMap fun bag ↦
    if bag ≠ skip_bag ∧ player.bagIsOpen mgr proto pSrcItem bag ∧ player.bagIsPlain mgr bag = non_specialized then
      player.bagPlaces mgr proto pSrcItem bag merge skip_slot
    else []

variable (bag slot : ℕ)

/-- The places with stacks in the bag that is told. -/
def mergePlacesInSpecificBag : List (ℕ × ℕ) :=
  if proto.Stackable ≠ 1 then
    if bag = INVENTORY_SLOT_BAG_0 then
      player.ownPlaces mgr proto pSrcItem KEYRING_SLOT_START CURRENCYTOKEN_SLOT_END true bag slot ++
      player.ownPlaces mgr proto pSrcItem INVENTORY_SLOT_ITEM_START INVENTORY_SLOT_ITEM_END true bag
        slot
    else player.bagPlaces mgr proto pSrcItem bag true slot
  else []

/-- The free slots of the key ring, and of the currency; for keys in the bag 255 both. -/
def familyPlaces (both : Bool) : List (ℕ × ℕ) :=
  if proto.hasFamily BAG_FAMILY_MASK_KEYS then
    player.ownPlaces mgr proto pSrcItem KEYRING_SLOT_START (KEYRING_SLOT_START + GetMaxKeyringSize)
      false bag slot ++
    if both then
      player.ownPlaces mgr proto pSrcItem CURRENCYTOKEN_SLOT_START CURRENCYTOKEN_SLOT_END false bag slot
    else []
  else if proto.IsCurrencyToken then
    player.ownPlaces mgr proto pSrcItem CURRENCYTOKEN_SLOT_START CURRENCYTOKEN_SLOT_END false bag slot
  else []

/-- The free slots in the bag that is told. -/
def freePlacesInSpecificBag : List (ℕ × ℕ) :=
  if bag = INVENTORY_SLOT_BAG_0 then
    player.familyPlaces mgr proto pSrcItem bag slot true ++
    player.ownPlaces mgr proto pSrcItem INVENTORY_SLOT_ITEM_START INVENTORY_SLOT_ITEM_END false bag slot
  else player.bagPlaces mgr proto pSrcItem bag false slot

/-- The places with stacks everywhere. -/
def mergePlaces : List (ℕ × ℕ) :=
  if proto.Stackable ≠ 1 then
    player.ownPlaces mgr proto pSrcItem KEYRING_SLOT_START CURRENCYTOKEN_SLOT_END true bag slot ++
    (player.ownPlaces mgr proto pSrcItem INVENTORY_SLOT_ITEM_START INVENTORY_SLOT_ITEM_END true bag
      slot ++
    ((if proto.BagFamily ≠ 0 then player.ownBagPlaces mgr proto pSrcItem true false bag slot
      else []) ++
    player.ownBagPlaces mgr proto pSrcItem true true bag slot))
  else []

/-- The free slots that are only for some families of items. -/
def freePlacesForFamily : List (ℕ × ℕ) :=
  if proto.BagFamily ≠ 0 then
    player.familyPlaces mgr proto pSrcItem bag slot false ++
    player.ownBagPlaces mgr proto pSrcItem false false bag slot
  else []

/-- The free slots everywhere. -/
def freePlaces : List (ℕ × ℕ) :=
  player.ownPlaces mgr proto pSrcItem INVENTORY_SLOT_ITEM_START INVENTORY_SLOT_ITEM_END false bag
    slot ++
  player.ownBagPlaces mgr proto pSrcItem false true bag slot

/-- What follows the slot that is told, for an item that is not a bag with something in it. -/
def placesAfterSlot : List (ℕ × ℕ) :=
  let anywhere := player.mergePlaces mgr proto pSrcItem bag slot ++
    (player.freePlacesForFamily mgr proto pSrcItem bag slot ++ player.freePlaces mgr proto pSrcItem bag slot)
  if bag = NULL_BAG then anywhere
  -- the search ends at a bag that the item does not go into
  else if bag ≠ INVENTORY_SLOT_BAG_0 ∧ !player.bagIsOpen mgr proto pSrcItem bag then []
  else
    player.mergePlacesInSpecificBag mgr proto pSrcItem bag slot ++
      (player.freePlacesInSpecificBag mgr proto pSrcItem bag slot ++ anywhere)

/-- All the places, in the order of the search. -/
def searchOrder (swap : Bool) : List (ℕ × ℕ) :=
  let after :=
    if pSrcItem.any (·.notEmptyBag) then [] else player.placesAfterSlot mgr proto pSrcItem bag slot
  if bag ≠ NULL_BAG ∧ slot ≠ NULL_SLOT then
    match player.specificSpace mgr proto pSrcItem bag slot swap with
    | .error _ => []
    | .ok space => (makePos bag slot, space) :: after
  else after

/-- The search ends where nothing is written to `no_space_count`: there is a bag with something in it and no
bag that it is told to go to, and it is not looked for among stacks, keys and currency. -/
def leavesSpaceCount : Bool := pSrcItem.any (·.notEmptyBag) ∧ bag = NULL_BAG ∧ proto.Stackable = 1 ∧
    !proto.hasFamily BAG_FAMILY_MASK_KEYS ∧ !proto.IsCurrencyToken

/-! ## Parts of the search -/

variable {mgr player proto pSrcItem bag slot}

/-- A position that is not there yet is filled like a place. -/
theorem toState_push {s : Search} {pos need_space : ℕ} (hcount : s.count ≠ 0) (hpos : ¬ s.isContained pos = true) :
    (s.push pos need_space).toState = s.toState.step (pos, need_space) := by
  have hmem : (pos, need_space).1 ∉ s.toState.taken := by
    intro hmem
    obtain ⟨x, hx, hx'⟩ := List.mem_map.mp hmem
    exact hpos (List.any_eq_true.mpr ⟨x, hx, decide_eq_true hx'⟩)
  rw [State.step_of_not_mem hcount hmem]
  rfl

theorem step_of_isContained {s : Search} {pos need_space : ℕ} (hpos : s.isContained pos = true) :
    s.toState.step (pos, need_space) = s.toState := by
  refine State.step_of_mem ?_
  obtain ⟨x, hx, heq⟩ := List.any_eq_true.mp hpos
  exact List.mem_map.mpr ⟨x, hx, of_decide_eq_true heq⟩

/-- **A loop over slots** fills the places in them. -/
theorem searchSlots_toState {merge : Bool} {skip : ℕ → Bool} {slots : List ℕ} {s : Search} (hcount : s.count ≠ 0) :
    (player.searchSlots mgr proto pSrcItem merge bag skip slots s).toState =
      s.toState.fill (player.slotPlaces mgr proto pSrcItem merge bag skip slots) := by
  induction slots generalizing s with
  | nil => rfl
  | cons slot slots ih =>
    rw [searchSlots, slotPlaces]
    by_cases hskip : skip slot = true
    · simp [hskip, ih hcount, slotPlaces]
    rw [if_neg hskip, List.filter_cons_of_pos (by simp [hskip])]
    cases hspace : player.slotSpace mgr proto pSrcItem merge bag slot with
    | none =>
      rw [List.filterMap_cons_none (by rw [hspace]; rfl)]
      exact ih hcount
    | some need_space =>
      rw [List.filterMap_cons_some (by rw [hspace]; rfl), State.fill_cons]
      dsimp only
      by_cases hpos : s.isContained (makePos bag slot) = true
      · rw [if_pos hpos, step_of_isContained hpos]
        exact ih hcount
      rw [if_neg hpos, ← toState_push hcount hpos]
      by_cases hzero : (s.push (makePos bag slot) need_space).count = 0
      · rw [if_pos hzero]
        exact (State.fill_of_left_eq_zero hzero _).symm
      · rw [if_neg hzero]
        exact ih hzero

/-- A search fills some places and succeeds. -/
def Fills (search : Search → InventoryResult × Search) (places : List (ℕ × ℕ)) : Prop :=
  ∀ s : Search, s.count ≠ 0 → (search s).1 = .OK ∧ (search s).2.toState = s.toState.fill places

/-- A search fails at once. -/
def Fails (search : Search → InventoryResult × Search) : Prop := ∀ s : Search, (search s).1 ≠ .OK ∧ (search s).2 = s

theorem fills_inInventorySlots (hbag : ¬ pSrcItem.any (·.notEmptyBag) = true) (slot_begin slot_end : ℕ) (merge : Bool) :
    Fills (player.CanStoreItem_InInventorySlots mgr proto pSrcItem slot_begin slot_end merge bag slot)
      (player.ownPlaces mgr proto pSrcItem slot_begin slot_end merge bag slot) := by
  intro s hcount
  rw [CanStoreItem_InInventorySlots, if_neg hbag]
  exact ⟨rfl, searchSlots_toState hcount⟩

theorem fails_inInventorySlots (hbag : pSrcItem.any (·.notEmptyBag) = true) (slot_begin slot_end : ℕ) (merge : Bool) :
    Fails (player.CanStoreItem_InInventorySlots mgr proto pSrcItem slot_begin slot_end merge bag slot) := by
  intro s
  rw [CanStoreItem_InInventorySlots, if_pos hbag]
  exact ⟨InventoryResult.noConfusion, rfl⟩

theorem fails_inBag_notEmpty (hbag : pSrcItem.any (·.notEmptyBag) = true) (i : ℕ)
    (merge non_specialized : Bool) (skip_bag : ℕ) :
    Fails (player.CanStoreItem_InBag mgr proto pSrcItem i merge non_specialized skip_bag slot) := by
  intro s
  rw [CanStoreItem_InBag]
  split_ifs
  · exact ⟨InventoryResult.noConfusion, rfl⟩
  · cases player.GetBagByPos mgr i with
    | none => exact ⟨InventoryResult.noConfusion, rfl⟩
    | some b =>
      dsimp only
      split_ifs <;> exact ⟨InventoryResult.noConfusion, rfl⟩

variable (mgr player proto slot) in
theorem inBag_spec (hbag : ¬ pSrcItem.any (·.notEmptyBag) = true) (i : ℕ)
    (merge non_specialized : Bool) (skip_bag : ℕ) :
    if i ≠ skip_bag ∧ player.bagIsOpen mgr proto pSrcItem i = true ∧ player.bagIsPlain mgr i = non_specialized then
      Fills (player.CanStoreItem_InBag mgr proto pSrcItem i merge non_specialized skip_bag slot)
        (player.bagPlaces mgr proto pSrcItem i merge slot)
    else
      Fails (player.CanStoreItem_InBag mgr proto pSrcItem i merge non_specialized skip_bag slot) := by
  have hopen : player.bagIsOpen mgr proto pSrcItem i =
      (player.GetBagByPos mgr i).any fun b ↦ !b.1.isItem pSrcItem && proto.ItemCanGoIntoBag b.2 := rfl
  have hplain : player.bagIsPlain mgr i = (player.GetBagByPos mgr i).any (·.2.isPlainContainer) := rfl
  by_cases hskip : i = skip_bag
  · rw [if_neg fun h ↦ h.1 hskip]
    intro s
    rw [CanStoreItem_InBag, if_pos hskip]
    exact ⟨InventoryResult.noConfusion, rfl⟩
  cases hget : player.GetBagByPos mgr i with
  | none =>
    rw [hget] at hopen
    rw [if_neg fun h ↦ by rw [hopen] at h; cases h.2.1]
    intro s
    rw [CanStoreItem_InBag, if_neg hskip, hget]
    exact ⟨InventoryResult.noConfusion, rfl⟩
  | some b =>
    rw [hget, Option.any_some] at hopen hplain
    by_cases hgood : i ≠ skip_bag ∧ player.bagIsOpen mgr proto pSrcItem i = true ∧
        player.bagIsPlain mgr i = non_specialized
    · rw [if_pos hgood]
      obtain ⟨-, hisOpen, hkind⟩ := hgood
      rw [hopen, Bool.and_eq_true, Bool.not_eq_true'] at hisOpen
      rw [hplain] at hkind
      intro s hcount
      rw [CanStoreItem_InBag, if_neg hskip, hget]
      dsimp only
      rw [if_neg (by simp [hisOpen.1]), if_neg hbag, if_neg (by simp [hkind]), if_neg (by simp [hisOpen.2])]
      exact ⟨rfl, searchSlots_toState hcount⟩
    · rw [if_neg hgood]
      intro s
      rw [CanStoreItem_InBag, if_neg hskip, hget]
      dsimp only
      split_ifs with hself hkind hgoes
      · exact ⟨InventoryResult.noConfusion, rfl⟩
      · exact ⟨InventoryResult.noConfusion, rfl⟩
      · exact ⟨InventoryResult.noConfusion, rfl⟩
      · refine absurd ⟨hskip, ?_, ?_⟩ hgood
        · rw [hopen]
          simpa [hself] using hgoes
        · rw [hplain]
          exact (not_not.mp hkind).symm

/-- The bag that is told is searched if the item may go into it. -/
theorem fills_inEquippedBag (hbag : ¬ pSrcItem.any (·.notEmptyBag) = true) (htold : bag ≠ NULL_BAG)
    (hopen : player.bagIsOpen mgr proto pSrcItem bag = true) (merge : Bool) :
    Fills (player.CanStoreItem_InEquippedBag mgr proto pSrcItem bag merge slot)
      (player.bagPlaces mgr proto pSrcItem bag merge slot) := by
  intro s hcount
  have hspecial := inBag_spec mgr player proto slot hbag bag merge false NULL_BAG
  have hplain := inBag_spec mgr player proto slot hbag bag merge true NULL_BAG
  rw [CanStoreItem_InEquippedBag]
  cases hkind : player.bagIsPlain mgr bag with
  | false =>
    rw [if_pos ⟨htold, hopen, hkind⟩] at hspecial
    obtain ⟨hok, hstate⟩ := hspecial s hcount
    generalize player.CanStoreItem_InBag mgr proto pSrcItem bag merge false NULL_BAG slot s = r
      at hok hstate ⊢
    obtain ⟨res, s'⟩ := r
    obtain rfl : res = .OK := hok
    exact ⟨rfl, hstate⟩
  | true =>
    rw [if_neg fun h ↦ by rw [hkind] at h; cases h.2.2] at hspecial
    rw [if_pos ⟨htold, hopen, hkind⟩] at hplain
    obtain ⟨hfailed, hsame⟩ := hspecial s
    generalize player.CanStoreItem_InBag mgr proto pSrcItem bag merge false NULL_BAG slot s = r
      at hfailed hsame ⊢
    obtain ⟨res, s'⟩ := r
    obtain rfl : s' = s := hsame
    cases res with
    | OK => exact absurd rfl hfailed
    | _ => exact hplain s' hcount

theorem fails_inEquippedBag
    (hbag : pSrcItem.any (·.notEmptyBag) = true ∨ ¬ player.bagIsOpen mgr proto pSrcItem bag = true)
    (merge : Bool) : Fails (player.CanStoreItem_InEquippedBag mgr proto pSrcItem bag merge slot) := by
  have hfails (non_specialized : Bool) : Fails
      (player.CanStoreItem_InBag mgr proto pSrcItem bag merge non_specialized NULL_BAG slot) := by
    by_cases hnotEmpty : pSrcItem.any (·.notEmptyBag) = true
    · exact fails_inBag_notEmpty hnotEmpty bag merge non_specialized NULL_BAG
    · have hspec := inBag_spec mgr player proto slot hnotEmpty bag merge non_specialized NULL_BAG
      rwa [if_neg fun h ↦ hbag.resolve_left hnotEmpty h.2.1] at hspec
  intro s
  obtain ⟨hfailed, hsame⟩ := hfails false s
  rw [CanStoreItem_InEquippedBag]
  generalize player.CanStoreItem_InBag mgr proto pSrcItem bag merge false NULL_BAG slot s = r
    at hfailed hsame ⊢
  obtain ⟨res, s'⟩ := r
  obtain rfl : s' = s := hsame
  cases res with
  | OK => exact absurd rfl hfailed
  | _ => exact hfails true s'

/-! ## The parts put together -/

variable {no_similar : ℕ} {no_space_count : Option ℕ}

/-- What is answered in the end.  If `unset`, then nothing is written to `no_space_count` when something is
left. -/
structure Answers (no_similar : ℕ) (no_space_count : Option ℕ) (unset : Bool) (filled : State ℕ)
    (answer : StoreAnswer) : Prop where
  dest : answer.dest = filled.put
  ok : answer.result = .OK ↔ filled.left = 0 ∧ no_similar = 0
  space : answer.result ≠ .OK → answer.no_space_count =
    if unset = true ∧ filled.left ≠ 0 then no_space_count
    else no_space_count.map fun _ ↦ uint32 (filled.left + no_similar)

/-- A part of the search, with all that comes after it, fills these places. -/
def Follows (no_similar : ℕ) (no_space_count : Option ℕ) (next : Search → StoreAnswer)
    (places : List (ℕ × ℕ)) (unset : Bool) : Prop :=
  ∀ s : Search, s.count ≠ 0 → Answers no_similar no_space_count unset (s.toState.fill places) (next s)

theorem follows_refuse {res : InventoryResult} (hres : res ≠ .OK) :
    Follows no_similar no_space_count (refuse no_similar no_space_count res) [] false := by
  intro s hcount
  refine ⟨rfl, iff_of_false hres fun h ↦ hcount h.1, fun _ ↦ ?_⟩
  rw [if_neg fun h ↦ by cases h.1]
  rfl

theorem answers_finish {s : Search} (hcount : s.count = 0) (places : List (ℕ × ℕ)) (unset : Bool) :
    Answers no_similar no_space_count unset (s.toState.fill places) (finish no_similar no_space_count s) := by
  have hleft : s.toState.left = 0 := hcount
  rw [State.fill_of_left_eq_zero hleft, finish]
  by_cases hsimilar : no_similar = 0
  · rw [if_pos hsimilar]
    exact ⟨rfl, iff_of_true rfl ⟨hleft, hsimilar⟩, fun h ↦ absurd rfl h⟩
  · rw [if_neg hsimilar]
    refine ⟨rfl, iff_of_false InventoryResult.noConfusion fun h ↦ hsimilar h.2, fun _ ↦ ?_⟩
    rw [if_neg fun h ↦ h.2 hleft]
    rfl

namespace Follows

variable {next : Search → StoreAnswer} {places : List (ℕ × ℕ)} {unset : Bool}

theorem phase {search : Search → InventoryResult × Search} {first : List (ℕ × ℕ)}
    (hsearch : Fills search first) (h : Follows no_similar no_space_count next places unset) :
    Follows no_similar no_space_count (Player.phase no_similar no_space_count search next) (first ++ places) unset := by
  intro s hcount
  obtain ⟨hok, hstate⟩ := hsearch s hcount
  rw [Player.phase, if_neg (not_not.mpr hok), State.fill_append, ← hstate]
  split_ifs with hzero
  · exact answers_finish hzero places unset
  · exact h _ hzero

theorem fails {search : Search → InventoryResult × Search} (hsearch : Fails search) :
    Follows no_similar no_space_count (Player.phase no_similar no_space_count search next) [] false := by
  intro s hcount
  obtain ⟨hfailed, hsame⟩ := hsearch s
  rw [Player.phase, if_pos hfailed, hsame]
  exact follows_refuse hfailed s hcount

/-- A loop over bags adds the places of all those that the item goes into. -/
theorem bagPhase {search : ℕ → Search → InventoryResult × Search} {first : ℕ → List (ℕ × ℕ)}
    (hsearch : ∀ bag, Fills (search bag) (first bag) ∨ Fails (search bag) ∧ first bag = [])
    (h : Follows no_similar no_space_count next places unset) (bags : List ℕ) :
    Follows no_similar no_space_count (Player.bagPhase no_similar no_space_count search next bags)
      (bags.flatMap first ++ places) unset := by
  induction bags with
  | nil => exact h
  | cons bag bags ih =>
    intro s hcount
    rw [Player.bagPhase, List.flatMap_cons, List.append_assoc]
    rcases hsearch bag with hfills | ⟨hfails, hnone⟩
    · obtain ⟨hok, hstate⟩ := hfills s hcount
      rw [if_neg (not_not.mpr hok), State.fill_append, ← hstate]
      split_ifs with hzero
      · exact answers_finish hzero _ unset
      · exact ih _ hzero
    · obtain ⟨hfailed, hsame⟩ := hfails s
      rw [if_pos hfailed, hsame, hnone, List.nil_append]
      exact ih s hcount

theorem bagPhase_fails {search : ℕ → Search → InventoryResult × Search} (hsearch : ∀ bag, Fails (search bag))
    (h : Follows no_similar no_space_count next places unset) (bags : List ℕ) :
    Follows no_similar no_space_count (Player.bagPhase no_similar no_space_count search next bags) places unset := by
  have hnone : bags.flatMap (fun _ ↦ ([] : List (ℕ × ℕ))) = [] := List.flatMap_eq_nil_iff.mpr fun _ _ ↦ rfl
  have hbags := h.bagPhase (fun bag ↦ .inr ⟨hsearch bag, rfl⟩) bags
  simpa [hnone] using hbags

end Follows

/-! ### An item that is no bag with something in it -/

section item

variable {next : Search → StoreAnswer} {places : List (ℕ × ℕ)} {unset : Bool}
variable (hbag : ¬ pSrcItem.any (·.notEmptyBag) = true)

include hbag

theorem follows_ownSlots (slot_begin slot_end : ℕ) (merge : Bool)
    (h : Follows no_similar no_space_count next places unset) :
    Follows no_similar no_space_count
      (player.ownSlots mgr proto pSrcItem no_similar no_space_count bag slot slot_begin slot_end merge next)
      (player.ownPlaces mgr proto pSrcItem slot_begin slot_end merge bag slot ++ places) unset :=
  h.phase (fills_inInventorySlots hbag slot_begin slot_end merge)

theorem follows_ownBags (merge non_specialized : Bool) (h : Follows no_similar no_space_count next places unset) :
    Follows no_similar no_space_count
      (player.ownBags mgr proto pSrcItem no_similar no_space_count bag slot merge non_specialized next)
      (player.ownBagPlaces mgr proto pSrcItem merge non_specialized bag slot ++ places) unset := by
  refine h.bagPhase (fun i ↦ ?_) bagSlots
  have hspec := inBag_spec mgr player proto slot hbag i merge non_specialized bag
  split_ifs at hspec ⊢ with hgood
  · exact .inl hspec
  · exact .inr ⟨hspec, rfl⟩

theorem follows_freeAnywhere : Follows no_similar no_space_count
      (player.freeAnywhere mgr proto pSrcItem no_similar no_space_count bag slot)
      (player.freePlaces mgr proto pSrcItem bag slot) false := by
  have hfull : Follows no_similar no_space_count
      (refuse no_similar no_space_count .INVENTORY_FULL) [] false :=
    follows_refuse InventoryResult.noConfusion
  intro s hcount
  rw [freeAnywhere, if_neg hbag, freePlaces, ← List.append_nil (_ ++ _), List.append_assoc]
  exact follows_ownSlots hbag _ _ false (follows_ownBags hbag false true hfull) s hcount

theorem follows_freeForFamily (h : Follows no_similar no_space_count next places unset) :
    Follows no_similar no_space_count (player.freeForFamily mgr proto pSrcItem no_similar no_space_count bag slot next)
      (player.freePlacesForFamily mgr proto pSrcItem bag slot ++ places) unset := by
  have hbags : Follows no_similar no_space_count
      (player.ownBags mgr proto pSrcItem no_similar no_space_count bag slot false false next) _
      unset := follows_ownBags hbag false false h
  rw [freeForFamily, freePlacesForFamily, familyPlaces]
  by_cases hfamily : proto.BagFamily ≠ 0
  · rw [if_pos hfamily, if_pos hfamily, List.append_assoc, if_neg Bool.false_ne_true, List.append_nil]
    split_ifs
    · exact follows_ownSlots hbag _ _ false hbags
    · exact follows_ownSlots hbag _ _ false hbags
    · exact hbags
  · simpa [hfamily] using h

theorem follows_mergeAnywhere (h : Follows no_similar no_space_count next places unset) :
    Follows no_similar no_space_count (player.mergeAnywhere mgr proto pSrcItem no_similar no_space_count bag slot next)
      (player.mergePlaces mgr proto pSrcItem bag slot ++ places) unset := by
  have hbags : Follows no_similar no_space_count
      (player.ownBags mgr proto pSrcItem no_similar no_space_count bag slot true true next) _
      unset := follows_ownBags hbag true true h
  rw [mergeAnywhere, mergePlaces]
  by_cases hstack : proto.Stackable ≠ 1
  · rw [if_pos hstack, if_pos hstack, List.append_assoc, List.append_assoc, List.append_assoc]
    refine follows_ownSlots hbag _ _ true (follows_ownSlots hbag _ _ true ?_)
    by_cases hfamily : proto.BagFamily ≠ 0
    · rw [if_pos hfamily, if_pos hfamily]
      exact follows_ownBags hbag true false hbags
    · simpa [hfamily] using hbags
  · simpa [hstack] using h

section

variable (htold : bag ≠ NULL_BAG)
  (hopen : bag = INVENTORY_SLOT_BAG_0 ∨ player.bagIsOpen mgr proto pSrcItem bag = true)
  (h : Follows no_similar no_space_count next places unset)
include htold hopen h

theorem follows_freeInSpecificBag : Follows no_similar no_space_count
      (player.freeInSpecificBag mgr proto pSrcItem no_similar no_space_count bag slot next)
      (player.freePlacesInSpecificBag mgr proto pSrcItem bag slot ++ places) unset := by
  rw [freeInSpecificBag, freePlacesInSpecificBag, familyPlaces]
  by_cases hown : bag = INVENTORY_SLOT_BAG_0
  · have hbackpack : Follows no_similar no_space_count
        (player.ownSlots mgr proto pSrcItem no_similar no_space_count bag slot
          INVENTORY_SLOT_ITEM_START INVENTORY_SLOT_ITEM_END false next) _ unset :=
      follows_ownSlots hbag _ _ false h
    rw [if_pos hown, if_pos hown, List.append_assoc, if_pos rfl]
    split_ifs
    · rw [List.append_assoc]
      exact follows_ownSlots hbag _ _ false (follows_ownSlots hbag _ _ false hbackpack)
    · exact follows_ownSlots hbag _ _ false hbackpack
    · exact hbackpack
  · rw [if_neg hown, if_neg hown]
    exact h.phase (fills_inEquippedBag hbag htold (hopen.resolve_left hown) false)

theorem follows_mergeInSpecificBag : Follows no_similar no_space_count
      (player.mergeInSpecificBag mgr proto pSrcItem no_similar no_space_count bag slot next)
      (player.mergePlacesInSpecificBag mgr proto pSrcItem bag slot ++ places) unset := by
  rw [mergeInSpecificBag, mergePlacesInSpecificBag]
  by_cases hstack : proto.Stackable ≠ 1
  · rw [if_pos hstack, if_pos hstack]
    by_cases hown : bag = INVENTORY_SLOT_BAG_0
    · rw [if_pos hown, if_pos hown, List.append_assoc]
      exact follows_ownSlots hbag _ _ true (follows_ownSlots hbag _ _ true h)
    · rw [if_neg hown, if_neg hown]
      exact h.phase (fills_inEquippedBag hbag htold (hopen.resolve_left hown) true)
  · simpa [hstack] using h

end

end item

/-! ### A bag with something in it -/

section notEmptyBag

variable {next : Search → StoreAnswer}
variable (hbag : pSrcItem.any (·.notEmptyBag) = true)

include hbag

theorem follows_ownSlots_notEmpty (slot_begin slot_end : ℕ) (merge : Bool) : Follows no_similar no_space_count
      (player.ownSlots mgr proto pSrcItem no_similar no_space_count bag slot slot_begin slot_end merge next) [] false :=
  Follows.fails (fails_inInventorySlots hbag slot_begin slot_end merge)

/-- Its search for free slots ends without a word, unless it is a key or currency. -/
theorem follows_freeForFamily_notEmpty : Follows no_similar no_space_count
      (player.freeForFamily mgr proto pSrcItem no_similar no_space_count bag slot
        (player.freeAnywhere mgr proto pSrcItem no_similar no_space_count bag slot)) []
      (!proto.hasFamily BAG_FAMILY_MASK_KEYS && !proto.IsCurrencyToken) := by
  have hunset : Follows no_similar no_space_count
      (player.freeAnywhere mgr proto pSrcItem no_similar no_space_count bag slot) [] true := by
    intro s hcount
    rw [freeAnywhere, if_pos hbag]
    refine ⟨rfl, iff_of_false InventoryResult.noConfusion fun h ↦ hcount h.1, fun _ ↦ ?_⟩
    exact (if_pos ⟨rfl, hcount⟩).symm
  rw [freeForFamily]
  by_cases hfamily : proto.BagFamily ≠ 0
  · rw [if_pos hfamily]
    split_ifs with hkeys hcurrency
    · rw [hkeys]
      exact follows_ownSlots_notEmpty hbag _ _ false
    · rw [hcurrency, Bool.and_comm]
      exact follows_ownSlots_notEmpty hbag _ _ false
    · rw [Bool.eq_false_iff.mpr hkeys, Bool.eq_false_iff.mpr hcurrency]
      exact hunset.bagPhase_fails (fun i ↦ fails_inBag_notEmpty hbag i false false bag) bagSlots
  · have hnone (mask : UInt32) : proto.hasFamily mask = false := by
      rw [ItemTemplate.hasFamily, not_not.mp hfamily, UInt32.zero_and]
      rfl
    simpa [hfamily, ItemTemplate.IsCurrencyToken, hnone] using hunset

/-- It is looked for nowhere but in the slot that is told. -/
theorem follows_afterSlot_notEmpty : Follows no_similar no_space_count
      (player.mergeAnywhere mgr proto pSrcItem no_similar no_space_count bag slot
        (player.freeForFamily mgr proto pSrcItem no_similar no_space_count bag slot
          (player.freeAnywhere mgr proto pSrcItem no_similar no_space_count bag slot))) []
      (proto.Stackable = 1 ∧ !proto.hasFamily BAG_FAMILY_MASK_KEYS && !proto.IsCurrencyToken) := by
  rw [mergeAnywhere]
  by_cases hstack : proto.Stackable ≠ 1
  · have hfalse : decide (proto.Stackable = 1 ∧ (!proto.hasFamily BAG_FAMILY_MASK_KEYS &&
        !proto.IsCurrencyToken) = true) = false := decide_eq_false fun h ↦ hstack h.1
    rw [if_pos hstack, hfalse]
    exact follows_ownSlots_notEmpty hbag _ _ true
  · have heq : decide (proto.Stackable = 1 ∧ (!proto.hasFamily BAG_FAMILY_MASK_KEYS &&
        !proto.IsCurrencyToken) = true) =
        (!proto.hasFamily BAG_FAMILY_MASK_KEYS && !proto.IsCurrencyToken) := by
      rw [not_not.mp hstack]
      simp
    rw [if_neg hstack, heq]
    exact follows_freeForFamily_notEmpty hbag

theorem follows_inSpecificBag_notEmpty (next : Search → StoreAnswer) : Follows no_similar no_space_count
      (player.mergeInSpecificBag mgr proto pSrcItem no_similar no_space_count bag slot
        (player.freeInSpecificBag mgr proto pSrcItem no_similar no_space_count bag slot next)) []
      false := by
  have hfree : Follows no_similar no_space_count
      (player.freeInSpecificBag mgr proto pSrcItem no_similar no_space_count bag slot next) []
      false := by
    rw [freeInSpecificBag]
    split_ifs
    · exact follows_ownSlots_notEmpty hbag _ _ false
    · exact follows_ownSlots_notEmpty hbag _ _ false
    · exact follows_ownSlots_notEmpty hbag _ _ false
    · exact Follows.fails (fails_inEquippedBag (.inl hbag) false)
  rw [mergeInSpecificBag]
  split_ifs
  · exact follows_ownSlots_notEmpty hbag _ _ true
  · exact Follows.fails (fails_inEquippedBag (.inl hbag) true)
  · exact hfree

end notEmptyBag

/-! ### The whole search -/

theorem specificSpace_ne_ok {swap : Bool} {res : InventoryResult}
    (h : player.specificSpace mgr proto pSrcItem bag slot swap = .error res) : res ≠ .OK := by
  rw [specificSpace] at h
  by_cases hbag : pSrcItem.any (·.notEmptyBag) = true ∧ (!IsBagPos bag slot) = true
  · rw [if_pos hbag] at h
    cases h
    simp
  rw [if_neg hbag] at h
  cases hother : (player.otherItem mgr pSrcItem bag slot).filter fun _ ↦ !swap with
  | none =>
    rw [hother] at h
    dsimp only at h
    split_ifs at h
    cases h
    simp
  | some item2 =>
    rw [hother] at h
    dsimp only at h
    split_ifs at h with hmerge
    cases h
    exact hmerge

variable (mgr player proto pSrcItem bag slot no_similar no_space_count)

theorem follows_afterSlot : Follows no_similar no_space_count
      (player.afterSlot mgr proto pSrcItem no_similar no_space_count bag slot)
      (if pSrcItem.any (·.notEmptyBag) then []
        else player.placesAfterSlot mgr proto pSrcItem bag slot)
      (leavesSpaceCount proto pSrcItem bag) := by
  rw [afterSlot]
  by_cases hbag : pSrcItem.any (·.notEmptyBag) = true
  · rw [if_pos hbag, leavesSpaceCount]
    by_cases htold : bag = NULL_BAG
    · have hset : decide (pSrcItem.any (·.notEmptyBag) = true ∧ bag = NULL_BAG ∧
          proto.Stackable = 1 ∧ (!proto.hasFamily BAG_FAMILY_MASK_KEYS) = true ∧
          (!proto.IsCurrencyToken) = true) = decide (proto.Stackable = 1 ∧
            (!proto.hasFamily BAG_FAMILY_MASK_KEYS && !proto.IsCurrencyToken) = true) := by
        simp [hbag, htold]
      rw [if_neg (not_not.mpr htold), hset]
      exact follows_afterSlot_notEmpty hbag
    · have hfalse : decide (pSrcItem.any (·.notEmptyBag) = true ∧ bag = NULL_BAG ∧
          proto.Stackable = 1 ∧ (!proto.hasFamily BAG_FAMILY_MASK_KEYS) = true ∧
          (!proto.IsCurrencyToken) = true) = false := decide_eq_false fun h ↦ htold h.2.1
      rw [if_pos htold, hfalse]
      exact follows_inSpecificBag_notEmpty hbag _
  · have hset : leavesSpaceCount proto pSrcItem bag = false := decide_eq_false fun h ↦ hbag h.1
    have hanywhere : Follows no_similar no_space_count
        (player.mergeAnywhere mgr proto pSrcItem no_similar no_space_count bag slot
          (player.freeForFamily mgr proto pSrcItem no_similar no_space_count bag slot
            (player.freeAnywhere mgr proto pSrcItem no_similar no_space_count bag slot))) _ false :=
      follows_mergeAnywhere hbag (follows_freeForFamily hbag (follows_freeAnywhere hbag))
    rw [if_neg hbag, hset, placesAfterSlot]
    by_cases htold : bag = NULL_BAG
    · simpa [htold] using hanywhere
    rw [if_pos htold, if_neg htold]
    by_cases hclosed : bag ≠ INVENTORY_SLOT_BAG_0 ∧ (!player.bagIsOpen mgr proto pSrcItem bag) = true
    · rw [if_pos hclosed]
      have hfails (merge : Bool) :
          Fails (player.CanStoreItem_InEquippedBag mgr proto pSrcItem bag merge slot) :=
        fails_inEquippedBag (.inr (by simpa using hclosed.2)) merge
      rw [mergeInSpecificBag, freeInSpecificBag, if_neg hclosed.1, if_neg hclosed.1]
      split_ifs
      · exact Follows.fails (hfails true)
      · exact Follows.fails (hfails false)
    · have hopen : bag = INVENTORY_SLOT_BAG_0 ∨ player.bagIsOpen mgr proto pSrcItem bag = true := by
        by_contra h
        rw [not_or, Bool.not_eq_true, ← Bool.not_eq_true'] at h
        exact hclosed h
      rw [if_neg hclosed]
      exact follows_mergeInSpecificBag hbag htold hopen
        (follows_freeInSpecificBag hbag htold hopen hanywhere)

theorem inSpecificSlot_spec (swap : Bool) :
    match player.specificSpace mgr proto pSrcItem bag slot swap with
    | .error _ => Fails (player.CanStoreItem_InSpecificSlot mgr proto pSrcItem bag slot swap)
    | .ok space => Fills (player.CanStoreItem_InSpecificSlot mgr proto pSrcItem bag slot swap)
      [(makePos bag slot, space)] := by
  cases hspace : player.specificSpace mgr proto pSrcItem bag slot swap with
  | error res =>
    intro s
    rw [CanStoreItem_InSpecificSlot, hspace]
    exact ⟨specificSpace_ne_ok hspace, rfl⟩
  | ok space =>
    intro s hcount
    rw [CanStoreItem_InSpecificSlot, hspace, State.fill_cons, State.fill_nil]
    refine ⟨rfl, ?_⟩
    split_ifs with hpos
    · exact (step_of_isContained hpos).symm
    · exact toState_push hcount hpos

/-- **The whole search fills the places of `searchOrder`.** -/
theorem follows_storeSearch (swap : Bool) : Follows no_similar no_space_count
      (player.storeSearch mgr proto pSrcItem no_similar no_space_count bag slot swap)
      (player.searchOrder mgr proto pSrcItem bag slot swap)
      (leavesSpaceCount proto pSrcItem bag) := by
  have hafter := follows_afterSlot mgr player proto pSrcItem bag slot no_similar no_space_count
  have hslot := inSpecificSlot_spec mgr player proto pSrcItem bag slot swap
  rw [storeSearch, searchOrder]
  by_cases htold : bag ≠ NULL_BAG ∧ slot ≠ NULL_SLOT
  · have hset : leavesSpaceCount proto pSrcItem bag = false := decide_eq_false fun h ↦ htold.1 h.2.1
    rw [if_pos htold, if_pos htold]
    rw [hset] at hafter ⊢
    cases hspace : player.specificSpace mgr proto pSrcItem bag slot swap with
    | error res =>
      rw [hspace] at hslot
      exact Follows.fails hslot
    | ok space =>
      rw [hspace] at hslot
      exact hafter.phase hslot
  · simpa [htold] using hafter

end Player

end Gundrak.Players
