import Gundrak.Server.ByteBuffer
import Gundrak.Spells.SpellHistory

/-!
# The packets with the cooldowns of a unit

When a player logs in, and when a pet or a vehicle comes under control, the client is sent all cooldowns of
the unit: their count, and for each of them a record of fixed layout.  A record has two times: how long the
cooldown of the category has to run, or else how long that of the spell has.

The two packets are written by two functions that look alike.  For a pet, the record of a cooldown on hold is
left without its times, so that everything behind it is shifted, and the count is a single byte.  For a player,
a cooldown of the category that has nothing left to run is taken for one that runs, and hides the cooldown of
the spell.  Both write the ids of categories, and of items, in 16 bits, and times in 32.

**`cooldownPackets_iff`** says exactly when the client can read the packets back.
-/

namespace Gundrak

open LittleEndian (Field width values)

namespace SpellHistory

/-! ## The source -/

/-- Half a month. -/
def InfinityCooldownDelayCheck : ℤ := milliseconds (15 * 24 * 3600 * 1000)

/-- `duration_cast<milliseconds>(end - now)`. -/
def durationUntil (now end_ : ℤ) : ℤ := (end_ - now).tdiv 1000000

/-- The two times of a record. -/
def writeTimes (cooldown category : ℤ) (packet : ByteBuffer) : Except Failure ByteBuffer := do
  let packet ← packet.appendNumber 4 (uint32 cooldown)
  packet.appendNumber 4 (uint32 category)

def writePetCooldown (now : ℤ) (packet : ByteBuffer) (spellCooldown : UInt32 × CooldownEntry) :
    Except Failure ByteBuffer := do
  let packet ← packet.appendNumber 4 spellCooldown.1.toNat
  let packet ← packet.appendNumber 2 spellCooldown.2.CategoryId.toNat
  if spellCooldown.2.OnHold then return packet
  else
    let cooldownDuration := durationUntil now spellCooldown.2.CooldownEnd
    let categoryDuration := durationUntil now spellCooldown.2.CategoryEnd
    if cooldownDuration ≤ 0 then writeTimes 0 0 packet
    else if categoryDuration > 0 then writeTimes 0 categoryDuration packet
    else writeTimes cooldownDuration 0 packet

def writePlayerCooldown (now : ℤ) (packet : ByteBuffer) (spellCooldown : UInt32 × CooldownEntry) :
    Except Failure ByteBuffer := do
  let packet ← packet.appendNumber 4 spellCooldown.1.toNat
  let packet ← packet.appendNumber 2 spellCooldown.2.ItemId.toNat
  let packet ← packet.appendNumber 2 spellCooldown.2.CategoryId.toNat
  let cooldownDuration := durationUntil now spellCooldown.2.CooldownEnd
  let categoryDuration := durationUntil now spellCooldown.2.CategoryEnd
  -- send infinity cooldown in special format
  if spellCooldown.2.CooldownEnd ≥ now + InfinityCooldownDelayCheck then writeTimes 1 0x80000000 packet
  else if cooldownDuration ≤ 0 then writeTimes 0 0 packet
  else if categoryDuration ≥ 0 then writeTimes 0 categoryDuration packet
  else writeTimes cooldownDuration 0 packet

/-- `WritePacket<Pet>`, with the pairs of `_spellCooldowns` in the order of the map. -/
def WritePacketPet (_spellCooldowns : List (UInt32 × CooldownEntry)) (now : ℤ) (packet : ByteBuffer) :
    Except Failure ByteBuffer := do
  let packet ← packet.appendNumber 1 _spellCooldowns.length
  _spellCooldowns.foldlM (writePetCooldown now) packet

/-- `WritePacket<Player>`. -/
def WritePacketPlayer (_spellCooldowns : List (UInt32 × CooldownEntry)) (now : ℤ) (packet : ByteBuffer) :
    Except Failure ByteBuffer := do
  let packet ← packet.appendNumber 2 _spellCooldowns.length
  _spellCooldowns.foldlM (writePlayerCooldown now) packet

/-! ## What the packets are to say -/

/-- The times of a record: the cooldown of the category if that runs, or else the cooldown of the spell.
There is none when the cooldown of the spell is over. -/
def due (now : ℤ) (e : CooldownEntry) : ℕ × ℕ :=
  if durationUntil now e.CooldownEnd ≤ 0 then (0, 0)
  else if 0 < durationUntil now e.CategoryEnd then (0, (durationUntil now e.CategoryEnd).toNat)
  else ((durationUntil now e.CooldownEnd).toNat, 0)

/-- An infinite cooldown has a mark of its own, for a player. -/
def isInfinite (now : ℤ) (e : CooldownEntry) : Prop := now + InfinityCooldownDelayCheck ≤ e.CooldownEnd

instance (now : ℤ) (e : CooldownEntry) : Decidable (isInfinite now e) := inferInstanceAs (Decidable (_ ≤ _))

def duePlayer (now : ℤ) (e : CooldownEntry) : ℕ × ℕ := if isInfinite now e then (1, 0x80000000) else due now e

/-- A record for a pet: the spell, its category and the times. -/
def petLayout : List ℕ := [4, 2, 4, 4]

/-- A record for a player has the item besides. -/
def playerLayout : List ℕ := [4, 2, 2, 4, 4]

def petRecord (now : ℤ) (c : UInt32 × CooldownEntry) : List ℕ :=
  [c.1.toNat, c.2.CategoryId.toNat, (due now c.2).1, (due now c.2).2]

def playerRecord (now : ℤ) (c : UInt32 × CooldownEntry) : List ℕ :=
  [c.1.toNat, c.2.ItemId.toNat, c.2.CategoryId.toNat, (duePlayer now c.2).1, (duePlayer now c.2).2]

/-! ## When they say it -/

/-- A cooldown of a pet that its record can hold. -/
structure PetEncodable (now : ℤ) (e : CooldownEntry) : Prop where
  onHold : e.OnHold = false
  category : e.CategoryId.toNat < 2 ^ 16
  times : (due now e).1 < 2 ^ 32 ∧ (due now e).2 < 2 ^ 32

/-- A cooldown of a player that its record can hold. -/
structure PlayerEncodable (now : ℤ) (e : CooldownEntry) : Prop where
  item : e.ItemId.toNat < 2 ^ 16
  category : e.CategoryId.toNat < 2 ^ 16
  times : ¬ isInfinite now e → 0 < durationUntil now e.CooldownEnd →
    durationUntil now e.CategoryEnd ≠ 0 ∧ durationUntil now e.CategoryEnd < 2 ^ 32

/-- The buffer takes this many records behind what is in it, the last of their numbers included. -/
def Room (before : List UInt8) (w : ℕ) (layout : List ℕ) (n : ℕ) : Prop :=
  before.length + (if n = 0 then 0 else w + layout.sum * n - 4) < 10000000

variable {now : ℤ} {e : CooldownEntry} {c : UInt32 × CooldownEntry}

/-! ### The fields of a record -/

/-- The two times as fields. -/
def timeFields (times : ℤ × ℤ) : List Field := [(4, uint32 times.1), (4, uint32 times.2)]

/-- The times that are written for a pet. -/
def petTimes (now : ℤ) (e : CooldownEntry) : ℤ × ℤ :=
  if durationUntil now e.CooldownEnd ≤ 0 then (0, 0)
  else if 0 < durationUntil now e.CategoryEnd then (0, durationUntil now e.CategoryEnd)
  else (durationUntil now e.CooldownEnd, 0)

/-- The times that are written for a player. -/
def playerTimes (now : ℤ) (e : CooldownEntry) : ℤ × ℤ :=
  if now + InfinityCooldownDelayCheck ≤ e.CooldownEnd then (1, 0x80000000)
  else if durationUntil now e.CooldownEnd ≤ 0 then (0, 0)
  else if 0 ≤ durationUntil now e.CategoryEnd then (0, durationUntil now e.CategoryEnd)
  else (durationUntil now e.CooldownEnd, 0)

def petFields (now : ℤ) (c : UInt32 × CooldownEntry) : List Field :=
  [(4, c.1.toNat), (2, c.2.CategoryId.toNat)] ++ if c.2.OnHold then [] else timeFields (petTimes now c.2)

def playerFields (now : ℤ) (c : UInt32 × CooldownEntry) : List Field :=
  [(4, c.1.toNat), (2, c.2.ItemId.toNat), (2, c.2.CategoryId.toNat)] ++ timeFields (playerTimes now c.2)

theorem writeTimes_eq (cooldown category : ℤ) (packet : ByteBuffer) :
    writeTimes cooldown category packet = ByteBuffer.appendFields (timeFields (cooldown, category)) packet := by
  rw [writeTimes, timeFields, ByteBuffer.appendFields_cons]
  refine bind_congr fun packet ↦ ?_
  rw [ByteBuffer.appendFields_cons]
  exact (bind_pure _).symm

section

variable (now : ℤ) (packet : ByteBuffer) (c : UInt32 × CooldownEntry)

theorem writePetCooldown_eq : writePetCooldown now packet c = ByteBuffer.appendFields (petFields now c) packet := by
  rw [writePetCooldown, petFields, ByteBuffer.appendFields_append, ByteBuffer.appendFields_cons, bind_assoc]
  refine bind_congr fun packet ↦ ?_
  rw [ByteBuffer.appendFields_cons, bind_assoc]
  refine bind_congr fun packet ↦ ?_
  rw [ByteBuffer.appendFields_nil]
  simp only [writeTimes_eq, petTimes]
  split
  · rfl
  · split
    · rfl
    · split <;> rfl

theorem writePlayerCooldown_eq :
    writePlayerCooldown now packet c = ByteBuffer.appendFields (playerFields now c) packet := by
  rw [writePlayerCooldown, playerFields, ByteBuffer.appendFields_append, ByteBuffer.appendFields_cons, bind_assoc]
  refine bind_congr fun packet ↦ ?_
  rw [ByteBuffer.appendFields_cons, bind_assoc]
  refine bind_congr fun packet ↦ ?_
  rw [ByteBuffer.appendFields_cons, bind_assoc]
  refine bind_congr fun packet ↦ ?_
  rw [ByteBuffer.appendFields_nil]
  simp only [writeTimes_eq, playerTimes, ge_iff_le]
  split
  · rfl
  · split
    · rfl
    · split <;> rfl

end

/-! ### Their numbers -/

theorem uint32_mod_eq_iff {x : ℤ} (hx : 0 ≤ x) : uint32 x % 256 ^ 4 = x.toNat ↔ x.toNat < 2 ^ 32 := by
  rw [uint32]
  omega

theorem mod_eq_self_iff {m n : ℕ} (hm : 0 < m) : n % m = n ↔ n < m := ⟨fun h ↦ h ▸ Nat.mod_lt n hm, Nat.mod_eq_of_lt⟩

theorem toNat_petTimes (now : ℤ) (e : CooldownEntry) :
    due now e = ((petTimes now e).1.toNat, (petTimes now e).2.toNat) ∧
      0 ≤ (petTimes now e).1 ∧ 0 ≤ (petTimes now e).2 := by
  rw [due, petTimes]
  split
  · exact ⟨rfl, le_rfl, le_rfl⟩
  · rename_i hruns
    split
    · rename_i hcategory
      exact ⟨rfl, le_rfl, hcategory.le⟩
    · exact ⟨rfl, (not_le.mp hruns).le, le_rfl⟩

theorem values_petFields_iff (hhold : c.2.OnHold = false) :
    values (petFields now c) = petRecord now c ↔ PetEncodable now c.2 := by
  obtain ⟨hdue, hfirst, hsecond⟩ := toNat_petTimes now c.2
  have hspell : c.1.toNat % 256 ^ 4 = c.1.toNat := Nat.mod_eq_of_lt c.1.toNat_lt
  have hcategory : c.2.CategoryId.toNat % 256 ^ 2 = c.2.CategoryId.toNat ↔ c.2.CategoryId.toNat < 2 ^ 16 :=
    mod_eq_self_iff (by decide)
  have hvalues : values (petFields now c) = [c.1.toNat % 256 ^ 4, c.2.CategoryId.toNat % 256 ^ 2,
      uint32 (petTimes now c.2).1 % 256 ^ 4, uint32 (petTimes now c.2).2 % 256 ^ 4] := by
    rw [petFields, hhold]
    rfl
  rw [hvalues, petRecord, hdue, hspell]
  simp only [List.cons.injEq, true_and, and_true, hcategory, uint32_mod_eq_iff hfirst, uint32_mod_eq_iff hsecond]
  constructor
  · rintro ⟨hcat, htimes⟩
    exact ⟨hhold, hcat, hdue.symm ▸ htimes⟩
  · intro h
    have htimes := h.times
    rw [hdue] at htimes
    exact ⟨h.category, htimes⟩

/-- A cooldown of a player that runs and is not infinite is not that long. -/
theorem durationUntil_lt (hinf : ¬ isInfinite now e) : durationUntil now e.CooldownEnd < 2 ^ 32 := by
  have hle : e.CooldownEnd - now ≤ InfinityCooldownDelayCheck := by
    rw [isInfinite] at hinf
    omega
  calc durationUntil now e.CooldownEnd ≤ InfinityCooldownDelayCheck.tdiv 1000000 := Int.tdiv_le_tdiv (by decide) hle
    _ < 2 ^ 32 := by decide

/-- What a player is sent for the times is what is due, unless the cooldown of the category has nothing left to
run, or too much. -/
theorem playerTimes_iff (now : ℤ) (e : CooldownEntry) : (uint32 (playerTimes now e).1 % 256 ^ 4 = (duePlayer now e).1 ∧
      uint32 (playerTimes now e).2 % 256 ^ 4 = (duePlayer now e).2) ↔
    (¬ isInfinite now e → 0 < durationUntil now e.CooldownEnd →
      durationUntil now e.CategoryEnd ≠ 0 ∧ durationUntil now e.CategoryEnd < 2 ^ 32) := by
  have hzero : uint32 0 % 256 ^ 4 = 0 := by decide
  rw [playerTimes, duePlayer, due]
  rcases em (isInfinite now e) with hinf | hinf
  · have hend : now + InfinityCooldownDelayCheck ≤ e.CooldownEnd := hinf
    rw [if_pos hend, if_pos hinf]
    exact iff_of_true ⟨by decide, by decide⟩ fun h ↦ absurd hinf h
  have hend : ¬ now + InfinityCooldownDelayCheck ≤ e.CooldownEnd := hinf
  rw [if_neg hend, if_neg hinf]
  rcases le_or_gt (durationUntil now e.CooldownEnd) 0 with hover | hruns
  · rw [if_pos hover, if_pos hover]
    exact iff_of_true ⟨hzero, hzero⟩ fun _ h ↦ absurd h (not_lt.mpr hover)
  rw [if_neg (not_le.mpr hruns), if_neg (not_le.mpr hruns)]
  have hcooldown := (uint32_mod_eq_iff hruns.le).mpr (by have := durationUntil_lt hinf; omega)
  rcases lt_trichotomy (durationUntil now e.CategoryEnd) 0 with hneg | heq | hpos
  · rw [if_neg (not_le.mpr hneg), if_neg hneg.not_gt]
    exact iff_of_true ⟨hcooldown, hzero⟩ fun _ _ ↦ ⟨hneg.ne, by omega⟩
  · rw [if_pos heq.ge, if_neg heq.le.not_gt]
    refine iff_of_false (fun h ↦ ?_) fun h ↦ (h hinf hruns).1 heq
    have hhidden := h.1
    rw [hzero] at hhidden
    omega
  · rw [if_pos hpos.le, if_pos hpos]
    simp only [hzero, uint32_mod_eq_iff hpos.le, true_and]
    constructor
    · exact fun h _ _ ↦ ⟨hpos.ne', by omega⟩
    · intro h
      have hlt := (h hinf hruns).2
      omega

theorem values_playerFields_iff : values (playerFields now c) = playerRecord now c ↔ PlayerEncodable now c.2 := by
  have hspell : c.1.toNat % 256 ^ 4 = c.1.toNat := Nat.mod_eq_of_lt c.1.toNat_lt
  have hshort : ∀ n : ℕ, n % 256 ^ 2 = n ↔ n < 2 ^ 16 := fun n ↦ mod_eq_self_iff (by decide)
  have hvalues : values (playerFields now c) = [c.1.toNat % 256 ^ 4, c.2.ItemId.toNat % 256 ^ 2,
      c.2.CategoryId.toNat % 256 ^ 2, uint32 (playerTimes now c.2).1 % 256 ^ 4,
      uint32 (playerTimes now c.2).2 % 256 ^ 4] := rfl
  rw [hvalues, playerRecord, hspell]
  simp only [List.cons.injEq, true_and, and_true, hshort, playerTimes_iff]
  constructor
  · rintro ⟨hitem, hcategory, htimes⟩
    exact ⟨hitem, hcategory, htimes⟩
  · rintro ⟨hitem, hcategory, htimes⟩
    exact ⟨hitem, hcategory, htimes⟩

/-! ### The packets as fields -/

section

variable (_spellCooldowns : List (UInt32 × CooldownEntry)) (now : ℤ) (packet : ByteBuffer)

theorem writePacketPet_eq : WritePacketPet _spellCooldowns now packet =
      ByteBuffer.appendFields ((1, (_spellCooldowns.map (petFields now)).length) ::
        (_spellCooldowns.map (petFields now)).flatten) packet := by
  rw [WritePacketPet, ByteBuffer.appendFields_cons, List.length_map]
  exact bind_congr (ByteBuffer.foldlM_appendFields (writePetCooldown_eq now) _spellCooldowns)

theorem writePacketPlayer_eq : WritePacketPlayer _spellCooldowns now packet =
      ByteBuffer.appendFields ((2, (_spellCooldowns.map (playerFields now)).length) ::
        (_spellCooldowns.map (playerFields now)).flatten) packet := by
  rw [WritePacketPlayer, ByteBuffer.appendFields_cons, List.length_map]
  exact bind_congr (ByteBuffer.foldlM_appendFields (writePlayerCooldown_eq now) _spellCooldowns)

end

/-- The record of a pet has its layout if the cooldown is not on hold, or else it is too short. -/
theorem map_fst_petFields (now : ℤ) (c : UInt32 × CooldownEntry) :
    (petFields now c).map Prod.fst = if c.2.OnHold then [4, 2] else petLayout := by
  rw [petFields]
  split <;> rfl

theorem map_fst_petFields_iff : (petFields now c).map Prod.fst = petLayout ↔ c.2.OnHold = false := by
  rw [map_fst_petFields]
  cases c.2.OnHold
  · exact iff_of_true rfl rfl
  · exact iff_of_false (by decide) (by decide)

theorem width_petFields (now : ℤ) (c : UInt32 × CooldownEntry) :
    width (petFields now c) = if c.2.OnHold then 6 else petLayout.sum := by
  rw [width, map_fst_petFields]
  split <;> rfl

theorem map_fst_playerFields (now : ℤ) (c : UInt32 × CooldownEntry) :
    (playerFields now c).map Prod.fst = playerLayout := rfl

/-- The client reads a packet back that has been appended behind `before`. -/
def PetDecodable (_spellCooldowns : List (UInt32 × CooldownEntry)) (now : ℤ) (before : List UInt8) : Prop :=
  ByteBuffer.ReadsBack (WritePacketPet _spellCooldowns now) before 1 petLayout (_spellCooldowns.map (petRecord now))

def PlayerDecodable (_spellCooldowns : List (UInt32 × CooldownEntry)) (now : ℤ) (before : List UInt8) : Prop :=
  ByteBuffer.ReadsBack (WritePacketPlayer _spellCooldowns now) before 2 playerLayout
    (_spellCooldowns.map (playerRecord now))

variable {_spellCooldowns : List (UInt32 × CooldownEntry)} {before : List UInt8}

theorem petDecodable_iff : PetDecodable _spellCooldowns now before ↔
    Room before 1 petLayout _spellCooldowns.length ∧ _spellCooldowns.length < 2 ^ 8 ∧
      ∀ c ∈ _spellCooldowns, PetEncodable now c.2 := by
  have hproper : ∀ r ∈ _spellCooldowns.map (petFields now), ByteBuffer.Proper r := by
    refine List.forall_mem_map.mpr fun c _ ↦ ByteBuffer.proper_of_layout (map_fst_petFields now c) ?_
    split <;> decide
  have hle : ∀ r ∈ _spellCooldowns.map (petFields now), width r ≤ petLayout.sum := by
    refine List.forall_mem_map.mpr fun c _ ↦ ?_
    rw [width_petFields]
    split <;> decide
  have hlayout : ∀ r ∈ _spellCooldowns.map (petFields now), width r = petLayout.sum → r.map Prod.fst = petLayout := by
    refine List.forall_mem_map.mpr fun c _ hwidth ↦ ?_
    rw [width_petFields] at hwidth
    rw [map_fst_petFields_iff]
    cases honHold : c.2.OnHold with
    | false => rfl
    | true => rw [honHold] at hwidth; cases hwidth
  have hcount : (_spellCooldowns.map (petRecord now)).length = (_spellCooldowns.map (petFields now)).length := by
    simp
  rw [PetDecodable, ByteBuffer.readsBack_iff (writePacketPet_eq _spellCooldowns now) one_pos hproper hcount hle
    hlayout, List.map_map, List.map_inj_left, List.forall_mem_map, List.length_map]
  have hcontents : ((∀ c ∈ _spellCooldowns, (petFields now c).map Prod.fst = petLayout) ∧
      ∀ c ∈ _spellCooldowns, (values ∘ petFields now) c = petRecord now c) ↔
      ∀ c ∈ _spellCooldowns, PetEncodable now c.2 := by
    rw [← forall₂_and]
    refine forall₂_congr fun c _ ↦ ?_
    rw [map_fst_petFields_iff]
    exact ⟨fun h ↦ (values_petFields_iff h.1).mp h.2, fun h ↦ ⟨h.onHold, (values_petFields_iff h.onHold).mpr h⟩⟩
  rw [hcontents]
  refine and_congr_left fun ⟨_, hencodable⟩ ↦ ?_
  have hfull : ∀ r ∈ _spellCooldowns.map (petFields now), r.map Prod.fst = [4, 2, 4] ++ [4] :=
    List.forall_mem_map.mpr fun c hc ↦ map_fst_petFields_iff.mpr (hencodable c hc).onHold
  rw [LittleEndian.width_dropLast hfull, List.length_map]
  exact Iff.rfl

theorem playerDecodable_iff : PlayerDecodable _spellCooldowns now before ↔
    Room before 2 playerLayout _spellCooldowns.length ∧ _spellCooldowns.length < 2 ^ 16 ∧
      ∀ c ∈ _spellCooldowns, PlayerEncodable now c.2 := by
  have hfull : ∀ r ∈ _spellCooldowns.map (playerFields now), r.map Prod.fst = playerLayout :=
    List.forall_mem_map.mpr fun c _ ↦ map_fst_playerFields now c
  have hlast : ∀ r ∈ _spellCooldowns.map (playerFields now), r.map Prod.fst = [4, 2, 2, 4] ++ [4] := hfull
  have hproper : ∀ r ∈ _spellCooldowns.map (playerFields now), ByteBuffer.Proper r :=
    fun r hr ↦ ByteBuffer.proper_of_layout (hfull r hr) (by decide)
  have hle : ∀ r ∈ _spellCooldowns.map (playerFields now), width r ≤ playerLayout.sum := by
    intro r hr
    rw [width, hfull r hr]
  have hcount : (_spellCooldowns.map (playerRecord now)).length = (_spellCooldowns.map (playerFields now)).length := by
    simp
  rw [PlayerDecodable, ByteBuffer.readsBack_iff (writePacketPlayer_eq _spellCooldowns now) two_pos hproper hcount
    hle (fun r hr _ ↦ hfull r hr), List.map_map, List.map_inj_left, LittleEndian.width_dropLast hlast,
    List.length_map]
  have hcontents : ((∀ r ∈ _spellCooldowns.map (playerFields now), r.map Prod.fst = playerLayout) ∧
      ∀ c ∈ _spellCooldowns, (values ∘ playerFields now) c = playerRecord now c) ↔
      ∀ c ∈ _spellCooldowns, PlayerEncodable now c.2 := by
    rw [and_iff_right hfull]
    exact forall₂_congr fun c _ ↦ values_playerFields_iff
  rw [hcontents]
  exact Iff.rfl

/-- **The client reads the packets back** exactly when there is room for them, the count fits in its one or two
bytes, and every cooldown can be held by its record.  For a pet, that means it is not on hold; for a player,
that the cooldown of its category does not end just now. -/
theorem cooldownPackets_iff (_spellCooldowns : List (UInt32 × CooldownEntry)) (now : ℤ) (before : List UInt8) :
    (PetDecodable _spellCooldowns now before ↔
      Room before 1 petLayout _spellCooldowns.length ∧ _spellCooldowns.length < 2 ^ 8 ∧
        ∀ c ∈ _spellCooldowns, PetEncodable now c.2) ∧
    (PlayerDecodable _spellCooldowns now before ↔
      Room before 2 playerLayout _spellCooldowns.length ∧ _spellCooldowns.length < 2 ^ 16 ∧
        ∀ c ∈ _spellCooldowns, PlayerEncodable now c.2) :=
  ⟨petDecodable_iff, playerDecodable_iff⟩

/-- A cooldown on hold and one that runs, for a minute, as a pet can have them. -/
def onHoldCooldowns : List (UInt32 × CooldownEntry) :=
  [(24450, ⟨24450, InfinityCooldownDelay, 0, 0, 0, true⟩), (17253, ⟨17253, milliseconds 60000, 0, 0, 0, false⟩)]

/-- The packet that a pet's owner is sent then cannot be read back. -/
theorem not_cooldownPackets_onHold : ¬ ∀ _spellCooldowns now before,
    PetDecodable _spellCooldowns now before ∧ PlayerDecodable _spellCooldowns now before := by
  intro h
  have hencodable := (petDecodable_iff.mp (h onHoldCooldowns 0 []).1).2.2
  exact Bool.noConfusion (hencodable _ List.mem_cons_self).onHold

end SpellHistory

end Gundrak
