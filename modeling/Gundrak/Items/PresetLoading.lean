import Gundrak.Items.Transmogrification

/-!
# Presets after a save and a load

What `OnSave` writes is read back as it was: a name that passes the check has nothing in it that ends a string
in the statement (`readStatement_statement`), and the numbers of the slots are read up to the blank after them
(`pairs_setData`).  So a save and a load give the presets again (`load_save`).

The loop over the rows ends at the first preset without an entry that exists.  **`presetsRestored_iff`** says that the
save is sound and the others are still loaded exactly if no preset that could be loaded comes after one that
cannot.  Where templates stay, no stored preset is without an entry (`presetsSound_of_reachable`).
-/

open Std (ExtTreeMap)

namespace Gundrak.Transmog

variable {GetItemTemplate : UInt32 → Bool}

/-! ## What should hold -/

/-- What a preset is that a player can build. -/
structure PresetData.Valid (GetItemTemplate : UInt32 → Bool) (p : PresetData) : Prop where
  name : validName p.name = true
  nonempty : ∃ (slot : UInt8) (entry : UInt32), p.slotMap[slot]? = some entry
  entries : ∀ (slot : UInt8) (entry : UInt32), p.slotMap[slot]? = some entry →
    slot.toNat < EQUIPMENT_SLOT_END ∧ GetItemTemplate entry = true

/-- Presets that a player can build. -/
def Built (GetItemTemplate : UInt32 → Bool) (presetMap : PresetMapType) : Prop :=
  ∀ (id : UInt8) (p : PresetData), presetMap[id]? = some p → p.Valid GetItemTemplate

/-- A save and a load give the presets again, for all presets and rows. -/
def Survives (GetItemTemplate : UInt32 → Bool) (table : SetTable) (owner : ObjectGuid) : Prop :=
  ∀ presetMap, Built GetItemTemplate presetMap → ∀ result, IsResult (OnSave table owner presetMap) owner result →
    (LoadPlayerSets GetItemTemplate result).1 = presetMap

/-- A row has an entry that exists, in a slot. -/
def HasEntry (GetItemTemplate : UInt32 → Bool) (row : SetRow) : Prop :=
  ∃ p ∈ pairs row, p.1 < EQUIPMENT_SLOT_END ∧ GetItemTemplate (UInt32.ofNat p.2) = true

instance decidableHasEntry (row : SetRow) : Decidable (HasEntry GetItemTemplate row) :=
  inferInstanceAs (Decidable (∃ p ∈ pairs row, p.1 < EQUIPMENT_SLOT_END ∧ _))

/-- The preset of a row. -/
def loadPreset (GetItemTemplate : UInt32 → Bool) (row : SetRow) : PresetData :=
  ⟨row.SetName, (pairs row).foldl (loadPair GetItemTemplate) ∅⟩

/-- Every stored preset with an entry that exists is loaded. -/
def LoadsRemaining (GetItemTemplate : UInt32 → Bool) (result : List (UInt8 × SetRow)) : Prop :=
  ∀ p ∈ result, HasEntry GetItemTemplate p.2 →
    (LoadPlayerSets GetItemTemplate result).1[p.1]? = some (loadPreset GetItemTemplate p.2)

/-- No preset that could be loaded comes after one that cannot. -/
def NoneAfter (GetItemTemplate : UInt32 → Bool) (result : List (UInt8 × SetRow)) : Prop :=
  result.Pairwise fun p q ↦ HasEntry GetItemTemplate q.2 → HasEntry GetItemTemplate p.2

instance decidableNoneAfter (result : List (UInt8 × SetRow)) : Decidable (NoneAfter GetItemTemplate result) :=
  inferInstanceAs (Decidable (result.Pairwise _))

/-! ## Writing entries into a map -/

/-- Entries with different keys are in the map into which they are written one after the other. -/
theorem get_foldl_insert {β : Type} {l : List (UInt8 × β)} (hl : (l.map Prod.fst).Nodup)
    (m : ExtTreeMap UInt8 β compare) (k : UInt8) (v : β) :
    (l.foldl (fun m p ↦ m.insert p.1 p.2) m)[k]? = some v ↔ (k, v) ∈ l ∨ (∀ p ∈ l, p.1 ≠ k) ∧ m[k]? = some v := by
  induction l generalizing m with
  | nil => simp
  | cons p l ih =>
    obtain ⟨hp, hl⟩ := List.nodup_cons.mp hl
    rw [List.foldl_cons, ih hl, TreeMap.get_insert, List.mem_cons, List.forall_mem_cons]
    by_cases hk : p.1 = k
    · have hnot : ∀ v', (k, v') ∉ l := fun v' hmem ↦ hp (hk ▸ List.mem_map_of_mem (f := Prod.fst) hmem)
      have hall : ∀ q ∈ l, q.1 ≠ k := fun q hq heq ↦ hp (hk.trans heq.symm ▸ List.mem_map_of_mem hq)
      rw [if_pos hk, Option.some_inj]
      constructor
      · rintro (hmem | ⟨_, rfl⟩)
        · exact absurd hmem (hnot v)
        · exact .inl (.inl (hk ▸ rfl))
      · rintro ((heq | hmem) | ⟨⟨hne, _⟩, _⟩)
        · exact .inr ⟨hall, heq ▸ rfl⟩
        · exact absurd hmem (hnot v)
        · exact absurd hk hne
    · have hne : (k, v) ≠ p := fun heq ↦ hk (heq ▸ rfl)
      simp [hk, hne]

/-! ## What is written -/

theorem not_quote_of_allowed {c : Char} (hc : c ∈ allowedcharacters) : c ≠ '"' ∧ c ≠ '\\' := by
  have hall : (allowedcharacters.all fun c ↦ c ≠ '"' ∧ c ≠ '\\') = true := by decide +kernel
  exact of_decide_eq_true (List.all_eq_true.mp hall c hc)

theorem not_quote_of_text {n : ℕ} {c : Char} (hc : c ∈ JoinedNumbers.text n) : c ≠ '"' ∧ c ≠ '\\' := by
  have hdigit := Nat.isDigit_of_mem_toDigits (by omega) (by omega) hc
  constructor
  · rintro rfl
    exact absurd hdigit (by decide)
  · rintro rfl
    exact absurd hdigit (by decide)

theorem not_quote_of_setData (slotMap : PresetslotMapType) : ∀ c ∈ setData slotMap, c ≠ '"' ∧ c ≠ '\\' := by
  intro c hc
  obtain ⟨p, _, hc⟩ := List.mem_flatMap.mp hc
  rcases List.mem_append.mp hc with hc | hc
  · rcases List.mem_append.mp hc with hc | hc
    · exact not_quote_of_text hc
    · rcases List.mem_cons.mp hc with rfl | hc
      · decide
      · exact not_quote_of_text hc
  · rw [List.mem_singleton.mp hc]
    decide

/-- **The statement of a preset** with a valid name is read as it was meant. -/
theorem readStatement_statement {p : PresetData} (hname : validName p.name = true) :
    readStatement (statement p) = some ⟨p.name, setData p.slotMap⟩ := by
  have hallowed : ∀ c ∈ p.name, c ≠ '"' ∧ c ≠ '\\' := fun c hc ↦
    not_quote_of_allowed (of_decide_eq_true (List.all_eq_true.mp (of_decide_eq_true hname).2 c hc))
  have hstatement : statement p =
      '"' :: (p.name ++ '"' :: ',' :: ' ' :: '"' :: (setData p.slotMap ++ '"' :: ')' :: [])) := by
    simp [statement]
  rw [hstatement]
  simp only [readStatement, TextStream.readString_append hallowed (by decide : ',' ≠ '"'),
    TextStream.readString_append (not_quote_of_setData p.slotMap) (by decide : ')' ≠ '"')]

theorem readPairs_blank (fuel : ℕ) (cs : List Char) : readPairs fuel (' ' :: cs) = readPairs fuel cs := by
  cases fuel <;> simp [readPairs, TextStream.readUInt_space]

/-- Pairs that have been written are read as they were. -/
theorem readPairs_flatMap (l : List (UInt8 × UInt32)) {fuel : ℕ} (hfuel : l.length ≤ fuel) :
    readPairs fuel (l.flatMap fun p ↦ JoinedNumbers.text p.1.toNat ++ ' ' :: JoinedNumbers.text p.2.toNat ++ [' ']) =
        l.map fun p ↦ (p.1.toNat, p.2.toNat) := by
  induction l generalizing fuel with
  | nil => cases fuel <;> rfl
  | cons p l ih =>
    obtain ⟨fuel, rfl⟩ := Nat.exists_eq_succ_of_ne_zero (Nat.ne_of_gt (Nat.lt_of_lt_of_le (Nat.succ_pos _) hfuel))
    have hslot : p.1.toNat < 2 ^ 32 := p.1.toNat_lt.trans (by decide)
    have hentry : p.2.toNat < 2 ^ 32 := p.2.toNat_lt
    generalize hrest : (l.flatMap fun p ↦
      JoinedNumbers.text p.1.toNat ++ ' ' :: JoinedNumbers.text p.2.toNat ++ [' ']) = rest at ih
    have htext : ((p :: l).flatMap fun p ↦
        JoinedNumbers.text p.1.toNat ++ ' ' :: JoinedNumbers.text p.2.toNat ++ [' ']) =
          JoinedNumbers.text p.1.toNat ++ ' ' :: (JoinedNumbers.text p.2.toNat ++ ' ' :: rest) := by
      simp [← hrest]
    rw [htext, readPairs, TextStream.readUInt_text hslot (by decide)]
    simp only [TextStream.readUInt_space, TextStream.readUInt_text hentry (by decide : ' '.isDigit = false),
      readPairs_blank]
    simp [ih (Nat.le_of_succ_le_succ hfuel)]

theorem length_le_setData (l : List (UInt8 × UInt32)) : l.length ≤ (l.flatMap fun p ↦
    JoinedNumbers.text p.1.toNat ++ ' ' :: JoinedNumbers.text p.2.toNat ++ [' ']).length := by
  induction l with
  | nil => exact le_rfl
  | cons p l ih =>
    rw [List.flatMap_cons, List.length_append, List.length_cons]
    have hpos : 0 < (JoinedNumbers.text p.1.toNat ++ ' ' :: JoinedNumbers.text p.2.toNat ++ [' ']).length :=
      List.length_pos_of_ne_nil (List.append_ne_nil_of_right_ne_nil _ (List.cons_ne_nil _ _))
    omega

/-- **The text of the slots** has the slots. -/
theorem pairs_setData (name : List Char) (slotMap : PresetslotMapType) :
    pairs ⟨name, setData slotMap⟩ = slotMap.toList.map fun p ↦ (p.1.toNat, p.2.toNat) :=
  readPairs_flatMap _ (length_le_setData _)

/-! ## Reading the slots -/

/-- The preset of a row that has been written is the one it was written for. -/
theorem loadPreset_setData {p : PresetData} (hp : p.Valid GetItemTemplate) :
    loadPreset GetItemTemplate ⟨p.name, setData p.slotMap⟩ = p := by
  have hfold : (p.slotMap.toList.map fun q ↦ (q.1.toNat, q.2.toNat)).foldl (loadPair GetItemTemplate) ∅ =
      p.slotMap.toList.foldl (fun m q ↦ m.insert q.1 q.2) ∅ := by
    rw [List.foldl_map]
    refine List.foldl_ext _ _ _ fun m q hq ↦ ?_
    obtain ⟨hslot, hentry⟩ := hp.entries q.1 q.2 (ExtTreeMap.mem_toList_iff_getElem?_eq_some.mp hq)
    simp [loadPair, (not_le.mpr hslot), hentry]
  rw [loadPreset, pairs_setData, hfold]
  congr 1
  refine ExtTreeMap.ext_getElem? fun slot ↦ Option.ext fun entry ↦ ?_
  rw [get_foldl_insert (TreeMap.fst_toList_nodup p.slotMap), ExtTreeMap.mem_toList_iff_getElem?_eq_some]
  exact or_iff_left fun h ↦ absurd (h.2.symm.trans ExtTreeMap.getElem?_empty) (Option.some_ne_none entry)

theorem isEmpty_foldl_loadPair (l : List (ℕ × ℕ)) (slotMap : PresetslotMapType) :
    (l.foldl (loadPair GetItemTemplate) slotMap).isEmpty = true ↔ slotMap.isEmpty = true ∧
      ¬ ∃ p ∈ l, p.1 < EQUIPMENT_SLOT_END ∧ GetItemTemplate (UInt32.ofNat p.2) = true := by
  induction l generalizing slotMap with
  | nil => simp
  | cons p l ih =>
    rw [List.foldl_cons, ih, loadPair, List.exists_mem_cons_iff, not_or]
    by_cases hslot : p.1 < EQUIPMENT_SLOT_END
    · rw [if_neg (not_le.mpr hslot)]
      by_cases hentry : GetItemTemplate (UInt32.ofNat p.2) = true
      · simp [hslot, hentry]
      · simp [hentry]
    · simp [(not_lt.mp hslot), hslot]

/-- The preset of a row is empty exactly if the row has no entry that exists. -/
theorem isEmpty_loadPreset (row : SetRow) :
    (loadPreset GetItemTemplate row).slotMap.isEmpty = true ↔ ¬ HasEntry GetItemTemplate row := by
  rw [loadPreset, isEmpty_foldl_loadPair]
  exact and_iff_right rfl

/-! ## The loop over the rows -/

/-- **The loop** loads the rows up to the first one without an entry that exists. -/
theorem loadRows_eq {rows : List (UInt8 × SetRow)} (hrows : (rows.map Prod.fst).Nodup)
    {presetMap : PresetMapType} (hnew : ∀ p ∈ rows, presetMap[p.1]? = none) :
    (loadRows GetItemTemplate rows presetMap).1 = ((rows.takeWhile fun p ↦ HasEntry GetItemTemplate p.2).map
        fun p ↦ (p.1, loadPreset GetItemTemplate p.2)).foldl (fun m p ↦ m.insert p.1 p.2) presetMap := by
  induction rows generalizing presetMap with
  | nil => rfl
  | cons p rows ih =>
    obtain ⟨id, row⟩ := p
    obtain ⟨hid, hrows⟩ := List.nodup_cons.mp hrows
    obtain ⟨hnone, hnew⟩ := List.forall_mem_cons.mp hnew
    have hslots : (pairs row).foldl (loadPair GetItemTemplate)
        ((presetMap[id]?.map PresetData.slotMap).getD ∅) = (loadPreset GetItemTemplate row).slotMap := by
      rw [hnone]
      rfl
    rw [loadRows, hslots]
    by_cases hentry : HasEntry GetItemTemplate row
    · have hfull : ¬ (loadPreset GetItemTemplate row).slotMap.isEmpty = true :=
        fun hempty ↦ (isEmpty_loadPreset row).mp hempty hentry
      have hnew' : ∀ q ∈ rows, (presetMap.insert id (loadPreset GetItemTemplate row))[q.1]? = none := fun q hq ↦ by
          have hmem : q.1 ∈ rows.map Prod.fst := List.mem_map_of_mem hq
          have hne : id ≠ q.1 := fun heq ↦ hid (heq ▸ hmem)
          rw [TreeMap.get_insert, if_neg hne, hnew q hq]
      rw [List.takeWhile_cons_of_pos (by simpa using hentry), List.map_cons, List.foldl_cons, ← ih hrows hnew']
      exact congrArg Prod.fst (if_neg hfull)
    · rw [List.takeWhile_cons_of_neg (by simpa using hentry)]
      simp only [(isEmpty_loadPreset row).mpr hentry, if_true]
      refine ExtTreeMap.ext_getElem? fun k ↦ ?_
      change (presetMap.erase id)[k]? = presetMap[k]?
      rw [TreeMap.get_erase]
      split
      · rename_i heq
        exact heq ▸ hnone.symm
      · rfl

/-- What is loaded are the presets of the rows up to the first one without an entry that exists. -/
theorem get_loadPlayerSets {result : List (UInt8 × SetRow)} (hresult : (result.map Prod.fst).Nodup)
    (id : UInt8) (p : PresetData) : (LoadPlayerSets GetItemTemplate result).1[id]? = some p ↔
      ∃ row, (id, row) ∈ result.takeWhile (fun p ↦ HasEntry GetItemTemplate p.2) ∧
        loadPreset GetItemTemplate row = p := by
  have hsub := List.takeWhile_sublist (l := result) fun p ↦ HasEntry GetItemTemplate p.2
  have hnodup : (((result.takeWhile fun p ↦ HasEntry GetItemTemplate p.2).map
      fun p ↦ (p.1, loadPreset GetItemTemplate p.2)).map Prod.fst).Nodup := by
    rw [List.map_map]
    exact hresult.sublist (hsub.map _)
  rw [LoadPlayerSets, loadRows_eq hresult fun _ _ ↦ ExtTreeMap.getElem?_empty, get_foldl_insert hnodup]
  constructor
  · rintro (hmem | ⟨_, hempty⟩)
    · obtain ⟨⟨id', row⟩, hrow, heq⟩ := List.mem_map.mp hmem
      obtain ⟨rfl, rfl⟩ := Prod.mk.inj heq
      exact ⟨row, hrow, rfl⟩
    · exact absurd (hempty.symm.trans ExtTreeMap.getElem?_empty) (Option.some_ne_none p)
  · rintro ⟨row, hrow, rfl⟩
    exact .inl (List.mem_map.mpr ⟨(id, row), hrow, rfl⟩)

theorem IsResult.nodup {table : SetTable} {owner : ObjectGuid} {result : List (UInt8 × SetRow)}
    (h : IsResult table owner result) : (result.map Prod.fst).Nodup :=
  (h.map Prod.fst).nodup_iff.mpr (TreeMap.fst_toList_nodup _)

/-! ## A save and a load -/

theorem onSave_self {table : SetTable} {owner : ObjectGuid} {presetMap : PresetMapType}
    (h : Built GetItemTemplate presetMap) (id : UInt8) :
    (OnSave table owner presetMap owner)[id]? = presetMap[id]?.map fun p ↦ ⟨p.name, setData p.slotMap⟩ := by
  have hread : ∀ p ∈ presetMap.toList, (readStatement (statement p.2)).isSome = true := fun p hp ↦ by
    rw [readStatement_statement (h p.1 p.2 (ExtTreeMap.mem_toList_iff_getElem?_eq_some.mp hp)).name]
    rfl
  rw [OnSave, if_pos (List.all_eq_true.mpr hread), Function.update_self, ExtTreeMap.getElem?_filterMap]
  cases hp : presetMap[id]? with
  | none => rfl
  | some p => exact readStatement_statement (h id p hp).name

/-- **A save and a load** give the presets again. -/
theorem load_save (table : SetTable) (owner : ObjectGuid) : Survives GetItemTemplate table owner := by
  intro presetMap h result hresult
  have hrow (id : UInt8) (row : SetRow) : (id, row) ∈ result ↔
      ∃ p, presetMap[id]? = some p ∧ row = ⟨p.name, setData p.slotMap⟩ := by
    rw [hresult.mem_iff, ExtTreeMap.mem_toList_iff_getElem?_eq_some, onSave_self h, Option.map_eq_some_iff]
    exact exists_congr fun p ↦ and_congr_right fun _ ↦ eq_comm
  have hall : ∀ q ∈ result, HasEntry GetItemTemplate q.2 := fun q hq ↦ by
    obtain ⟨p, hp, heq⟩ := (hrow q.1 q.2).mp hq
    have hvalid := h q.1 p hp
    by_contra hnone
    have hempty := (isEmpty_loadPreset q.2).mpr hnone
    rw [heq, loadPreset_setData hvalid] at hempty
    obtain ⟨slot, entry, hslot⟩ := hvalid.nonempty
    rw [ExtTreeMap.isEmpty_iff.mp hempty] at hslot
    exact Option.some_ne_none entry (hslot.symm.trans ExtTreeMap.getElem?_empty)
  have htake : result.takeWhile (fun p ↦ HasEntry GetItemTemplate p.2) = result :=
    List.takeWhile_eq_self_iff.mpr fun q hq ↦ decide_eq_true (hall q hq)
  refine ExtTreeMap.ext_getElem? fun id ↦ Option.ext fun p ↦ ?_
  rw [get_loadPlayerSets hresult.nodup, htake]
  constructor
  · rintro ⟨row, hmem, rfl⟩
    obtain ⟨p, hp, rfl⟩ := (hrow id row).mp hmem
    rw [loadPreset_setData (h id p hp), hp]
  · intro hp
    exact ⟨_, (hrow id _).mpr ⟨p, hp, rfl⟩, loadPreset_setData (h id p hp)⟩

/-! ## The presets that remain -/

/-- All that has an entry is before the first row without one exactly if none comes after it. -/
theorem mem_takeWhile_iff {α : Type} {P : α → Prop} [DecidablePred P] {l : List α} (hl : l.Nodup) :
    (∀ a ∈ l, P a → a ∈ l.takeWhile fun a ↦ P a) ↔ l.Pairwise fun a b ↦ P b → P a := by
  induction l with
  | nil => simp
  | cons a l ih =>
    obtain ⟨hnew, hl⟩ := List.nodup_cons.mp hl
    rw [List.pairwise_cons, ← ih hl, List.forall_mem_cons]
    by_cases ha : P a
    · rw [List.takeWhile_cons_of_pos (by simpa using ha)]
      constructor
      · rintro ⟨_, hall⟩
        refine ⟨fun _ _ _ ↦ ha, fun b hb hP ↦ ?_⟩
        rcases List.mem_cons.mp (hall b hb hP) with rfl | hmem
        · exact absurd hb hnew
        · exact hmem
      · rintro ⟨_, hall⟩
        exact ⟨fun _ ↦ List.mem_cons_self, fun b hb hP ↦ List.mem_cons_of_mem _ (hall b hb hP)⟩
    · rw [List.takeWhile_cons_of_neg (by simpa using ha)]
      constructor
      · rintro ⟨_, hall⟩
        have hnot : ∀ b ∈ l, ¬ P b := fun b hb hP ↦ List.not_mem_nil (hall b hb hP)
        exact ⟨fun b hb hP ↦ absurd hP (hnot b hb), fun b hb hP ↦ absurd hP (hnot b hb)⟩
      · rintro ⟨hall, _⟩
        exact ⟨fun hP ↦ absurd hP ha, fun b hb hP ↦ absurd (hall b hb hP) ha⟩

theorem loadsRemaining_iff {result : List (UInt8 × SetRow)} (hresult : (result.map Prod.fst).Nodup) :
    LoadsRemaining GetItemTemplate result ↔ NoneAfter GetItemTemplate result := by
  rw [NoneAfter, ← mem_takeWhile_iff hresult.of_map, LoadsRemaining]
  refine forall₂_congr fun p hp ↦ forall_congr' fun _ ↦ ?_
  rw [get_loadPlayerSets hresult]
  constructor
  · rintro ⟨row, hmem, _⟩
    have hrow : (p.1, row) ∈ result := (List.takeWhile_sublist _).subset hmem
    exact List.inj_on_of_nodup_map hresult hrow hp rfl ▸ hmem
  · exact fun hmem ↦ ⟨p.2, hmem, rfl⟩

/-- **Presets survive a save and a load, and the stored ones are loaded**, exactly if no stored preset that could
be loaded comes after one that cannot. -/
theorem presetsRestored_iff (GetItemTemplate : UInt32 → Bool) (table : SetTable) (owner : ObjectGuid)
    (result : List (UInt8 × SetRow)) (hresult : IsResult table owner result) :
    Survives GetItemTemplate table owner ∧ LoadsRemaining GetItemTemplate result ↔
      NoneAfter GetItemTemplate result :=
  (and_iff_right (load_save table owner)).trans (loadsRemaining_iff hresult.nodup)

/-- A table with two presets of player 1, of which the one with the id 0 has the entry 7. -/
def twoPresets : SetTable := Function.update (fun _ ↦ ∅) 1
    (((∅ : ExtTreeMap UInt8 SetRow compare).insert 0 ⟨"old".toList, "4 7 ".toList⟩).insert 1
      ⟨"new".toList, "4 8 15 9 ".toList⟩)

/-- If only the entry 7 exists, it is loaded. -/
theorem presetsRestored_iff_twoPresets : Survives (· = 7) twoPresets 1 ∧
    LoadsRemaining (· = 7) (twoPresets 1).toList :=
  (presetsRestored_iff (· = 7) twoPresets 1 _ (.refl _)).mpr (by decide +kernel)

/-- If it no longer exists, the other preset is not loaded, although its entries exist. -/
theorem not_presetsRestored : ¬ ∀ (GetItemTemplate : UInt32 → Bool) (table : SetTable) (owner : ObjectGuid)
    (result : List (UInt8 × SetRow)), IsResult table owner result →
      Survives GetItemTemplate table owner ∧ LoadsRemaining GetItemTemplate result := by
  intro hall
  have hloads := (hall (· ≠ 7) twoPresets 1 _ (.refl _)).2
  have hresult : (twoPresets 1).toList =
      [(0, ⟨"old".toList, "4 7 ".toList⟩), (1, ⟨"new".toList, "4 8 15 9 ".toList⟩)] := by decide +kernel
  rw [hresult] at hloads
  have hnew := hloads (1, ⟨"new".toList, "4 8 15 9 ".toList⟩) (by simp) (by decide +kernel)
  have hnone : ((LoadPlayerSets (· ≠ 7) [(0, ⟨"old".toList, "4 7 ".toList⟩),
      (1, ⟨"new".toList, "4 8 15 9 ".toList⟩)]).1[(1 : UInt8)]?).isNone = true := by decide +kernel
  rw [hnew] at hnone
  cases hnone

/-! ## The presets of a player -/

section Building

variable {owner : ObjectGuid} {sets : SetTable}

theorem valid_addSlot {w : Wardrobe} {items : PresetslotMapType} {slot : ℕ} (hslot : slot < EQUIPMENT_SLOT_END)
    (h : ∀ (s : UInt8) (entry : UInt32), items[s]? = some entry →
      s.toNat < EQUIPMENT_SLOT_END ∧ GetItemTemplate entry = true) :
    ∀ (s : UInt8) (entry : UInt32), (addSlot GetItemTemplate w items slot)[s]? = some entry →
      s.toNat < EQUIPMENT_SLOT_END ∧ GetItemTemplate entry = true := by
  intro s entry hs
  rw [addSlot] at hs
  split at hs
  · next hadd =>
    rw [TreeMap.get_insert] at hs
    split at hs
    · next heq =>
      have hsmall : slot < 256 := hslot.trans (by decide)
      rw [← heq, UInt8.toNat_ofNat_of_lt' hsmall, ← Option.some_inj.mp hs]
      exact ⟨hslot, hadd.2.2.1⟩
    · exact h s entry hs
  · exact h s entry hs

/-- A preset that is built has a slot, and its slots have entries that exist. -/
theorem Built.gossipSelectCode {EnableSets : Bool} {w : Wardrobe} {code : List Char} {presetMap : PresetMapType}
    (h : Built GetItemTemplate presetMap) :
    Built GetItemTemplate (GossipSelectCode GetItemTemplate EnableSets w code presetMap) := by
  have hslots : ∀ slots : List ℕ, (∀ slot ∈ slots, slot < EQUIPMENT_SLOT_END) → ∀ (s : UInt8) (entry : UInt32),
      (slots.foldl (addSlot GetItemTemplate w) ∅)[s]? = some entry →
        s.toNat < EQUIPMENT_SLOT_END ∧ GetItemTemplate entry = true := by
    intro slots
    induction slots using List.reverseRecOn with
    | nil => simp
    | append_singleton slots slot ih =>
      intro hslots
      rw [List.foldl_append]
      exact valid_addSlot (hslots slot (by simp)) (ih fun t ht ↦ hslots t (by simp [ht]))
  simp only [GossipSelectCode]
  split_ifs with _ hname hempty
  any_goals exact h
  split
  · exact h
  · intro id p hp
    rw [TreeMap.get_insert] at hp
    split at hp
    · obtain rfl := Option.some_inj.mp hp
      refine ⟨by simpa using hname, ?_, hslots _ fun slot ↦ List.mem_range.mp⟩
      by_contra hnone
      push Not at hnone
      refine hempty (ExtTreeMap.isEmpty_iff.mpr (ExtTreeMap.ext_getElem? fun s ↦ ?_))
      rw [ExtTreeMap.getElem?_empty]
      exact Option.eq_none_iff_forall_ne_some.mpr (hnone s)
    · exact h id p hp

theorem hasEntry_setData {p : PresetData} (hp : p.Valid GetItemTemplate) :
    HasEntry GetItemTemplate ⟨p.name, setData p.slotMap⟩ := by
  by_contra hnone
  have hempty := (isEmpty_loadPreset _).mpr hnone
  rw [loadPreset_setData hp] at hempty
  obtain ⟨slot, entry, hslot⟩ := hp.nonempty
  simp [ExtTreeMap.isEmpty_iff.mp hempty] at hslot

/-- Rows that all have an entry are all kept. -/
theorem loadRows_snd {rows : List (UInt8 × SetRow)} (h : ∀ p ∈ rows, HasEntry GetItemTemplate p.2)
    (presetMap : PresetMapType) : (loadRows GetItemTemplate rows presetMap).2 = none := by
  induction rows generalizing presetMap with
  | nil => rfl
  | cons p rows ih =>
    obtain ⟨hp, h⟩ := List.forall_mem_cons.mp h
    rw [loadRows, if_neg]
    · exact ih h _
    · rw [isEmpty_foldl_loadPair]
      exact fun hempty ↦ hempty.2 hp

theorem onSave_of_built {presetMap : PresetMapType} (table : SetTable) (h : Built GetItemTemplate presetMap) :
    OnSave table owner presetMap =
      Function.update table owner (presetMap.filterMap fun _ p ↦ readStatement (statement p)) := by
  rw [OnSave, if_pos (List.all_eq_true.mpr fun p hp ↦ ?_)]
  rw [readStatement_statement (h p.1 p.2 (ExtTreeMap.mem_toList_iff_getElem?_eq_some.mp hp)).name]
  rfl

/-- A load deletes no row that has been saved. -/
theorem loadPlayerSets_onSave {presetMap : PresetMapType} {result : List (UInt8 × SetRow)} (table : SetTable)
    (h : Built GetItemTemplate presetMap) (hresult : IsResult (OnSave table owner presetMap) owner result) :
    LoadPlayerSets GetItemTemplate result = (presetMap, none) := by
  refine Prod.ext (load_save table owner presetMap h result hresult) (loadRows_snd (fun q hq ↦ ?_) ∅)
  have hrow := ExtTreeMap.mem_toList_iff_getElem?_eq_some.mp (hresult.mem_iff.mp hq)
  rw [onSave_self h, Option.map_eq_some_iff] at hrow
  obtain ⟨p, hp, heq⟩ := hrow
  exact heq ▸ hasEntry_setData (h q.1 p hp)

/-- What should hold of the presets of a player, and of the table, in which the others have the rows `sets`. -/
structure PresetsSound (GetItemTemplate : UInt32 → Bool) (owner : ObjectGuid) (sets : SetTable) (s : Presets) :
    Prop where
  built : Built GetItemTemplate s.presetMap
  others : ∀ other, other ≠ owner → s.sets other = sets other
  /-- what is stored is loaded whole, and saving it changes nothing -/
  stored : ∀ result, IsResult s.sets owner result → ∃ saved, Built GetItemTemplate saved ∧
    LoadPlayerSets GetItemTemplate result = (saved, none) ∧ OnSave s.sets owner saved = s.sets
  /-- what the player has is loaded after a save -/
  restored : ∀ result, IsResult (OnSave s.sets owner s.presetMap) owner result →
    LoadPlayerSets GetItemTemplate result = (s.presetMap, none)

/-- The presets are as they can be built, and so were those that have been saved last. -/
def Inv (GetItemTemplate : UInt32 → Bool) (owner : ObjectGuid) (sets : SetTable) (s : Presets) : Prop :=
  Built GetItemTemplate s.presetMap ∧ ∃ saved, Built GetItemTemplate saved ∧ s.sets = OnSave sets owner saved

theorem onSave_onSave {saved presetMap : PresetMapType} (hsaved : Built GetItemTemplate saved)
    (h : Built GetItemTemplate presetMap) :
    OnSave (OnSave sets owner saved) owner presetMap = OnSave sets owner presetMap := by
  rw [onSave_of_built _ h, onSave_of_built _ hsaved, Function.update_idem, ← onSave_of_built _ h]

theorem Inv.next {s t : Presets} {action : Action} (h : Inv GetItemTemplate owner sets s)
    (hn : next GetItemTemplate owner s action = some t) : Inv GetItemTemplate owner sets t := by
  obtain ⟨hbuilt, saved, hsaved, hsets⟩ := h
  cases action with
  | GossipSelectCode EnableSets w code =>
    rw [← Option.some_inj.mp hn]
    exact ⟨hbuilt.gossipSelectCode, saved, hsaved, hsets⟩
  | DeletePreset action =>
    rw [← Option.some_inj.mp hn]
    refine ⟨fun id p hp ↦ ?_, saved, hsaved, hsets⟩
    rw [TreeMap.get_erase, Option.ite_none_left_eq_some] at hp
    exact hbuilt id p hp.2
  | OnSave =>
    rw [← Option.some_inj.mp hn]
    exact ⟨hbuilt, s.presetMap, hbuilt, by rw [hsets, onSave_onSave hsaved hbuilt]⟩
  | LoadPlayerSets result =>
    obtain ⟨hresult, hn⟩ := Option.ite_none_right_eq_some.mp hn
    rw [← Option.some_inj.mp hn, loadPlayerSets_onSave sets hsaved (hsets ▸ hresult)]
    exact ⟨hsaved, saved, hsaved, hsets⟩

/-- **The presets of a player**, whatever he saves and deletes, whenever he is saved and loaded. -/
theorem presetsSound_of_reachable (GetItemTemplate : UInt32 → Bool) (owner : ObjectGuid) (sets : SetTable)
    {s : Presets} (h : (presets GetItemTemplate owner sets).Reachable s) :
    PresetsSound GetItemTemplate owner sets s := by
  have hempty : Built GetItemTemplate ∅ := by simp [Built]
  obtain ⟨hbuilt, saved, hsaved, hsets⟩ : Inv GetItemTemplate owner sets s := by
    refine h.invariant ⟨hempty, ∅, hempty, ?_⟩ fun _ _ _ hinv _ hn ↦ hinv.next hn
    rw [onSave_of_built _ hempty]
    show Function.update sets owner ∅ = _
    congr 1
  refine ⟨hbuilt, fun other hne ↦ ?_, fun result hresult ↦ ⟨saved, hsaved, ?_, ?_⟩, fun result hresult ↦ ?_⟩
  · rw [hsets, onSave_of_built _ hsaved, Function.update_of_ne hne]
  · exact loadPlayerSets_onSave sets hsaved (hsets ▸ hresult)
  · rw [hsets, onSave_onSave hsaved hsaved]
  · exact loadPlayerSets_onSave s.sets hbuilt hresult

/-- A player saves what his chest looks like. -/
theorem presetsSound_of_reachable_chest : ∃ s : Presets, s.presetMap.size = 1 ∧
    PresetsSound (· = 7) 1 (fun _ ↦ ∅) s := by
  obtain ⟨s, hs, hp⟩ := (presets (· = 7) 1 fun _ ↦ ∅).exists_reachable
    [.GossipSelectCode true ⟨fun slot ↦ if slot = 4 then 7 else 0, fun _ ↦ true, true, 10⟩ "tank".toList, .OnSave]
    (fun s ↦ s.presetMap.size = 1) (by decide +kernel)
  exact ⟨s, hp, presetsSound_of_reachable _ _ _ hs⟩

end Building

end Gundrak.Transmog
