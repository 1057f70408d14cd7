import Gundrak.Util.Machine
import Gundrak.Util.ObjectGuid
import Gundrak.Util.TextStream
import Gundrak.Util.TreeMap

/-!
# Transmogrification sets

A player can save what his items look like as a preset, under a name he types in.  The presets are in
`presetMap` while he is online; `OnSave` writes all of them to the table `custom_transmogrification_sets`,
with the name and the slots spliced into the text of the statement, and `LoadPlayerSets` reads them from it.
The slots are stored as one text, with a blank after each number.
-/

open Std (ExtTreeMap)

namespace Gundrak.Transmog

/-- `PresetslotMapType`: the entry that a slot looks like. -/
abbrev PresetslotMapType := ExtTreeMap UInt8 UInt32 compare

/-- `PresetData`. -/
structure PresetData where
  name : List Char
  slotMap : PresetslotMapType

/-- `PresetMapType`. -/
abbrev PresetMapType := ExtTreeMap UInt8 PresetData compare

/-- What a row of `custom_transmogrification_sets` has beside its key. -/
structure SetRow where
  SetName : List Char
  SetData : List Char
deriving DecidableEq

/-- The table, by `Owner` and `PresetID`. -/
abbrev SetTable := ObjectGuid → ExtTreeMap UInt8 SetRow compare

/-- `EQUIPMENT_SLOT_END`. -/
def EQUIPMENT_SLOT_END : ℕ := 19

/-! ## Saving a preset -/

/-- The characters a name may have. -/
def allowedcharacters : List Char := "ABCDEFGHIJKLMNOPQRSTUVWXYZabcdefghijklmnopqrstuvwxyz _.,'1234567890".toList

/-- The check of a name. -/
def validName (name : List Char) : Bool := name ≠ [] ∧ name.all (· ∈ allowedcharacters)

/-- Whether `Transmogrification::GetSlotName` has a name for a slot: not for the neck, the fingers and the
trinkets. -/
def hasSlotName (slot : ℕ) : Bool := slot < EQUIPMENT_SLOT_END ∧ slot ∉ [1, 10, 11, 12, 13]

/-- What the equipment of a player and the settings are when he saves a preset: the fake entries of the items
in the slots, 0 where there is none, which entries are suitable, and whether he can pay. -/
structure Wardrobe where
  GetFakeEntry : ℕ → UInt32
  SuitableForTransmogrification : UInt32 → Bool
  HasEnoughMoney : Bool
  MaxSets : UInt8

/-- One turn of the loop over the slots. -/
def addSlot (GetItemTemplate : UInt32 → Bool) (w : Wardrobe) (items : PresetslotMapType) (slot : ℕ) :
    PresetslotMapType :=
  if hasSlotName slot ∧ w.GetFakeEntry slot ≠ 0 ∧ GetItemTemplate (w.GetFakeEntry slot) ∧
      w.SuitableForTransmogrification (w.GetFakeEntry slot) then
    items.insert (UInt8.ofNat slot) (w.GetFakeEntry slot)
  else items

/-- The slots of a new preset. -/
def presetSlots (GetItemTemplate : UInt32 → Bool) (w : Wardrobe) : PresetslotMapType :=
  (List.range EQUIPMENT_SLOT_END).foldl (addSlot GetItemTemplate w) ∅

/-- The first free id of a preset. -/
def freePreset (presetMap : PresetMapType) (MaxSets : UInt8) : Option UInt8 :=
  if presetMap.size < MaxSets.toNat then
    ((List.range MaxSets.toNat).map UInt8.ofNat).find? (· ∉ presetMap)
  else none

/-- `TransmogAI::GossipSelectCode`: a preset with the name that has been typed in. -/
def GossipSelectCode (GetItemTemplate : UInt32 → Bool) (EnableSets : Bool) (w : Wardrobe) (code : List Char)
    (presetMap : PresetMapType) : PresetMapType :=
  if ¬ EnableSets then presetMap
  else if ¬ validName code then presetMap
  else
    let items := presetSlots GetItemTemplate w
    if items.isEmpty then presetMap
    else if ¬ w.HasEnoughMoney then presetMap
    else
      match freePreset presetMap w.MaxSets with
      | none => presetMap
      | some presetID => presetMap.insert presetID ⟨code, items⟩

/-! ## Writing the rows -/

/-- The slots as text. -/
def setData (slotMap : PresetslotMapType) : List Char := slotMap.toList.flatMap fun p ↦
    JoinedNumbers.text p.1.toNat ++ ' ' :: JoinedNumbers.text p.2.toNat ++ [' ']

/-- The end of the text of the `REPLACE` statement of a preset, from its name on. -/
def statement (p : PresetData) : List Char := '"' :: p.name ++ "\", \"".toList ++ setData p.slotMap ++ "\")".toList

/-- What the database reads in the statement, if it can be read. -/
def readStatement (sql : List Char) : Option SetRow :=
  match sql with
  | '"' :: sql =>
    match TextStream.readString sql with
    | some (name, ',' :: ' ' :: '"' :: sql) =>
      match TextStream.readString sql with
      | some (data, [')']) => some ⟨name, data⟩
      | _ => none
    | _ => none
  | _ => none

/-- `PS_Transmogrification::OnSave`, for the presets: one transaction deletes the rows of the player and writes
the presets, whatever `EnableSets` is.  A statement that cannot be read rolls it back. -/
def OnSave (table : SetTable) (owner : ObjectGuid) (presetMap : PresetMapType) : SetTable :=
  if presetMap.toList.all fun p ↦ (readStatement (statement p.2)).isSome then
    Function.update table owner (presetMap.filterMap fun _ p ↦ readStatement (statement p))
  else table

/-! ## Reading the rows -/

/-- The loop over the text of the slots: pairs of numbers, up to where the stream fails.  A turn takes at least
two characters, so `fuel` may be the length of the text. -/
def readPairs : ℕ → List Char → List (ℕ × ℕ)
  | 0, _ => []
  | fuel + 1, cs =>
    match TextStream.readUInt 32 cs with
    | none => []
    | some (slot, cs) =>
      match TextStream.readUInt 32 cs with
      | none => []
      | some (entry, cs) => (slot, entry) :: readPairs fuel cs

/-- The pairs of numbers in the text of the slots. -/
def pairs (row : SetRow) : List (ℕ × ℕ) := readPairs row.SetData.length row.SetData

variable (GetItemTemplate : UInt32 → Bool)

/-- One pair is put into the slots: an invalid slot and an entry that does not exist are ignored. -/
def loadPair (slotMap : PresetslotMapType) (p : ℕ × ℕ) : PresetslotMapType :=
  if p.1 ≥ EQUIPMENT_SLOT_END then slotMap
  else if GetItemTemplate (UInt32.ofNat p.2) then slotMap.insert (UInt8.ofNat p.1) (UInt32.ofNat p.2)
  else slotMap

/-- The loop of `Transmogrification::LoadPlayerSets` over the rows.  A preset without an entry that exists is
erased and its row deleted; the loop ends there. -/
def loadRows : List (UInt8 × SetRow) → PresetMapType → PresetMapType × Option UInt8
  | [], presetMap => (presetMap, none)
  | (PresetID, row) :: rows, presetMap =>
    let slotMap := (pairs row).foldl (loadPair GetItemTemplate)
      ((presetMap[PresetID]?.map PresetData.slotMap).getD ∅)
    if slotMap.isEmpty then (presetMap.erase PresetID, some PresetID)
    else loadRows rows (presetMap.insert PresetID ⟨row.SetName, slotMap⟩)

/-- `Transmogrification::LoadPlayerSets`, with the rows of the player in the order the query gives them: the
presets, and the row that is deleted. -/
def LoadPlayerSets (result : List (UInt8 × SetRow)) : PresetMapType × Option UInt8 := loadRows GetItemTemplate result ∅

/-- The rows that a query for a player can give. -/
def IsResult (table : SetTable) (owner : ObjectGuid) (result : List (UInt8 × SetRow)) : Prop :=
  result.Perm (table owner).toList

/-! ## A player with his presets -/

/-- The presets of a player, and the table. -/
structure Presets where
  presetMap : PresetMapType
  sets : SetTable

/-- What happens to the presets of a player: he saves or deletes one, and he is saved and loaded. -/
inductive Action where
  | GossipSelectCode (EnableSets : Bool) (w : Wardrobe) (code : List Char)
  | DeletePreset (action : UInt8)
  | OnSave
  | LoadPlayerSets (result : List (UInt8 × SetRow))

/-- What an action does. -/
def next (owner : ObjectGuid) (s : Presets) : Action → Option Presets
  | .GossipSelectCode EnableSets w code =>
    some { s with presetMap := GossipSelectCode GetItemTemplate EnableSets w code s.presetMap }
  | .DeletePreset action => some { s with presetMap := s.presetMap.erase action }
  | .OnSave => some { s with sets := OnSave s.sets owner s.presetMap }
  | .LoadPlayerSets result =>
    if result.Perm (s.sets owner).toList then
      let loaded := LoadPlayerSets GetItemTemplate result
      some
        { presetMap := loaded.1
          sets := match loaded.2 with
            | some id => Function.update s.sets owner ((s.sets owner).erase id)
            | none => s.sets }
    else none

/-- A player without presets, and any rows of the others. -/
def presets (owner : ObjectGuid) (sets : SetTable) : Machine Presets Action where
  start := ⟨∅, Function.update sets owner ∅⟩
  next s action := next GetItemTemplate owner s action

end Gundrak.Transmog
