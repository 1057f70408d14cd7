import Gundrak.Mails.Mail
import Gundrak.Util.Machine

/-!
# The handlers of mail

`HandleSendMail`, `HandleMailTakeItem`, `HandleMailTakeMoney` and `HandleMailReturnToSender`, for players who
are no game masters.  Each refuses with a `MailResponseResult`, or without an answer if there is no mailbox
or the levels are too low.

`Ledger` keeps in addition what has been paid for postage, and what has been taken out of mails.
-/

open Std (ExtTreeMap)

namespace Gundrak.Mails

open Players

/-! ## Attachments -/

namespace Inventory

variable (mgr : ObjectMgr) (player : Player)

/-- The positions at which `GetItemByGuid` looks, in its order. -/
def positions : List (ℕ × ℕ) :=
  let own (first last : ℕ) := (slotRange first last).map fun slot ↦ (INVENTORY_SLOT_BAG_0, slot)
  let bags (first last : ℕ) := (slotRange first last).flatMap fun bag ↦
    (slotRange 0 (player.GetBagSize mgr bag)).map fun slot ↦ (bag, slot)
  own EQUIPMENT_SLOT_START INVENTORY_SLOT_ITEM_END ++ own KEYRING_SLOT_START CURRENCYTOKEN_SLOT_END ++
    own BANK_SLOT_ITEM_START BANK_SLOT_BAG_END ++
    bags INVENTORY_SLOT_BAG_START INVENTORY_SLOT_BAG_END ++
    bags BANK_SLOT_BAG_START BANK_SLOT_BAG_END

/-- `Player::GetItemByGuid`, with the bag and the slot of the item. -/
def GetItemByGuid (guid : ℕ) : Option (ℕ × ℕ × Item) := (positions mgr player).findSome? fun pos ↦
    ((player.GetItemByPos mgr pos.1 pos.2).filter (·.guid = guid)).map (pos.1, pos.2, ·)

/-- Move items from the inventory to a draft.  One that is not there any more is in the draft already. -/
def attach : List ℕ → Player × ExtTreeMap ℕ Item → Player × ExtTreeMap ℕ Item
  | [], s => s
  | guid :: guids, s =>
    match GetItemByGuid mgr s.1 guid with
    | none => attach guids s
    | some (bag, slot, item) =>
      attach guids (s.1.RemoveItem mgr bag slot, s.2.insert item.guid item)

end Inventory

/-- The equip errors that are sent with `MAIL_ERR_EQUIP_ERROR`. -/
inductive EquipError where
  | MAIL_BOUND_ITEM
  | ARTEFACTS_ONLY_FOR_OWN_CHARACTERS
  | CAN_ONLY_DO_WITH_EMPTY_BAGS
  | TOO_MUCH_GOLD
  | store (msg : InventoryResult)
deriving DecidableEq

/-- `MailResponseResult`, as far as it is used here. -/
inductive MailResponseResult where
  | OK
  | EQUIP_ERROR (msg : EquipError)
  | CANNOT_SEND_TO_SELF
  | NOT_ENOUGH_MONEY
  | RECIPIENT_NOT_FOUND
  | NOT_YOUR_TEAM
  | INTERNAL_ERROR
  | RECIPIENT_CAP_REACHED
  | CANT_SEND_WRAPPED_COD
  | TOO_MANY_ATTACHMENTS
  | MAIL_ATTACHMENT_INVALID
deriving DecidableEq

/-- What `HandleSendMail` asks about an item, besides what is in the item here. -/
structure ItemFacts where
  /-- `ITEM_FLAG_IS_BOUND_TO_ACCOUNT` -/
  isBoundToAccount : Bool
  /-- what `CanBeTraded(true)` asks besides whether the item is loot, or a bag that is worn or not empty -/
  canBeTraded : Bool
  /-- `IsBoundAccountWide() && IsSoulBound()` -/
  accountSoulBound : Bool
  /-- `ITEM_FLAG_CONJURED`, or it has a duration -/
  conjured : Bool
  /-- `ITEM_FIELD_FLAG_WRAPPED` -/
  wrapped : Bool

/-- What a client sends to `HandleSendMail`, and what the handler asks of the rest of the server. -/
structure SendMail where
  itemGUIDs : List ℕ
  money : UInt32
  COD : UInt32
  CanOpenMailBox : Bool
  receiverNameEmpty : Bool
  /-- the character cache on the name -/
  receiverGuid : Option ℕ
  senderLevelOk : Bool
  /-- the teams are different, and mail between them is not permitted -/
  otherTeam : Bool
  receiverLevelOk : Bool
  about : Item → ItemFacts
  time : ℕ
  CONFIG_MAIL_DELIVERY_DELAY : ℕ

namespace SendMail

variable (mgr : ObjectMgr) (packet : SendMail) (player : Player)

/-- The postage. -/
def cost : UInt32 :=
  if packet.itemGUIDs = [] then 30 else UInt32.ofNat (30 * packet.itemGUIDs.length)

/-- Postage and money; a `uint32`. -/
def reqmoney : UInt32 := packet.cost + packet.money

/-- There are items, and those that are found are all bound to the account. -/
def accountBound : Bool := packet.itemGUIDs ≠ [] ∧ packet.itemGUIDs.all fun guid ↦
    ((Inventory.GetItemByGuid mgr player guid).all fun x ↦ (packet.about x.2.2).isBoundToAccount)

/-- What is wrong with an attachment. -/
def attachmentError (sameAccount : Bool) (guid : ℕ) : Option MailResponseResult :=
  if guid = 0 then some .MAIL_ATTACHMENT_INVALID
  else
    match Inventory.GetItemByGuid mgr player guid with
    | none => some .MAIL_ATTACHMENT_INVALID
    | some (bag, slot, item) =>
      let facts := packet.about item
      if item.lootGenerated ∨ item.IsBag mgr ∧ (IsBagPos bag slot ∨ item.notEmptyBag) ∨ !facts.canBeTraded then
        some (.EQUIP_ERROR .MAIL_BOUND_ITEM)
      else if facts.accountSoulBound ∧ !sameAccount then
        some (.EQUIP_ERROR .ARTEFACTS_ONLY_FOR_OWN_CHARACTERS)
      else if facts.conjured then some (.EQUIP_ERROR .MAIL_BOUND_ITEM)
      else if packet.COD ≠ 0 ∧ facts.wrapped then some .CANT_SEND_WRAPPED_COD
      else if item.notEmptyBag then some (.EQUIP_ERROR .CAN_ONLY_DO_WITH_EMPTY_BAGS)
      else none

end SendMail

/-! ## The handlers -/

namespace World

variable (mgr : ObjectMgr) (w : World)

/-- What `HandleSendMail` does once it has accepted a mail. -/
def sendMail (guid : ℕ) (player : Character) (receiver : ℕ) (packet : SendMail) (sameAccount : Bool) :
    World :=
  let attached := Inventory.attach mgr packet.itemGUIDs (player.inventory, ∅)
  let needItemDelay := packet.itemGUIDs ≠ [] && !sameAccount
  let w' : World :=
    { w with
      characters := w.characters.insert guid
        { player with
          purse := (player.purse.ModifyMoney (-int32 packet.reqmoney.toNat)).1
          inventory := attached.1 } }
  MailDraft.SendMailTo
    { m_items := attached.2, m_money := packet.money, m_COD := if packet.itemGUIDs = [] then 0 else packet.COD }
    w' receiver .NORMAL guid
    (packet.time + if needItemDelay then packet.CONFIG_MAIL_DELIVERY_DELAY else 0)

/-- `WorldSession::HandleSendMail`. -/
def HandleSendMail (guid : ℕ) (packet : SendMail) : Option MailResponseResult × World :=
  match w.characters[guid]? with
  | none => (none, w)
  | some player =>
    if packet.itemGUIDs.length > MAX_MAIL_ITEMS then (some .TOO_MANY_ATTACHMENTS, w)
    else if !packet.CanOpenMailBox ∨ packet.receiverNameEmpty ∨ !packet.senderLevelOk then (none, w)
    else
      match packet.receiverGuid with
      | none => (some .RECIPIENT_NOT_FOUND, w)
      | some receiver =>
        if guid = receiver then (some .CANNOT_SEND_TO_SELF, w)
        else if packet.reqmoney < packet.money then (some .NOT_ENOUGH_MONEY, w)
        else if !player.purse.HasEnoughMoney packet.reqmoney then (some .NOT_ENOUGH_MONEY, w)
        else
          -- a `uint8`
          let mailsCount := ((w.characters[receiver]?.map (·.m_mail.length)).getD 0) % 256
          let sameAccount := player.accountId = (w.characters[receiver]?.map (·.accountId)).getD 0
          if mailsCount > 100 then (some .RECIPIENT_CAP_REACHED, w)
          else if !packet.accountBound mgr player.inventory ∧ packet.otherTeam then
            (some .NOT_YOUR_TEAM, w)
          else if !packet.receiverLevelOk then (none, w)
          else
            match packet.itemGUIDs.findSome? (packet.attachmentError mgr player.inventory sameAccount) with
            | some error => (some error, w)
            | none => (some .OK, w.sendMail mgr guid player receiver packet sameAccount)

/-- What `HandleMailTakeItem` does once it has a place for the item.  The COD goes to the sender of the mail, if
he still exists, and the taker pays it in any case; no other mail is looked at in between. -/
def takeItem (guid : ℕ) (player : Character) (m : Mail) (itemId : ℕ) (it : Item)
    (dest : List (ℕ × ℕ)) (time : ℕ) : World :=
  let stored := player.inventory.StoreItem mgr it w.nextGuid dest
  let taker := ({ player with
    purse := if m.COD > 0 then (player.purse.ModifyMoney (-int32 m.COD.toNat)).1 else player.purse
    inventory := stored.1 }.setMail { m.RemoveItem itemId with COD := 0 }).RemoveMItem it.guid
  let w' : World :=
    { w with characters := w.characters.insert guid taker, nextGuid := stored.2 }
  if m.COD > 0 ∧ m.sender ∈ w.characters then
    MailDraft.SendMailTo { m_items := ∅, m_money := m.COD, m_COD := 0 } w' m.sender .NORMAL m.receiver time
  else w'

/-- `WorldSession::HandleMailTakeItem`; `bindedNotWith` is what the item says about the player. -/
def HandleMailTakeItem (guid mailId itemId : ℕ) (CanOpenMailBox bindedNotWith : Bool) (time : ℕ) :
    Option MailResponseResult × World :=
  match w.characters[guid]? with
  | none => (none, w)
  | some player =>
    if !CanOpenMailBox then (none, w)
    else
      match player.deliveredMail mailId time with
      | none => (some .INTERNAL_ERROR, w)
      | some m =>
        if itemId ∉ m.items then (some .INTERNAL_ERROR, w)
        else if !player.purse.HasEnoughMoney m.COD then (some .NOT_ENOUGH_MONEY, w)
        else
          match player.mMitems[itemId]? with
          | none => (some (.EQUIP_ERROR (.store .ITEM_NOT_FOUND)), w)
          | some it =>
            let it := { it with bindedNotWith }
            let answer := player.inventory.CanStoreItem mgr NULL_BAG NULL_SLOT it.entry it.count
              (some it) false none
            if answer.result = .OK then
              (some .OK, w.takeItem mgr guid player m itemId it answer.dest time)
            else (some (.EQUIP_ERROR (.store answer.result)), w)

/-- What `HandleMailTakeMoney` does with what `ModifyMoney` says about the money of the mail. -/
def takeMoney (guid : ℕ) (player : Character) (m : Mail) : Purse × Bool → Option MailResponseResult × World
  | (_, false) => (some (.EQUIP_ERROR .TOO_MUCH_GOLD), w)
  | (purse, true) =>
    (some .OK, { w with
        characters := w.characters.insert guid ({ player with purse }.setMail { m with money := 0 }) })

/-- `WorldSession::HandleMailTakeMoney`. -/
def HandleMailTakeMoney (guid mailId : ℕ) (CanOpenMailBox : Bool) (time : ℕ) :
    Option MailResponseResult × World :=
  match w.characters[guid]? with
  | none => (none, w)
  | some player =>
    if !CanOpenMailBox then (none, w)
    else
      match player.deliveredMail mailId time with
      | none => (some .INTERNAL_ERROR, w)
      | some m => w.takeMoney guid player m (player.purse.ModifyMoney (int32 m.money.toNat))

/-- Move one attachment from `mMitems` to the draft, if it is there. -/
def detachOne (s : ExtTreeMap ℕ Item × ExtTreeMap ℕ Item) (item_guid : ℕ) :
    ExtTreeMap ℕ Item × ExtTreeMap ℕ Item :=
  ((s.2[item_guid]?).elim s.1 fun item ↦ s.1.insert item.guid item, s.2.erase item_guid)

/-- The attachments of a mail that goes back, and `mMitems` without them. -/
def detach (items : List ℕ) (mMitems : ExtTreeMap ℕ Item) : ExtTreeMap ℕ Item × ExtTreeMap ℕ Item :=
  items.foldl detachOne (∅, mMitems)

/-- `WorldSession::HandleMailReturnToSender`; `connected` says whether the sender is online. -/
def HandleMailReturnToSender (guid mailId : ℕ) (CanOpenMailBox connected : Bool) (time delay : ℕ) :
    Option MailResponseResult × World :=
  match w.characters[guid]? with
  | none => (none, w)
  | some player =>
    if !CanOpenMailBox then (none, w)
    else
      match player.deliveredMail mailId time with
      | none => (some .INTERNAL_ERROR, w)
      | some m =>
        let removed := player.RemoveMail mailId
        -- nothing is sent for another message type
        if m.messageType = .NORMAL ∧ m.sender ≠ 0 then
          let detached := detach m.items player.mMitems
          let w' : World :=
            { w with
              characters := w.characters.insert guid { removed with mMitems := detached.2 } }
          (some .OK, MailDraft.SendReturnToSender
            { m_items := detached.1, m_money := m.money, m_COD := 0 } w' player.accountId m.receiver
            m.sender time delay connected)
        else (some .OK, { w with characters := w.characters.insert guid removed })

end World

/-! ## Runs -/

/-- What players do with mail. -/
inductive Call where
  | HandleSendMail (guid : ℕ) (packet : SendMail)
  | HandleMailTakeItem (guid mailId itemId : ℕ) (CanOpenMailBox bindedNotWith : Bool) (time : ℕ)
  | HandleMailTakeMoney (guid mailId : ℕ) (CanOpenMailBox : Bool) (time : ℕ)
  | HandleMailReturnToSender (guid mailId : ℕ) (CanOpenMailBox connected : Bool) (time delay : ℕ)

/-- What a handler answers, and what it leaves. -/
def World.handle (mgr : ObjectMgr) (w : World) : Call → Option MailResponseResult × World
  | .HandleSendMail guid packet => w.HandleSendMail mgr guid packet
  | .HandleMailTakeItem guid mailId itemId box bound time =>
    w.HandleMailTakeItem mgr guid mailId itemId box bound time
  | .HandleMailTakeMoney guid mailId box time => w.HandleMailTakeMoney guid mailId box time
  | .HandleMailReturnToSender guid mailId box connected time delay =>
    w.HandleMailReturnToSender guid mailId box connected time delay

/-- An attachment that has been taken out of a mail: whose mailbox the mail is in, what its COD was, and how
much gold the receiver had less afterwards. -/
structure Take where
  receiver : ℕ
  messageID : ℕ
  COD : ℕ
  paid : ℕ
deriving DecidableEq

/-- The world, what has been paid for postage in it, and what has been taken out of mails, the latest
first. -/
structure Ledger where
  world : World
  postage : ℕ
  takes : List Take

namespace World

variable (mgr : ObjectMgr) (w : World)

/-- The gold that a character has on him. -/
def money (guid : ℕ) : ℕ := (w.characters[guid]?.map (·.purse.money)).getD 0

/-- A mail in somebody's mailbox. -/
def mail (guid mailId : ℕ) : Option Mail := w.characters[guid]?.bind (·.GetMail mailId)

/-- The postage that a call costs. -/
def postage : Call → ℕ
  | .HandleSendMail guid packet =>
    if (w.HandleSendMail mgr guid packet).1 = some .OK then packet.cost.toNat else 0
  | _ => 0

/-- What a call takes out of a mail. -/
def takes : Call → List Take
  | .HandleMailTakeItem guid mailId itemId box bound time =>
    let (result, w') := w.HandleMailTakeItem mgr guid mailId itemId box bound time
    if result = some .OK then
      [{ receiver := guid, messageID := mailId, COD := ((w.mail guid mailId).map (·.COD.toNat)).getD 0,
         paid := w.money guid - w'.money guid }]
    else []
  | _ => []

/-- The amounts that a call converts from `uint32` to `int32`. -/
def converted : Call → List UInt32
  | .HandleSendMail guid packet =>
    if (w.HandleSendMail mgr guid packet).1 = some .OK then [packet.reqmoney] else []
  | .HandleMailTakeItem guid mailId itemId box bound time =>
    if (w.HandleMailTakeItem mgr guid mailId itemId box bound time).1 = some .OK then
      ((w.mail guid mailId).map (·.COD)).toList
    else []
  | .HandleMailTakeMoney guid mailId _ _ => ((w.mail guid mailId).map (·.money)).toList
  | .HandleMailReturnToSender .. => []

end World

/-- A world that players send mail in. -/
def mailing (mgr : ObjectMgr) (start : World) : Machine Ledger Call where
  start := ⟨start, 0, []⟩
  next l call := some
    ⟨(l.world.handle mgr call).2, l.postage + l.world.postage mgr call, l.world.takes mgr call ++ l.takes⟩

end Gundrak.Mails
