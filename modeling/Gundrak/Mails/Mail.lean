import Gundrak.Players.StoredItems
import Gundrak.Players.Money

/-!
# Mail

A mail lies with its receiver.  It lists the guids of its attachments; the items themselves are in
`mMitems` of the receiver.  Whether a character is online makes a difference to where all this is kept, in
the database or also in memory, and not to what there is, so one `Character` stands for both.

Mails that are deleted are not in `m_mail` any more here.  What a mail says and how long it is kept is left
out.
-/

open Std (ExtTreeMap)

namespace Gundrak.Mails

open Players

/-- `MAX_MAIL_ITEMS`. -/
def MAX_MAIL_ITEMS : ℕ := 12

/-- `MailMessageType`. -/
inductive MailMessageType where
  | NORMAL
  | AUCTION
  | CREATURE
  | GAMEOBJECT
  | CALENDAR
deriving DecidableEq

/-- `Mail`; the sender is a character, or something else for another message type than `NORMAL`. -/
structure Mail where
  messageID : ℕ
  messageType : MailMessageType
  sender : ℕ
  receiver : ℕ
  items : List ℕ
  deliver_time : ℕ
  money : UInt32
  COD : UInt32
deriving DecidableEq

/-- `Mail::RemoveItem`. -/
def Mail.RemoveItem (m : Mail) (item_guid : ℕ) : Mail := { m with items := m.items.erase item_guid }

/-- What there is of a character. -/
structure Character where
  accountId : ℕ
  purse : Purse
  inventory : Player
  m_mail : List Mail
  mMitems : ExtTreeMap ℕ Item

namespace Character

variable (c : Character)

/-- `Player::GetMail`. -/
def GetMail (id : ℕ) : Option Mail := c.m_mail.find? (·.messageID = id)

/-- A mail that is there and has been delivered. -/
def deliveredMail (id time : ℕ) : Option Mail := (c.GetMail id).filter (·.deliver_time ≤ time)

/-- `Player::RemoveMail`. -/
def RemoveMail (id : ℕ) : Character := { c with m_mail := c.m_mail.eraseP (·.messageID = id) }

/-- Change a mail, through the pointer that `GetMail` has given. -/
def setMail (m : Mail) : Character :=
  { c with m_mail := c.m_mail.map fun m' ↦ if m'.messageID = m.messageID then m else m' }

/-- `Player::AddMItem`. -/
def AddMItem (it : Item) : Character := { c with mMitems := c.mMitems.insert it.guid it }

/-- `Player::RemoveMItem`. -/
def RemoveMItem (id : ℕ) : Character := { c with mMitems := c.mMitems.erase id }

end Character

/-- All characters, and the generators of item guids and mail ids. -/
structure World where
  characters : ExtTreeMap ℕ Character
  nextGuid : ℕ
  mailId : ℕ

/-- `MailDraft`; the attachments are a map, since a guid can be sent twice by a client. -/
structure MailDraft where
  m_items : ExtTreeMap ℕ Item
  m_money : UInt32
  m_COD : UInt32

/-- `MailDraft::SendMailTo`. -/
def MailDraft.SendMailTo (draft : MailDraft) (w : World) (receiver : ℕ) (messageType : MailMessageType)
    (sender deliver_time : ℕ) : World :=
  let m : Mail :=
    { messageID := w.mailId, messageType, sender, receiver, items := draft.m_items.keys, deliver_time
      money := draft.m_money, COD := draft.m_COD }
  { w with
    mailId := w.mailId + 1
    characters := w.characters.modify receiver fun c ↦
      (draft.m_items.toList.map Prod.snd).foldl Character.AddMItem { c with m_mail := m :: c.m_mail } }

/-- `MailDraft::SendReturnToSender`.  If the sender is offline his account is asked for, and if there is none
the attachments are deleted. -/
def MailDraft.SendReturnToSender (draft : MailDraft) (w : World)
    (sender_acc sender_guid receiver_guid time delay : ℕ) (connected : Bool) : World :=
  match w.characters[receiver_guid]? with
  | none => w
  | some receiver =>
    let rc_account := if connected then 0 else receiver.accountId
    let needItemDelay := !draft.m_items.isEmpty && sender_acc ≠ rc_account
    draft.SendMailTo w receiver_guid .NORMAL sender_guid (time + if needItemDelay then delay else 0)

end Gundrak.Mails
