import Gundrak.Mails.Deliveries

/-!
# Mail is conserved

The handlers of mail move gold and items between characters and mails, and nothing but postage should be
lost.  Two of them can lose something, or make it.

* `HandleMailReturnToSender` takes any mail away, and sends its content on only if the mail is of the type
  `MAIL_NORMAL` and has a sender.  What a player has bought at an auction and returns from his mailbox is gone.
* `HandleMailTakeMoney` hands an `uint32` to `ModifyMoney`, which takes an `int32`: from `2 ^ 31` on the
  money is subtracted.

`Keeps` leaves these out.  **`mail_conserved_of_reaches`** then says of all runs that gold and postage
together are what they were at the start, as is how much there is of every item; that every item is in one
inventory or attached to one mail; that whoever takes the first attachment of a mail pays the COD, and nobody
does after him; and that no amount is too large for an `int32`.
-/

open Std (ExtTreeMap)

namespace Gundrak.Mails

open Players

variable {mgr : ObjectMgr} {start w w' : World} {call : Call} {l : Ledger}

/-! ## What a handler accepts -/

/-- What a handler leaves when it answers `MAIL_OK`, and what it has found before. -/
inductive World.Accepts (mgr : ObjectMgr) (w : World) : Call → World → Prop
  | sendMail {guid receiver : ℕ} {packet : SendMail} {c : Character} {sameAccount : Bool}
      (hc : w.characters[guid]? = some c) (hlength : packet.itemGUIDs.length ≤ MAX_MAIL_ITEMS)
      (hreceiver : packet.receiverGuid = some receiver)
      (hsum : ¬ packet.reqmoney < packet.money)
      (henough : c.purse.HasEnoughMoney packet.reqmoney = true)
      (herror : packet.itemGUIDs.findSome? (packet.attachmentError mgr c.inventory sameAccount) = none) :
      Accepts mgr w (.HandleSendMail guid packet) (w.sendMail mgr guid c receiver packet sameAccount)
  | takeItem {guid id itemId time : ℕ} {box bound : Bool} {c : Character} {m : Mail} {it : Item}
      (hc : w.characters[guid]? = some c) (hm : c.deliveredMail id time = some m)
      (hitem : itemId ∈ m.items) (henough : c.purse.HasEnoughMoney m.COD = true)
      (hget : c.mMitems[itemId]? = some it)
      (hok : (c.inventory.CanStoreItem mgr NULL_BAG NULL_SLOT it.entry it.count
        (some { it with bindedNotWith := bound }) false none).result = .OK) :
      Accepts mgr w (.HandleMailTakeItem guid id itemId box bound time)
        (w.takeItem mgr guid c m itemId { it with bindedNotWith := bound }
          (c.inventory.CanStoreItem mgr NULL_BAG NULL_SLOT it.entry it.count
            (some { it with bindedNotWith := bound }) false none).dest time)
  | takeMoney {guid id time : ℕ} {box : Bool} {c : Character} {m : Mail} {purse : Purse}
      (hc : w.characters[guid]? = some c) (hm : c.deliveredMail id time = some m)
      (hp : c.purse.ModifyMoney (int32 m.money.toNat) = (purse, true)) :
      Accepts mgr w (.HandleMailTakeMoney guid id box time)
        { w with characters := w.characters.insert guid ({ c with purse }.setMail { m with money := 0 }) }
  | returned {guid id time delay : ℕ} {box connected : Bool} {c : Character} {m : Mail}
      (hc : w.characters[guid]? = some c) (hm : c.deliveredMail id time = some m)
      (htype : m.messageType = .NORMAL ∧ m.sender ≠ 0) :
      Accepts mgr w (.HandleMailReturnToSender guid id box connected time delay)
        (MailDraft.SendReturnToSender
          { m_items := (World.detach m.items c.mMitems).1, m_money := m.money, m_COD := 0 }
          { w with
            characters := w.characters.insert guid
              { c.RemoveMail id with mMitems := (World.detach m.items c.mMitems).2 } }
          c.accountId m.receiver m.sender time delay connected)
  | deleted {guid id time delay : ℕ} {box connected : Bool} {c : Character} {m : Mail}
      (hc : w.characters[guid]? = some c) (hm : c.deliveredMail id time = some m)
      (htype : ¬ (m.messageType = .NORMAL ∧ m.sender ≠ 0)) :
      Accepts mgr w (.HandleMailReturnToSender guid id box connected time delay)
        { w with characters := w.characters.insert guid (c.RemoveMail id) }

/-- A call is refused and nothing happens, or it is accepted. -/
def World.Outcome (mgr : ObjectMgr) (w : World) (call : Call) (x : Option MailResponseResult × World) :
    Prop :=
  x.1 ≠ some .OK ∧ x.2 = w ∨ x.1 = some .OK ∧ w.Accepts mgr call x.2

theorem World.Outcome.refused {result : Option MailResponseResult} (h : result ≠ some .OK) :
    w.Outcome mgr call (result, w) := .inl ⟨h, rfl⟩

theorem attachmentError_ne_OK {packet : SendMail} {player : Player} {sameAccount : Bool} {guid : ℕ} :
    packet.attachmentError mgr player sameAccount guid ≠ some .OK := by
  rw [SendMail.attachmentError]
  split
  · simp
  split
  · simp
  · dsimp only
    split_ifs <;> simp

theorem outcome_sendMail (guid : ℕ) (packet : SendMail) :
    w.Outcome mgr (.HandleSendMail guid packet) (w.HandleSendMail mgr guid packet) := by
  rw [World.HandleSendMail]
  cases hc : w.characters[guid]? with
  | none => exact .refused nofun
  | some c =>
    dsimp only
    split
    · exact .refused nofun
    rename_i hlength
    split
    · exact .refused nofun
    cases hreceiver : packet.receiverGuid with
    | none => exact .refused nofun
    | some receiver =>
      dsimp only
      split
      · exact .refused nofun
      split
      · exact .refused nofun
      rename_i hsum
      split
      · exact .refused nofun
      rename_i henough
      split
      · exact .refused nofun
      split
      · exact .refused nofun
      split
      · exact .refused nofun
      split
      · rename_i error herror
        obtain ⟨item_guid, -, hitem⟩ := List.exists_of_findSome?_eq_some herror
        exact .refused fun hok ↦ attachmentError_ne_OK (hitem.trans hok)
      · rename_i herror
        exact .inr ⟨rfl, .sendMail hc (Nat.le_of_not_gt hlength) hreceiver hsum
          (by simpa using henough) herror⟩

theorem outcome_takeItem (guid id itemId : ℕ) (box bound : Bool) (time : ℕ) :
    w.Outcome mgr (.HandleMailTakeItem guid id itemId box bound time)
      (w.HandleMailTakeItem mgr guid id itemId box bound time) := by
  rw [World.HandleMailTakeItem]
  cases hc : w.characters[guid]? with
  | none => exact .refused nofun
  | some c =>
    dsimp only
    split
    · exact .refused nofun
    cases hm : c.deliveredMail id time with
    | none => exact .refused nofun
    | some m =>
      dsimp only
      split
      · exact .refused nofun
      rename_i hitem
      split
      · exact .refused nofun
      rename_i henough
      cases hget : c.mMitems[itemId]? with
      | none => exact .refused nofun
      | some it =>
        dsimp only
        split
        · rename_i hok
          exact .inr ⟨rfl, .takeItem hc hm (by simpa using hitem) (by simpa using henough) hget hok⟩
        · exact .refused nofun

/-- Said of any result of `ModifyMoney`, so that nothing computes an `int32` here. -/
theorem takeMoney_cases (guid : ℕ) (c : Character) (m : Mail) (result : Purse × Bool) :
    (w.takeMoney guid c m result).1 ≠ some .OK ∧ (w.takeMoney guid c m result).2 = w ∨
      ∃ purse, result = (purse, true) ∧ w.takeMoney guid c m result = (some .OK, { w with
          characters := w.characters.insert guid ({ c with purse }.setMail { m with money := 0 }) }) := by
  obtain ⟨purse, success⟩ := result
  cases success with
  | false => exact .inl ⟨nofun, rfl⟩
  | true => exact .inr ⟨purse, rfl, rfl⟩

theorem outcome_takeMoney (guid id : ℕ) (box : Bool) (time : ℕ) :
    w.Outcome mgr (.HandleMailTakeMoney guid id box time) (w.HandleMailTakeMoney guid id box time) := by
  rw [World.HandleMailTakeMoney]
  cases hc : w.characters[guid]? with
  | none => exact .refused nofun
  | some c =>
    dsimp only
    split
    · exact .refused nofun
    cases hm : c.deliveredMail id time with
    | none => exact .refused nofun
    | some m =>
      dsimp only
      rcases takeMoney_cases guid c m (c.purse.ModifyMoney (int32 m.money.toNat)) with
        hrefused | ⟨purse, hp, heq⟩
      · exact .inl hrefused
      · rw [heq]
        exact .inr ⟨rfl, .takeMoney hc hm hp⟩

theorem outcome_return (guid id : ℕ) (box connected : Bool) (time delay : ℕ) :
    w.Outcome mgr (.HandleMailReturnToSender guid id box connected time delay)
      (w.HandleMailReturnToSender guid id box connected time delay) := by
  rw [World.HandleMailReturnToSender]
  cases hc : w.characters[guid]? with
  | none => exact .refused nofun
  | some c =>
    dsimp only
    split
    · exact .refused nofun
    cases hm : c.deliveredMail id time with
    | none => exact .refused nofun
    | some m =>
      dsimp only
      split
      · rename_i htype
        exact .inr ⟨rfl, .returned hc hm htype⟩
      · rename_i htype
        exact .inr ⟨rfl, .deleted hc hm htype⟩

/-- **Every call** is refused or accepted. -/
theorem outcome_handle (call : Call) : w.Outcome mgr call (w.handle mgr call) := by
  cases call with
  | HandleSendMail guid packet => exact outcome_sendMail guid packet
  | HandleMailTakeItem guid id itemId box bound time =>
    exact outcome_takeItem guid id itemId box bound time
  | HandleMailTakeMoney guid id box time => exact outcome_takeMoney guid id box time
  | HandleMailReturnToSender guid id box connected time delay =>
    exact outcome_return guid id box connected time delay

/-! ## Mails, one by one -/

/-- A mail out of which something has been taken costs nothing any more, and any other mail is as it was, but
for its money. -/
def MailRule (takes : List Take) (p : ℕ) (m m' : Mail) : Prop :=
  if takes.any fun t ↦ t.receiver = p ∧ t.messageID = m.messageID then m'.COD = 0
  else m'.COD = m.COD ∧ m'.items = m.items

/-- Each mail has been there before, or is the one new mail. -/
def MailsFrom (takes : List Take) (w w' : World) : Prop :=
  ∀ (p : ℕ) (c' : Character), w'.characters[p]? = some c' → ∀ m' ∈ c'.m_mail,
    m'.messageID = w.mailId ∨ ∃ c : Character, w.characters[p]? = some c ∧ ∃ m ∈ c.m_mail,
      m'.messageID = m.messageID ∧ MailRule takes p m m'

variable {takes : List Take} {p id : ℕ} {c c' : Character} {m m' : Mail}

theorem mailRule_of_not (hnot : ¬ takes.any (fun t ↦ t.receiver = p ∧ t.messageID = m.messageID) = true)
    (hcod : m'.COD = m.COD) (hitems : m'.items = m.items) : MailRule takes p m m' := by
  rw [MailRule, if_neg hnot]
  exact ⟨hcod, hitems⟩

theorem mailsFrom_refl : MailsFrom [] w w :=
  fun _ c' hc' m' hm' ↦ .inr ⟨c', hc', m', hm', rfl, mailRule_of_not Bool.false_ne_true rfl rfl⟩

theorem mailsFrom_insert {n id : ℕ} (htakes : ∀ t ∈ takes, t.receiver = p) (hc : w.characters[p]? = some c)
    (hmails : ∀ m' ∈ c'.m_mail, ∃ m ∈ c.m_mail, m'.messageID = m.messageID ∧ MailRule takes p m m') :
    MailsFrom takes w ⟨w.characters.insert p c', n, id⟩ := by
  intro q d hd m' hm'
  rw [TreeMap.get_insert] at hd
  split at hd
  · rename_i hq
    obtain rfl := hq
    obtain rfl := Option.some.inj hd
    exact .inr ⟨c, hc, hmails m' hm'⟩
  · rename_i hq
    refine .inr ⟨d, hd, m', hm', rfl, mailRule_of_not (fun hany ↦ ?_) rfl rfl⟩
    obtain ⟨t, ht, heq⟩ := List.any_eq_true.mp hany
    exact hq ((htakes t ht).symm.trans (of_decide_eq_true heq).1)

theorem foldl_AddMItem (items : List Item) (c : Character) : (items.foldl Character.AddMItem c).m_mail = c.m_mail ∧
      (items.foldl Character.AddMItem c).purse = c.purse := by
  induction items generalizing c with
  | nil => exact ⟨rfl, rfl⟩
  | cons it items ih => exact ih (c.AddMItem it)

variable {draft : MailDraft} {receiver sender t : ℕ} {type : MailMessageType}

theorem sendMailTo_get (h : (draft.SendMailTo w receiver type sender t).characters[p]? = some c') :
    ∃ c : Character, w.characters[p]? = some c ∧ c'.purse = c.purse ∧
      (c'.m_mail = c.m_mail ∨ ∃ m : Mail, m.messageID = w.mailId ∧ c'.m_mail = m :: c.m_mail) := by
  rw [MailDraft.SendMailTo] at h
  rw [TreeMap.get_modify] at h
  split at h
  · rename_i hp
    obtain ⟨c, hc, rfl⟩ := Option.map_eq_some_iff.mp h
    obtain ⟨hmail, hpurse⟩ := foldl_AddMItem (draft.m_items.toList.map Prod.snd)
      { c with m_mail := ⟨w.mailId, type, sender, receiver, draft.m_items.keys, t, draft.m_money,
        draft.m_COD⟩ :: c.m_mail }
    exact ⟨c, hp ▸ hc, hpurse, .inr ⟨_, rfl, hmail⟩⟩
  · exact ⟨c', h, rfl, .inl rfl⟩

theorem sendMailTo_receiver (h : receiver ∈ w.characters) :
    ∃ c' : Character, (draft.SendMailTo w receiver type sender t).characters[receiver]? = some c' ∧
      ∃ m ∈ c'.m_mail, m.messageID = w.mailId ∧ m.money = draft.m_money := by
  obtain ⟨c, hc⟩ := (TreeMap.mem_iff _ _).mp h
  rw [MailDraft.SendMailTo]
  rw [TreeMap.get_modify, if_pos rfl, hc, Option.map_some]
  refine ⟨_, rfl, ⟨w.mailId, type, sender, receiver, draft.m_items.keys, t, draft.m_money, draft.m_COD⟩, ?_, rfl, rfl⟩
  rw [(foldl_AddMItem _ _).1]
  simp

theorem mailsFrom_sendMailTo {w₁ : World} (h : MailsFrom takes w w₁) (hid : w₁.mailId = w.mailId) :
    MailsFrom takes w (draft.SendMailTo w₁ receiver type sender t) := by
  intro q c' hc' m' hm'
  obtain ⟨c, hc, -, hmail⟩ := sendMailTo_get hc'
  rcases hmail with hmail | ⟨m, hm, hmail⟩
  · exact h q c hc m' (hmail ▸ hm')
  · rw [hmail] at hm'
    rcases List.mem_cons.mp hm' with rfl | hm'
    · exact .inl (hm.trans hid)
    · exact h q c hc m' hm'

theorem money_sendMailTo : (draft.SendMailTo w receiver type sender t).money p = w.money p := by
  rw [World.money, World.money, MailDraft.SendMailTo]
  rw [TreeMap.get_modify]
  split
  · rename_i hp
    rw [Option.map_map, hp]
    congr 2
    funext c
    exact congrArg Purse.money (foldl_AddMItem _ _).2
  · rfl

/-! ## One call -/

/-- The receiver of a mail, and whoever is to get money or a mail back, is there. -/
def World.Exists (w : World) : Call → Prop
  | .HandleSendMail _ packet => ∀ receiver, packet.receiverGuid = some receiver → receiver ∈ w.characters
  | .HandleMailTakeItem guid id _ _ _ _ => ∀ m, w.mail guid id = some m → m.COD > 0 → m.sender ∈ w.characters
  | .HandleMailTakeMoney .. => True
  | .HandleMailReturnToSender guid id _ _ _ _ => ∀ m, w.mail guid id = some m →
    m.messageType = .NORMAL → m.sender ≠ 0 → m.sender ∈ w.characters

/-- A mail that is returned goes back, or is empty, and no mail has `2 ^ 31` copper or more that are taken. -/
def World.Keeps (w : World) : Call → Prop
  | .HandleSendMail .. | .HandleMailTakeItem .. => True
  | .HandleMailTakeMoney guid id _ _ => ∀ m, w.mail guid id = some m → m.money.toNat < 2 ^ 31
  | .HandleMailReturnToSender guid id _ _ _ _ => ∀ m, w.mail guid id = some m →
    m.messageType = .NORMAL ∧ m.sender ≠ 0 ∨ m.money = 0 ∧ m.items = []

/-- What is right about a call that is made in `w` and leaves `w'`. -/
structure Handled (mgr : ObjectMgr) (w : World) (call : Call) (w' : World) : Prop where
  /-- no COD changes but that of a mail out of which something is taken -/
  mails : MailsFrom (w.takes mgr call) w w'
  /-- whoever takes something pays the COD of the mail, and the sender gets it with a mail -/
  takes : ∀ t ∈ w.takes mgr call, t.paid = t.COD ∧ ∃ m, w.mail t.receiver t.messageID = some m ∧
    m.COD.toNat = t.COD ∧ (m.COD > 0 → ∃ c' : Character, w'.characters[m.sender]? = some c' ∧
      ∃ payment ∈ c'.m_mail, payment.messageID = w.mailId ∧ payment.money = m.COD)
  /-- no `uint32` is too large for an `int32` -/
  converted : ∀ amount ∈ w.converted mgr call, int32 amount.toNat = amount.toNat
  /-- postage and money are added without a carry -/
  reqmoney : ∀ guid packet, call = .HandleSendMail guid packet → (w.handle mgr call).1 = some .OK →
    packet.reqmoney.toNat = packet.cost.toNat + packet.money.toNat ∧
      packet.cost.toNat = 30 * max 1 packet.itemGUIDs.length

theorem mail_eq {time : ℕ} (hc : w.characters[p]? = some c) (hm : c.deliveredMail id time = some m) :
    w.mail p id = some m := by
  rw [World.mail, hc, Option.bind_some]
  exact (Option.filter_eq_some_iff.mp hm).1

theorem int32_of_enough {amount : UInt32} (h : c.purse.HasEnoughMoney amount = true) :
    int32 amount.toNat = amount.toNat := by
  have hle : amount.toNat ≤ c.purse.money := of_decide_eq_true h
  have hmax := c.purse.le_max
  have hval : MAX_MONEY_AMOUNT.toNat = 0x7FFFFFFF := rfl
  exact int32_of_mem (by omega) (by omega)

theorem cost_eq {packet : SendMail} (h : packet.itemGUIDs.length ≤ MAX_MAIL_ITEMS) :
    packet.cost.toNat = 30 * max 1 packet.itemGUIDs.length := by
  rw [MAX_MAIL_ITEMS] at h
  rw [SendMail.cost]
  split
  · rename_i hnil
    rw [hnil]
    rfl
  · rename_i hne
    have hpos := List.length_pos_iff.mpr hne
    rw [max_eq_right hpos, UInt32.toNat_ofNat_of_lt']
    exact Nat.lt_of_le_of_lt (Nat.mul_le_mul_left 30 h) (by decide)

theorem Character.Holds.rule {l₁ l₂ : List Mail} (hl : c.Holds m l₁ l₂)
    (hid : m'.messageID = m.messageID) (hrule : MailRule takes p m m')
    (htakes : ∀ t ∈ takes, t.messageID = m.messageID) :
    ∀ x ∈ l₁ ++ m' :: l₂, ∃ y ∈ c.m_mail, x.messageID = y.messageID ∧ MailRule takes p y x := by
  intro x hx
  rw [hl.m_mail]
  rw [List.mem_append, List.mem_cons] at hx
  by_cases hsame : x = m'
  · obtain rfl := hsame
    exact ⟨m, List.mem_append_right _ List.mem_cons_self, hid, hrule⟩
  · have hmem : x ∈ l₁ ++ l₂ := by
      rw [List.mem_append]
      tauto
    refine ⟨x, ?_, rfl, mailRule_of_not (fun hany ↦ ?_) rfl rfl⟩
    · rw [List.mem_append] at hmem
      rw [List.mem_append, List.mem_cons]
      tauto
    · obtain ⟨t, ht, heq⟩ := List.any_eq_true.mp hany
      exact hl.ids x hmem ((of_decide_eq_true heq).2.symm.trans (htakes t ht))

theorem mailRule_nil (hcod : m'.COD = m.COD) (hitems : m'.items = m.items) : MailRule [] p m m' :=
  mailRule_of_not Bool.false_ne_true hcod hitems

section

variable (hs : w.Sound mgr 0) (hc : w.characters[p]? = some c) {time : ℕ}
  (hm : c.deliveredMail id time = some m)
include hs hc hm

theorem mailsFrom_takeMoney (purse : Purse) : MailsFrom [] w { w with
      characters := w.characters.insert p ({ c with purse }.setMail { m with money := 0 }) } := by
  obtain ⟨-, l₁, l₂, hl⟩ := holds_of_deliveredMail (hs.character p c hc).ids hm
  have hmail : ({ c with purse }.setMail { m with money := 0 }).m_mail =
      l₁ ++ { m with money := 0 } :: l₂ := hl.setMail _ rfl
  refine mailsFrom_insert (fun t ht ↦ absurd ht List.not_mem_nil) hc ?_
  rw [hmail]
  exact hl.rule rfl (mailRule_nil rfl rfl) fun t ht ↦ absurd ht List.not_mem_nil

theorem mailsFrom_removed (mMitems : ExtTreeMap ℕ Item) :
    MailsFrom [] w { w with characters := w.characters.insert p { c.RemoveMail id with mMitems } } := by
  obtain ⟨rfl, l₁, l₂, hl⟩ := holds_of_deliveredMail (hs.character p c hc).ids hm
  refine mailsFrom_insert (fun t ht ↦ absurd ht List.not_mem_nil) hc fun x hx ↦ ?_
  have hx' : x ∈ l₁ ++ l₂ := hl.removeMail ▸ hx
  refine ⟨x, ?_, rfl, mailRule_nil rfl rfl⟩
  rw [List.mem_append] at hx'
  rw [hl.m_mail, List.mem_append, List.mem_cons]
  tauto

end

theorem mailsFrom_returned {w₁ : World} {account delay time : ℕ} {connected : Bool}
    (h : MailsFrom takes w w₁) (hid : w₁.mailId = w.mailId) :
    MailsFrom takes w (draft.SendReturnToSender w₁ account sender receiver time delay connected) := by
  rw [MailDraft.SendReturnToSender]
  split
  · exact h
  · exact mailsFrom_sendMailTo h hid

theorem mailsFrom_sendMail (hc : w.characters[p]? = some c) {packet : SendMail} {sameAccount : Bool} :
    MailsFrom [] w (w.sendMail mgr p c receiver packet sameAccount) := by
  refine mailsFrom_sendMailTo (mailsFrom_insert (fun t ht ↦ absurd ht List.not_mem_nil) hc ?_) rfl
  exact fun m' hm' ↦ ⟨m', hm', rfl, mailRule_nil rfl rfl⟩

theorem mailsFrom_takeItem (hs : w.Sound mgr 0) (hc : w.characters[p]? = some c) {time itemId : ℕ}
    (hm : c.deliveredMail id time = some m) {x : Take} (hx : x.receiver = p ∧ x.messageID = id) {it : Item}
    {dest : List (ℕ × ℕ)} : MailsFrom [x] w (w.takeItem mgr p c m itemId it dest time) := by
  obtain ⟨rfl, l₁, l₂, hl⟩ := holds_of_deliveredMail (hs.character p c hc).ids hm
  have hall : ∀ t ∈ [x], t.receiver = p ∧ t.messageID = m.messageID := by
    intro t ht
    rw [List.mem_singleton.mp ht]
    exact hx
  have hrule : MailRule [x] p m { m.RemoveItem itemId with COD := 0 } := by
    rw [MailRule, if_pos (List.any_eq_true.mpr ⟨x, List.mem_singleton_self x, decide_eq_true hx⟩)]
  have hinsert : ∀ (purse : Purse) (inventory : Player) (n : ℕ), MailsFrom [x] w { w with
        characters := w.characters.insert p (({ c with purse, inventory }.setMail
          { m.RemoveItem itemId with COD := 0 }).RemoveMItem it.guid)
        nextGuid := n } := by
    intro purse inventory n
    have hmail : (({ c with purse, inventory }.setMail
        { m.RemoveItem itemId with COD := 0 }).RemoveMItem it.guid).m_mail =
        l₁ ++ { m.RemoveItem itemId with COD := 0 } :: l₂ := hl.setMail _ rfl
    refine mailsFrom_insert (fun t ht ↦ (hall t ht).1) hc ?_
    rw [hmail]
    exact hl.rule rfl hrule fun t ht ↦ (hall t ht).2
  rw [World.takeItem]
  split
  · exact mailsFrom_sendMailTo (hinsert _ _ _) rfl
  · exact hinsert _ _ _

/-- Who takes an item has paid for it, and the sender has the money in a mail. -/
theorem takeItem_paid (hc : w.characters[p]? = some c) {time itemId : ℕ} {it : Item}
    {dest : List (ℕ × ℕ)} (henough : c.purse.HasEnoughMoney m.COD = true)
    (hexists : m.COD > 0 → m.sender ∈ w.characters) :
    (w.takeItem mgr p c m itemId it dest time).money p + m.COD.toNat = w.money p ∧ (m.COD > 0 → ∃ c' : Character,
        (w.takeItem mgr p c m itemId it dest time).characters[m.sender]? = some c' ∧
          ∃ payment ∈ c'.m_mail, payment.messageID = w.mailId ∧ payment.money = m.COD) := by
  have hpaid := paid_spec henough
  have hinsert : ∀ (c' : Character) (n : ℕ),
      World.money ⟨w.characters.insert p c', n, w.mailId⟩ p = c'.purse.money := by
    intro c' n
    simp [World.money]
  have hold : w.money p = c.purse.money := by
    simp [World.money, hc]
  rw [World.takeItem]
  split
  · rename_i hcod
    rw [money_sendMailTo, hinsert, hold]
    refine ⟨hpaid, fun _ ↦ ?_⟩
    exact sendMailTo_receiver ((TreeMap.mem_iff _ _).mpr (exists_insert hcod.2 _))
  · rename_i hcod
    rw [hinsert, hold]
    exact ⟨hpaid, fun hpos ↦ absurd ⟨hpos, hexists hpos⟩ hcod⟩

/-- **A call that is accepted** keeps the accounts, if nobody is missing and nothing is thrown away. -/
theorem step_of_accepts (hs : w.Sound mgr 0) (hok : (w.handle mgr call).1 = some .OK)
    (h : w.Accepts mgr call (w.handle mgr call).2) (hexists : w.Exists call) (hkeeps : w.Keeps call) :
    Step mgr w (w.handle mgr call).2 (w.postage mgr call) := by
  generalize hw' : (w.handle mgr call).2 = w' at h ⊢
  cases h with
  | @sendMail guid receiver packet c sameAccount hc hlength hreceiver hsum henough herror =>
    have hcost : w.postage mgr (.HandleSendMail guid packet) = packet.cost.toNat := if_pos hok
    rw [hcost]
    exact step_sendMail hs hc (hexists _ hreceiver) hsum henough herror
  | takeItem hc hm hitem henough hget hstore =>
    exact step_takeItem hs hc hm hitem hget henough (hexists _ (mail_eq hc hm)) hstore
  | takeMoney hc hm hp => exact step_takeMoney hs hc hm (hkeeps _ (mail_eq hc hm)) hp
  | returned hc hm htype =>
    exact step_return hs hc hm (hexists _ (mail_eq hc hm) htype.1 htype.2)
  | deleted hc hm htype =>
    obtain ⟨hmoney, hitems⟩ := (hkeeps _ (mail_eq hc hm)).resolve_left htype
    exact step_delete hs hc hm hmoney hitems

theorem takes_of_ok {guid itemId time : ℕ} {box bound : Bool}
    (h : (w.handle mgr (.HandleMailTakeItem guid id itemId box bound time)).1 = some .OK) :
    w.takes mgr (.HandleMailTakeItem guid id itemId box bound time) =
      [⟨guid, id, ((w.mail guid id).map (·.COD.toNat)).getD 0, w.money guid -
        (w.handle mgr (.HandleMailTakeItem guid id itemId box bound time)).2.money guid⟩] := if_pos h

theorem takes_of_not (h : (w.handle mgr call).1 ≠ some .OK) : w.takes mgr call = [] := by
  cases call with
  | HandleMailTakeItem guid id itemId box bound time => exact if_neg h
  | HandleSendMail | HandleMailTakeMoney | HandleMailReturnToSender => rfl

theorem mails_of_accepts (hs : w.Sound mgr 0) (hok : (w.handle mgr call).1 = some .OK)
    (h : w.Accepts mgr call (w.handle mgr call).2) :
    MailsFrom (w.takes mgr call) w (w.handle mgr call).2 ∧ w.mailId ≤ (w.handle mgr call).2.mailId := by
  generalize hw' : (w.handle mgr call).2 = w' at h ⊢
  cases h with
  | sendMail hc => exact ⟨mailsFrom_sendMail hc, Nat.le_succ _⟩
  | takeItem hc hm =>
    rw [takes_of_ok hok]
    refine ⟨mailsFrom_takeItem hs hc hm ⟨rfl, rfl⟩, ?_⟩
    rw [World.takeItem]
    split
    · exact Nat.le_succ _
    · exact le_rfl
  | takeMoney hc hm => exact ⟨mailsFrom_takeMoney hs hc hm _, le_rfl⟩
  | returned hc hm =>
    refine ⟨mailsFrom_returned (mailsFrom_removed hs hc hm _) rfl, ?_⟩
    rw [MailDraft.SendReturnToSender]
    split
    · exact le_rfl
    · exact Nat.le_succ _
  | deleted hc hm => exact ⟨mailsFrom_removed hs hc hm _, le_rfl⟩

theorem takes_of_accepts (hok : (w.handle mgr call).1 = some .OK)
    (h : w.Accepts mgr call (w.handle mgr call).2) (hexists : w.Exists call) :
    ∀ t ∈ w.takes mgr call, t.paid = t.COD ∧ ∃ m, w.mail t.receiver t.messageID = some m ∧
      m.COD.toNat = t.COD ∧ (m.COD > 0 → ∃ c' : Character, (w.handle mgr call).2.characters[m.sender]? = some c' ∧
          ∃ payment ∈ c'.m_mail, payment.messageID = w.mailId ∧ payment.money = m.COD) := by
  cases call with
  | HandleSendMail | HandleMailTakeMoney | HandleMailReturnToSender =>
    exact fun t ht ↦ absurd ht List.not_mem_nil
  | HandleMailTakeItem guid id itemId box bound time =>
    rw [takes_of_ok hok]
    intro t ht
    obtain rfl := List.mem_singleton.mp ht
    generalize (w.handle mgr (.HandleMailTakeItem guid id itemId box bound time)).2 = w' at h ⊢
    cases h with
    | @takeItem _ _ _ _ _ _ c m it hc hm hitem henough hget hstore =>
      have hmail := mail_eq hc hm
      obtain ⟨hpaid, hpayment⟩ := takeItem_paid hc henough (hexists m hmail)
      rw [hmail, Option.map_some, Option.getD_some]
      refine ⟨?_, m, rfl, rfl, hpayment⟩
      simp [← hpaid]

theorem converted_of_outcome (h : w.Outcome mgr call (w.handle mgr call)) (hkeeps : w.Keeps call) :
    ∀ amount ∈ w.converted mgr call, int32 amount.toNat = amount.toNat := by
  intro amount hamount
  cases call with
  | HandleSendMail guid packet =>
    obtain ⟨hok, hmem⟩ := List.mem_ite_nil_right.mp hamount
    obtain rfl := List.mem_singleton.mp hmem
    obtain ⟨hno, -⟩ | ⟨-, haccepts⟩ := h
    · exact absurd hok hno
    · generalize (w.handle mgr (.HandleSendMail guid packet)).2 = w' at haccepts
      cases haccepts with
      | sendMail hc hlength hreceiver hsum henough herror => exact int32_of_enough henough
  | HandleMailTakeItem guid id itemId box bound time =>
    obtain ⟨hok, hmem⟩ := List.mem_ite_nil_right.mp hamount
    obtain ⟨hno, -⟩ | ⟨-, haccepts⟩ := h
    · exact absurd hok hno
    · generalize (w.handle mgr (.HandleMailTakeItem guid id itemId box bound time)).2 = w' at haccepts
      cases haccepts with
      | takeItem hc hm hitem henough hget hstore =>
        rw [mail_eq hc hm, Option.map_some, Option.toList_some, List.mem_singleton] at hmem
        exact hmem ▸ int32_of_enough henough
  | HandleMailTakeMoney guid id box time =>
    obtain ⟨m, hm, rfl⟩ := Option.map_eq_some_iff.mp (Option.mem_toList.mp hamount)
    have hlt := hkeeps m hm
    exact int32_of_mem (by omega) (by omega)
  | HandleMailReturnToSender => exact absurd hamount List.not_mem_nil

/-- **Every call is handled** as it should be. -/
theorem handled_of_admitted (hs : w.Sound mgr 0) (hexists : w.Exists call) (hkeeps : w.Keeps call) :
    Handled mgr w call (w.handle mgr call).2 := by
  have houtcome : w.Outcome mgr call (w.handle mgr call) := outcome_handle call
  have hconverted := converted_of_outcome houtcome hkeeps
  obtain ⟨hno, hsame⟩ | ⟨hok, haccepts⟩ := houtcome
  · refine ⟨?_, ?_, hconverted, fun guid packet hcall hok ↦ absurd hok hno⟩
    · rw [takes_of_not hno, hsame]
      exact mailsFrom_refl
    · rw [takes_of_not hno]
      exact fun t ht ↦ absurd ht List.not_mem_nil
  · refine ⟨(mails_of_accepts hs hok haccepts).1, takes_of_accepts hok haccepts hexists, hconverted, ?_⟩
    rintro guid packet rfl -
    generalize (w.handle mgr (.HandleSendMail guid packet)).2 = w' at haccepts
    cases haccepts with
    | sendMail hc hlength hreceiver hsum henough herror => exact ⟨reqmoney_eq hsum, cost_eq hlength⟩

/-! ## All runs -/

/-- A call that the claim is about: nobody is missing. -/
def Claimed (l : Ledger) (call : Call) : Prop := l.world.Exists call

/-- A call that loses nothing. -/
def Admitted (l : Ledger) (call : Call) : Prop := l.world.Exists call ∧ l.world.Keeps call

/-- The accounts of a world in which players have sent mail. -/
structure Accounts (start : World) (l : Ledger) : Prop where
  gold : l.world.gold + l.postage = start.gold
  count : ∀ entry, l.world.itemCount entry = start.itemCount entry
  /-- every item is in one inventory or in one mailbox -/
  nodup : l.world.guids.Nodup
  /-- and those in a mailbox are attached to one mail -/
  attached : ∀ (p : ℕ) (c : Character), l.world.characters[p]? = some c → guidsIn c.mMitems = c.listed
  paid : ∀ t ∈ l.takes, t.paid = t.COD
  /-- after the first attachment of a mail has been taken, the others are free -/
  once : l.takes.Pairwise fun later earlier ↦
    later.receiver = earlier.receiver → later.messageID = earlier.messageID → later.paid = 0

/-- The mails out of which something has been taken cost nothing any more. -/
def Ledger.Settled (l : Ledger) : Prop :=
  ∀ t ∈ l.takes, t.messageID < l.world.mailId ∧ ∀ c : Character, l.world.characters[t.receiver]? = some c →
    ∀ m ∈ c.m_mail, m.messageID = t.messageID → m.COD = 0

theorem takes_length (w : World) (call : Call) : (w.takes mgr call).length ≤ 1 := by
  cases call with
  | HandleMailTakeItem guid id itemId box bound time =>
    rw [World.takes]
    dsimp only
    split
    · exact le_rfl
    · exact Nat.zero_le _
  | HandleSendMail | HandleMailTakeMoney | HandleMailReturnToSender => exact Nat.zero_le _

theorem mem_of_mail (h : w.mail p id = some m) :
    m.messageID = id ∧ ∃ c : Character, w.characters[p]? = some c ∧ m ∈ c.m_mail := by
  obtain ⟨c, hc, hm⟩ := Option.bind_eq_some_iff.mp h
  have hid := List.find?_some hm
  exact ⟨by simpa using hid, c, hc, List.mem_of_find?_eq_some hm⟩

theorem settled_next (hs : l.world.Sound mgr 0) (h : l.Settled) (hok : Admitted l call) :
    Ledger.Settled ⟨(l.world.handle mgr call).2, l.postage + l.world.postage mgr call,
      l.world.takes mgr call ++ l.takes⟩ := by
  have hhandled := handled_of_admitted hs hok.1 hok.2
  have hle : l.world.mailId ≤ (l.world.handle mgr call).2.mailId := by
    have houtcome : l.world.Outcome mgr call (l.world.handle mgr call) := outcome_handle call
    obtain ⟨-, hsame⟩ | ⟨hyes, haccepts⟩ := houtcome
    · rw [hsame]
    · exact (mails_of_accepts hs hyes haccepts).2
  intro t ht
  have hlt : t.messageID < l.world.mailId := by
    rcases List.mem_append.mp ht with ht | ht
    · obtain ⟨-, m, hm, -⟩ := hhandled.takes t ht
      obtain ⟨hid, c, hc, hmem⟩ := mem_of_mail hm
      exact hid ▸ hs.mailId _ c hc m hmem
    · exact (h t ht).1
  refine ⟨Nat.lt_of_lt_of_le hlt hle, fun c' hc' m' hm' hid ↦ ?_⟩
  rcases hhandled.mails _ c' hc' m' hm' with hnew | ⟨c, hc, m, hm, hsame, hrule⟩
  · exact absurd (hid.symm.trans hnew) (Nat.ne_of_lt hlt)
  · rw [MailRule] at hrule
    split at hrule
    · exact hrule
    · rename_i hnot
      rcases List.mem_append.mp ht with ht | ht
      · exact absurd (List.any_eq_true.mpr ⟨t, ht, decide_eq_true ⟨rfl, (hsame.symm.trans hid).symm⟩⟩) hnot
      · rw [hrule.1]
        exact (h t ht).2 c hc m hm (hsame.symm.trans hid)

/-- Who takes something out of a mail that something has been taken from pays nothing. -/
theorem free_of_settled (h : l.Settled) {t t' : Take} (ht : t ∈ l.takes) (hpaid : t'.paid = t'.COD)
    (hm : l.world.mail t'.receiver t'.messageID = some m) (hcod : m.COD.toNat = t'.COD)
    (hreceiver : t'.receiver = t.receiver) (hid : t'.messageID = t.messageID) : t'.paid = 0 := by
  obtain ⟨hmid, c, hc, hmem⟩ := mem_of_mail hm
  have hzero := (h t ht).2 c (hreceiver ▸ hc) m hmem (hmid.trans hid)
  rw [hpaid, ← hcod, hzero]
  rfl

/-- **Mail is conserved** in all runs in which nobody is missing and nothing is thrown away. -/
theorem mail_conserved_of_reaches (hstart : start.Sound mgr 0) (h : (mailing mgr start).Reaches Admitted l) :
    Accounts start l ∧
      ∀ call, Admitted l call → Handled mgr l.world call (l.world.handle mgr call).2 := by
  suffices hinv : l.world.Sound mgr 0 ∧ l.Settled ∧ Accounts start l from
    ⟨hinv.2.2, fun call hok ↦ handled_of_admitted hinv.1 hok.1 hok.2⟩
  refine h.invariant (P := fun l ↦ l.world.Sound mgr 0 ∧ l.Settled ∧ Accounts start l) ?_ ?_
  · refine ⟨hstart, fun t ht ↦ absurd ht List.not_mem_nil, rfl, fun _ ↦ rfl, ?_, fun p c hc ↦ ?_,
      fun t ht ↦ absurd ht List.not_mem_nil, .nil⟩
    · have hnodup := hstart.nodup
      rwa [add_zero] at hnodup
    · exact (hstart.character p c hc).attached
  · rintro l call l' ⟨hs, hsettled, haccounts⟩ hok hnext
    obtain rfl := Option.some.inj hnext
    have hhandled := handled_of_admitted hs hok.1 hok.2
    have hstep : Step mgr l.world (l.world.handle mgr call).2 (l.world.postage mgr call) := by
      have houtcome : l.world.Outcome mgr call (l.world.handle mgr call) := outcome_handle call
      obtain ⟨hno, hsame⟩ | ⟨hyes, haccepts⟩ := houtcome
      · have hfree : l.world.postage mgr call = 0 := by
          cases call with
          | HandleSendMail guid packet => exact if_neg hno
          | HandleMailTakeItem | HandleMailTakeMoney | HandleMailReturnToSender => rfl
        rw [hsame, hfree]
        exact Step.refl hs
      · exact step_of_accepts hs hyes haccepts hok.1 hok.2
    refine ⟨hstep.sound, settled_next hs hsettled hok, ?_, fun entry ↦ ?_, ?_, fun p c hc ↦ ?_, ?_, ?_⟩
    · have hgold := hstep.gold
      have hbefore := haccounts.gold
      dsimp only
      omega
    · exact (hstep.count entry).trans (haccounts.count entry)
    · simpa using hstep.sound.nodup
    · exact (hstep.sound.character p c hc).attached
    · intro t ht
      rcases List.mem_append.mp ht with ht | ht
      · exact (hhandled.takes t ht).1
      · exact haccounts.paid t ht
    · have htakes := hhandled.takes
      have hlength : (l.world.takes mgr call).length ≤ 1 := takes_length l.world call
      dsimp only
      generalize l.world.takes mgr call = takes at htakes hlength
      refine List.pairwise_append.mpr ⟨?_, haccounts.once, fun t' ht' t ht hreceiver hid ↦ ?_⟩
      · cases takes with
        | nil => exact .nil
        | cons t rest =>
          obtain rfl := List.length_eq_zero_iff.mp (Nat.le_zero.mp (Nat.le_of_succ_le_succ hlength))
          exact List.pairwise_singleton _ _
      · obtain ⟨hpaid, m, hm, hcod, -⟩ := htakes t' ht'
        exact free_of_settled hsettled ht hpaid hm hcod hreceiver hid

instance (w : World) : DecidablePred w.Exists
  | .HandleSendMail _ packet =>
    inferInstanceAs (Decidable (∀ receiver, packet.receiverGuid = some receiver → receiver ∈ w.characters))
  | .HandleMailTakeItem guid id _ _ _ _ =>
    inferInstanceAs (Decidable (∀ m, w.mail guid id = some m → m.COD > 0 → m.sender ∈ w.characters))
  | .HandleMailTakeMoney .. => inferInstanceAs (Decidable True)
  | .HandleMailReturnToSender guid id _ _ _ _ =>
    inferInstanceAs (Decidable (∀ m, w.mail guid id = some m →
      m.messageType = .NORMAL → m.sender ≠ 0 → m.sender ∈ w.characters))

instance (w : World) : DecidablePred w.Keeps
  | .HandleSendMail .. | .HandleMailTakeItem .. => inferInstanceAs (Decidable True)
  | .HandleMailTakeMoney guid id _ _ =>
    inferInstanceAs (Decidable (∀ m, w.mail guid id = some m → m.money.toNat < 2 ^ 31))
  | .HandleMailReturnToSender guid id _ _ _ _ =>
    inferInstanceAs (Decidable (∀ m, w.mail guid id = some m →
      m.messageType = .NORMAL ∧ m.sender ≠ 0 ∨ m.money = 0 ∧ m.items = []))

instance (l : Ledger) : DecidablePred (Claimed l) := fun call ↦ inferInstanceAs (Decidable (l.world.Exists call))

instance (l : Ledger) : DecidablePred (Admitted l) := fun _ ↦ inferInstanceAs (Decidable (_ ∧ _))

/-- Three of an item. -/
def threeOfOne : Item := { guid := 5, entry := 1, count := 3 }

/-- A player with one stack of items, and with a mail from the auction house. -/
def seller : Character where
  accountId := 1
  purse := ⟨1000, thousand_le_max⟩
  inventory := ⟨(∅ : ExtTreeMap ℕ Item).insert (makePos INVENTORY_SLOT_BAG_0 23) threeOfOne⟩
  m_mail := [{ messageID := 0, messageType := .AUCTION, sender := 2, receiver := 1, items := [],
               deliver_time := 0, money := 100, COD := 0 }]
  mMitems := ∅

/-- A player who has nothing but money. -/
def buyer : Character := ⟨2, ⟨500, by decide⟩, ⟨∅⟩, [], ∅⟩

/-- Two players. -/
def twoPlayers : World := ⟨((∅ : ExtTreeMap ℕ Character).insert 1 seller).insert 2 buyer, 6, 1⟩

theorem twoPlayers_get {p : ℕ} {c : Character} (h : twoPlayers.characters[p]? = some c) : c = seller ∨ c = buyer := by
  rw [twoPlayers] at h
  rw [TreeMap.get_insert, TreeMap.get_insert, ExtTreeMap.getElem?_empty] at h
  split_ifs at h with htwo hone
  · exact .inr (Option.some.inj h).symm
  · exact .inl (Option.some.inj h).symm

theorem sound_twoPlayers : twoPlayers.Sound Guilds.Holdings.stackMgr 0 := by
  have hseller : seller.guids = {5} := by
    rw [Character.guids, seller]
    rw [guidsIn_insert ExtTreeMap.getElem?_empty]
    rfl
  have hguids : twoPlayers.guids = {5} := by
    rw [World.guids, twoPlayers]
    rw [TreeMap.total_insert, TreeMap.total_insert ExtTreeMap.getElem?_empty, hseller]
    · rfl
    · rw [TreeMap.get_insert, ExtTreeMap.getElem?_empty]
      rfl
  have hitem : ∀ (pos : ℕ) (item : Item), seller.inventory.items[pos]? = some item →
      pos = makePos INVENTORY_SLOT_BAG_0 23 ∧ item = threeOfOne := by
    intro pos item h
    rw [seller] at h
    rw [TreeMap.get_insert, ExtTreeMap.getElem?_empty] at h
    split_ifs at h with hpos
    exact ⟨hpos.symm, (Option.some.inj h).symm⟩
  refine ⟨?_, fun guid hguid ↦ ?_, fun p c hc ↦ ?_, fun p c hc m hm ↦ ?_⟩
  · rw [hguids]
    exact Multiset.nodup_singleton _
  · rw [hguids, add_zero, Multiset.mem_singleton] at hguid
    exact hguid ▸ Nat.lt_succ_self 5
  · rcases twoPlayers_get hc with rfl | rfl
    · refine ⟨fun pos item h ↦ ?_, fun pos item h ↦ ?_, fun guid item h ↦ ?_, rfl, by decide⟩
      · obtain ⟨-, rfl⟩ := hitem pos item h
        exact ⟨_, rfl, by decide⟩
      · obtain ⟨rfl, -⟩ := hitem pos item h
        exact .inl ⟨rfl, .inl (by decide)⟩
      · exact absurd (ExtTreeMap.getElem?_empty.symm.trans h).symm (Option.some_ne_none _)
    · refine ⟨fun pos item h ↦ ?_, fun pos item h ↦ ?_, fun guid item h ↦ ?_, rfl, .nil⟩
      all_goals exact absurd (ExtTreeMap.getElem?_empty.symm.trans h).symm (Option.some_ne_none _)
  · rcases twoPlayers_get hc with rfl | rfl
    · rw [List.mem_singleton.mp hm]
      exact Nat.zero_lt_one
    · exact absurd hm List.not_mem_nil

/-- A packet with the items, to be paid for. -/
def withItems : SendMail where
  itemGUIDs := [5, 5]
  money := 100
  COD := 50
  CanOpenMailBox := true
  receiverNameEmpty := false
  receiverGuid := some 2
  senderLevelOk := true
  otherTeam := false
  receiverLevelOk := true
  about _ := ⟨false, true, false, false, false⟩
  time := 0
  CONFIG_MAIL_DELIVERY_DELAY := 3600

/-- The items are sent twice in one mail and are taken, and all the money is. -/
def sentAndTaken : List Call := [.HandleSendMail 1 withItems, .HandleMailTakeItem 2 1 5 true false 3600,
    .HandleMailTakeMoney 2 1 true 3600, .HandleMailTakeMoney 1 2 true 3600,
    .HandleMailTakeMoney 1 0 true 3600, .HandleMailReturnToSender 2 1 true true 3600 0]

theorem mail_conserved_sentAndTaken :
    ∃ l : Ledger, Accounts twoPlayers l ∧ l.postage = 60 ∧ l.takes = [⟨2, 1, 50, 50⟩] ∧
      l.world.money 1 = 990 := by
  obtain ⟨l, hl, hpostage, htakes, hmoney⟩ := (mailing Guilds.Holdings.stackMgr twoPlayers).exists_reaches
    Admitted sentAndTaken
    (fun l ↦ l.postage = 60 ∧ l.takes = [⟨2, 1, 50, 50⟩] ∧ l.world.money 1 = 990) (by decide +kernel)
  exact ⟨l, (mail_conserved_of_reaches sound_twoPlayers hl).1, hpostage, htakes, hmoney⟩

/-- **A mail from the auction house that is returned** is gone, and its money too. -/
theorem not_mail_conserved : ¬ ∀ (mgr : ObjectMgr) (start : World) (l : Ledger), start.Sound mgr 0 →
    (mailing mgr start).Reaches Claimed l → Accounts start l := by
  intro hall
  obtain ⟨l, hl, hany⟩ := (mailing Guilds.Holdings.stackMgr twoPlayers).exists_reaches Claimed
    [.HandleMailReturnToSender 1 0 true false 0 0]
    (fun l ↦ l.world.gold + l.postage ≠ twoPlayers.gold) (by decide +kernel)
  exact hany (hall _ _ l sound_twoPlayers hl).gold

end Gundrak.Mails
