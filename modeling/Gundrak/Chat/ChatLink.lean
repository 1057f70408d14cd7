import Gundrak.Util.InputStream

/-!
# Links in chat messages

A link in a message is `|c` and a colour, `|H` and its type and data, `|h` and a caption in brackets, `|h` and
`|r`.  `LinkExtractor::IsValidMessage` goes through a message with one stream: a turn of its loop reads up to a
pipe, then the letter of a command, and the payload of the command, in which a `ChatLink` of the type reads its
own fields.  A doubled pipe is a pipe in the text.

A text is a list of its bytes, without the null that ends it.  `commandChar` is not initialized, and keeps what it
has when no character can be read; that is the character `garbage` here.  `ReadSkip` reads until it finds a
terminator, so it takes `fuel`, and so does the loop.  What the links keep and nobody reads is left out: bounds,
levels, ranks and guids.
-/

namespace Gundrak.Chat

/-! ## Stores -/

/-- `TOTAL_LOCALES`. -/
def TOTAL_LOCALES : ℕ := 9

/-- `STRONG_MAX_LEVEL`. -/
def STRONG_MAX_LEVEL : ℤ := 255

/-- A name in every locale. -/
abbrev LocalizedName := ℕ → List Char

/-- `ItemTemplate`, with what a link needs. -/
structure ItemTemplate where
  Quality : Fin 8
  Name1 : List Char
  /-- `ObjectMgr::GetItemLocale`: the names of the item by locale. -/
  ItemLocale : Option (List (List Char))

/-- `Quest`, with `ObjectMgr::GetQuestLocale`. -/
structure Quest where
  GetTitle : List Char
  QuestLocale : Option (List (List Char))

/-- `SpellInfo`.  Of a trade spell, the names of the skill line of its first skill line ability, if there is
one. -/
structure SpellInfo where
  SpellName : LocalizedName
  isTradeSpell : Bool
  skillLineName : Option LocalizedName

/-- The stores: items, the suffixes of random properties, quests, spells, achievements, the first spells of
talents and the spells of glyphs. -/
structure Stores where
  GetItemTemplate : UInt32 → Option ItemTemplate
  sItemRandomPropertiesStore : ℕ → Option LocalizedName
  sItemRandomSuffixStore : ℕ → Option LocalizedName
  GetQuestTemplate : UInt32 → Option Quest
  GetSpellInfo : UInt32 → Option SpellInfo
  GetAchievement : UInt32 → Option LocalizedName
  sTalentStore : UInt32 → Option UInt32
  sGlyphPropertiesStore : UInt32 → Option UInt32

/-- `ItemQualityColors`. -/
def ItemQualityColors (quality : Fin 8) : UInt32 :=
  [0xff9d9d9d, 0xffffffff, 0xff1eff00, 0xff0070dd, 0xffa335ee, 0xffff8000, 0xffe6cc80, 0xffe6cc80].getD quality 0

/-- `CHAT_LINK_COLOR_TRADE`. -/
def CHAT_LINK_COLOR_TRADE : UInt32 := 0xffffd000
/-- `CHAT_LINK_COLOR_TALENT`. -/
def CHAT_LINK_COLOR_TALENT : UInt32 := 0xff4e96f7
/-- `CHAT_LINK_COLOR_SPELL`. -/
def CHAT_LINK_COLOR_SPELL : UInt32 := 0xff71d5ff
/-- `CHAT_LINK_COLOR_ENCHANT`. -/
def CHAT_LINK_COLOR_ENCHANT : UInt32 := 0xffffd000
/-- `CHAT_LINK_COLOR_ACHIEVEMENT`. -/
def CHAT_LINK_COLOR_ACHIEVEMENT : UInt32 := 0xffffff00
/-- `CHAT_LINK_COLOR_GLYPH`. -/
def CHAT_LINK_COLOR_GLYPH : UInt32 := 0xff66bbff

/-! ## Reading

What a function returns is `none` where the source returns `false`: the message is not valid then, and nothing
more is read. -/

/-- `DELIMITER`. -/
def DELIMITER : Char := ':'

/-- `PIPE_CHAR`. -/
def PIPE_CHAR : Char := '|'

/-- What `char c = iss.peek()` makes of the character that is read: the end is -1. -/
def toChar : Option Char → Char
  | some c => c
  | none => '\xff'

/-- `ReadUInt32`. -/
def ReadUInt32 (iss : InputStream) : Option (UInt32 × InputStream) :=
  if !(iss.readUInt32 10).2.fail && !(iss.readUInt32 10).2.eof then some (iss.readUInt32 10) else none

/-- `ReadInt32`. -/
def ReadInt32 (iss : InputStream) : Option (ℤ × InputStream) :=
  if !(iss.readInt32 10).2.fail && !(iss.readInt32 10).2.eof then some (iss.readInt32 10) else none

/-- `ReadSkip`. -/
def ReadSkip (term : Char) : ℕ → InputStream → Option (List Char × InputStream)
  | 0, _ => none
  | fuel + 1, iss =>
    if toChar iss.peek.1 ≠ term ∧ toChar iss.peek.1 ≠ '\x00' then
      (ReadSkip term fuel iss.peek.2.ignore).map fun r ↦ (toChar iss.peek.1 :: r.1, r.2)
    else some ([], iss.peek.2)

/-- `CheckDelimiter`. -/
def CheckDelimiter (delimiter : Char) (iss : InputStream) : Option InputStream :=
  if toChar iss.peek.1 ≠ delimiter then none else some iss.peek.2.ignore

/-- Whether two positions are `length` characters apart. -/
def apart (length : ℕ) : Option ℕ → Option ℕ → Bool
  | some pos, some pos' => pos - pos' = length
  | _, _ => false

/-- `ReadHex`, with `length` 0 for any length. -/
def ReadHex (length : ℕ) (iss : InputStream) : Option (UInt32 × InputStream) :=
  let pos := iss.tellg
  let r := pos.2.readUInt32 16
  let pos' := if length ≠ 0 then r.2.tellg else (none, r.2)
  if length ≠ 0 ∧ ¬ apart length pos.1 pos'.1 then none
  else if !pos'.2.fail && !pos'.2.eof then some (r.1, pos'.2)
  else none

/-! ## The links -/

/-- `ChatLink`: what a link has read of its object.  Trade, talent, enchantment and glyph links are spell
links. -/
inductive ChatLink where
  | item (item : ItemTemplate) (suffixStrings : Option LocalizedName)
  | quest (quest : Quest)
  | spell (spell : SpellInfo)
  | achievement (title : LocalizedName)

variable (stores : Stores)

/-- The name that a random property, or with a negative id a random suffix, gives to an item. -/
def randomProperty (id : ℤ) : Option LocalizedName :=
  if id > 0 then stores.sItemRandomPropertiesStore id.natAbs else stores.sItemRandomSuffixStore id.natAbs

/-- The loop of `ItemChatLink::Initialize` over `n` more properties, from the one with an index. -/
def readProps : ℕ → ℕ → Option LocalizedName → InputStream → Option (Option LocalizedName × InputStream)
  | 0, _, suffixStrings, iss => some (suffixStrings, iss)
  | n + 1, index, suffixStrings, iss =>
    (CheckDelimiter DELIMITER iss).bind fun iss ↦
      (ReadInt32 iss).bind fun r ↦
        if r.1 ≠ 0 ∧ index = 5 then
          (randomProperty stores r.1).bind fun name ↦ readProps n (index + 1) (some name) r.2
        else readProps n (index + 1) suffixStrings r.2

/-- `ItemChatLink::Initialize`. -/
def ItemChatLink.Initialize (color : UInt32) (iss : InputStream) : Option (ChatLink × InputStream) :=
  (ReadUInt32 iss).bind fun r ↦
    (stores.GetItemTemplate r.1).bind fun item ↦
      if color ≠ ItemQualityColors item.Quality then none
      else (readProps stores 8 0 none r.2).map fun p ↦ (.item item p.1, p.2)

/-- `QuestChatLink::Initialize`. -/
def QuestChatLink.Initialize (iss : InputStream) : Option (ChatLink × InputStream) := (ReadUInt32 iss).bind fun r ↦
    (stores.GetQuestTemplate r.1).bind fun quest ↦
      (CheckDelimiter DELIMITER r.2).bind fun iss ↦
        (ReadInt32 iss).bind fun level ↦
          if level.1 ≥ STRONG_MAX_LEVEL then none else some (.quest quest, level.2)

/-- `SpellChatLink::Initialize` and `EnchantmentChatLink::Initialize`, which differ in the colour. -/
def initializeSpell (linkColor color : UInt32) (iss : InputStream) : Option (ChatLink × InputStream) :=
  if color ≠ linkColor then none
  else (ReadUInt32 iss).bind fun r ↦ (stores.GetSpellInfo r.1).map fun spell ↦ (.spell spell, r.2)

/-- `SpellChatLink::Initialize`. -/
def SpellChatLink.Initialize := initializeSpell stores CHAT_LINK_COLOR_SPELL

/-- `EnchantmentChatLink::Initialize`. -/
def EnchantmentChatLink.Initialize := initializeSpell stores CHAT_LINK_COLOR_ENCHANT

/-- The loop of `AchievementChatLink::Initialize` over `n` more numbers. -/
def readProgress : ℕ → InputStream → Option InputStream
  | 0, iss => some iss
  | n + 1, iss =>
    (CheckDelimiter DELIMITER iss).bind fun iss ↦ (ReadUInt32 iss).bind fun r ↦ readProgress n r.2

/-- `AchievementChatLink::Initialize`. -/
def AchievementChatLink.Initialize (color : UInt32) (iss : InputStream) : Option (ChatLink × InputStream) :=
  if color ≠ CHAT_LINK_COLOR_ACHIEVEMENT then none
  else
    (ReadUInt32 iss).bind fun r ↦
      (stores.GetAchievement r.1).bind fun title ↦
        (CheckDelimiter DELIMITER r.2).bind fun iss ↦
          (ReadHex 0 iss).bind fun guid ↦ (readProgress 8 guid.2).map fun iss ↦ (.achievement title, iss)

/-- `TradeChatLink::Initialize` up to the data, which are skipped. -/
def readTradeHead (color : UInt32) (iss : InputStream) : Option (ChatLink × InputStream) :=
  if color ≠ CHAT_LINK_COLOR_TRADE then none
  else
    (ReadUInt32 iss).bind fun r ↦
      (stores.GetSpellInfo r.1).bind fun spell ↦
        (CheckDelimiter DELIMITER r.2).bind fun iss ↦
          (ReadInt32 iss).bind fun minSkillLevel ↦
            (CheckDelimiter DELIMITER minSkillLevel.2).bind fun iss ↦
              (ReadInt32 iss).bind fun maxSkillLevel ↦
                (CheckDelimiter DELIMITER maxSkillLevel.2).bind fun iss ↦
                  (ReadHex 0 iss).map fun guid ↦ (.spell spell, guid.2)

/-- `TradeChatLink::Initialize`; the outer `none` is that the fuel is used up. -/
def TradeChatLink.Initialize (fuel : ℕ) (color : UInt32) (iss : InputStream) :
    Option (Option (ChatLink × InputStream)) :=
  match readTradeHead stores color iss with
  | none => some none
  | some (link, iss) => (ReadSkip PIPE_CHAR fuel iss).map fun base64 ↦ some (link, base64.2)

/-- `TalentChatLink::Initialize`. -/
def TalentChatLink.Initialize (color : UInt32) (iss : InputStream) : Option (ChatLink × InputStream) :=
  if color ≠ CHAT_LINK_COLOR_TALENT then none
  else
    (ReadUInt32 iss).bind fun r ↦
      (stores.sTalentStore r.1).bind fun rank ↦
        (stores.GetSpellInfo rank).bind fun spell ↦
          (CheckDelimiter DELIMITER r.2).bind fun iss ↦ (ReadInt32 iss).map fun rankId ↦ (.spell spell, rankId.2)

/-- `GlyphChatLink::Initialize`. -/
def GlyphChatLink.Initialize (color : UInt32) (iss : InputStream) : Option (ChatLink × InputStream) :=
  if color ≠ CHAT_LINK_COLOR_GLYPH then none
  else
    (ReadUInt32 iss).bind fun slot ↦
      (CheckDelimiter DELIMITER slot.2).bind fun iss ↦
        (ReadUInt32 iss).bind fun r ↦
          (stores.sGlyphPropertiesStore r.1).bind fun spellId ↦
            (stores.GetSpellInfo spellId).map fun spell ↦ (.spell spell, r.2)

/-- The types of links. -/
inductive LinkType where
  | item | quest | trade | talent | spell | enchant | achievement | glyph
deriving DecidableEq

/-- The type that a text names. -/
def LinkType.ofText (buffer : List Char) : Option LinkType :=
  if buffer = "item".toList then some .item
  else if buffer = "quest".toList then some .quest
  else if buffer = "trade".toList then some .trade
  else if buffer = "talent".toList then some .talent
  else if buffer = "spell".toList then some .spell
  else if buffer = "enchant".toList then some .enchant
  else if buffer = "achievement".toList then some .achievement
  else if buffer = "glyph".toList then some .glyph
  else none

/-- `ChatLink::Initialize` of a link of a type. -/
def Initialize (fuel : ℕ) (color : UInt32) (iss : InputStream) :
    LinkType → Option (Option (ChatLink × InputStream))
  | .item => some (ItemChatLink.Initialize stores color iss)
  | .quest => some (QuestChatLink.Initialize stores iss)
  | .trade => TradeChatLink.Initialize stores fuel color iss
  | .talent => some (TalentChatLink.Initialize stores color iss)
  | .spell => some (SpellChatLink.Initialize stores color iss)
  | .enchant => some (EnchantmentChatLink.Initialize stores color iss)
  | .achievement => some (AchievementChatLink.Initialize stores color iss)
  | .glyph => some (GlyphChatLink.Initialize stores color iss)

/-! ## Captions -/

/-- `ItemChatLink::FormatName`. -/
def FormatName (item : ItemTemplate) (index : ℕ) (locale : Option (List (List Char)))
    (suffixStrings : Option LocalizedName) : List Char :=
  (match locale with
    | none => item.Name1
    | some names => names.getD index item.Name1) ++
  (match suffixStrings with
    | none => []
    | some suffix => ' ' :: suffix index)

/-- `ItemChatLink::ValidateName`. -/
def ItemChatLink.ValidateName (item : ItemTemplate) (suffixStrings : Option LocalizedName)
    (buffer : List Char) : Bool :=
  FormatName item 0 none suffixStrings = buffer || (List.range' 1 (TOTAL_LOCALES - 1)).any fun index ↦
      FormatName item index item.ItemLocale suffixStrings = buffer

/-- `QuestChatLink::ValidateName`. -/
def QuestChatLink.ValidateName (quest : Quest) (buffer : List Char) : Bool :=
  quest.GetTitle = buffer || quest.QuestLocale.any fun titles ↦ titles.any (· = buffer)

/-- The loop over the names of an object: a name that is not empty is the caption. -/
def hasName (name : LocalizedName) (buffer : List Char) : Bool :=
  (List.range TOTAL_LOCALES).any fun i ↦ name i ≠ [] ∧ name i = buffer

/-- The first name of a skill line that the caption starts with. -/
def findPrefix (skillLineName : LocalizedName) (buffer : List Char) : Option (List Char) :=
  ((List.range TOTAL_LOCALES).map skillLineName).find? fun name ↦ name ≠ [] ∧ name.isPrefixOf buffer

/-- `spellNameLength`, a `uint32`. -/
def spellNameLength (skillLineName buffer : List Char) : UInt32 :=
  UInt32.ofNat buffer.length - UInt32.ofNat skillLineName.length - 2

/-- The buffer when `memmove` has moved the caption after the name of the skill line to its front, with the
terminator.  If the length has wrapped around, nothing is moved, or more than there is (`none`). -/
def moveName (skillLineName buffer : List Char) : Option (List Char) :=
  if spellNameLength skillLineName buffer + 1 = 0 then some buffer
  else if buffer.length < skillLineName.length + 2 then none
  else some ((buffer.drop (skillLineName.length + 2)).take (spellNameLength skillLineName buffer).toNat)

/-- `SpellChatLink::ValidateName`. -/
def SpellChatLink.ValidateName (spell : SpellInfo) (buffer : List Char) : Bool :=
  if spell.isTradeSpell then
    match spell.skillLineName with
    | none => false
    | some skillLineName =>
      match findPrefix skillLineName buffer with
      | none => hasName spell.SpellName buffer
      | some name => (moveName name buffer).any (hasName spell.SpellName)
  else hasName spell.SpellName buffer

/-- `ChatLink::ValidateName`. -/
def ChatLink.ValidateName (buffer : List Char) : ChatLink → Bool
  | .item i suffixStrings => ItemChatLink.ValidateName i suffixStrings buffer
  | .quest q => QuestChatLink.ValidateName q buffer
  | .spell s => SpellChatLink.ValidateName s buffer
  | .achievement title => hasName title buffer

/-! ## The message -/

/-- `validSequence`. -/
def validSequence : List Char := ['c', 'H', 'h', 'h', 'r']

/-- The sequence has five commands. -/
instance neZero_validSequence : NeZero 5 := ⟨by decide⟩

/-- Where `LinkExtractor::IsValidMessage` is at the start of a turn; `validSequenceIterator` is an index. -/
structure LinkExtractor where
  iss : InputStream
  validSequenceIterator : Fin 5
  color : UInt32
  link : Option ChatLink

/-- What a turn of the loop comes to: the function returns, or there is one more turn. -/
inductive Turn where
  | done (valid : Bool)
  | next (s : LinkExtractor)

namespace LinkExtractor

variable (garbage : Char) (s : LinkExtractor)

/-- Whether no link is open. -/
def closed : Bool := s.validSequenceIterator = 0

/-- The part of a turn up to the pipe. -/
def readPipe : Except Bool InputStream :=
  if s.closed then .ok (s.iss.ignoreTo 255 PIPE_CHAR).tellg.2
  else if s.iss.get.1 = some PIPE_CHAR then .ok s.iss.get.2
  else .error false

/-- The part of a turn up to `commandChar`. -/
def readCommand : Except Bool (Char × InputStream) :=
  match s.readPipe with
  | .error valid => .error valid
  | .ok iss =>
    if iss.peek.1 = some '\x00' then .error false
    else if iss.peek.2.eof then .error s.closed
    else .ok (iss.peek.2.readChar.1.getD garbage, iss.peek.2.readChar.2)

/-- `validSequenceIterator` after a command, if the command is the one that comes next. -/
def advance (commandChar : Char) : Option (Fin 5) :=
  if commandChar ≠ PIPE_CHAR then
    if commandChar = validSequence.getD s.validSequenceIterator 'c' then
      some (if s.validSequenceIterator = 4 then 0 else s.validSequenceIterator + 1)
    else none
  else if s.closed then some 0 else none

/-- The payload of `|H`. -/
def readData (fuel : ℕ) (next : Fin 5) (iss : InputStream) : Option Turn :=
  if (iss.getline 256 DELIMITER).2.eof then some (.done false)
  else
    match LinkType.ofText (iss.getline 256 DELIMITER).1 with
    | none => some (.done false)
    | some type =>
      (Initialize stores fuel s.color (iss.getline 256 DELIMITER).2 type).map fun
        | none => .done false
        | some (link, iss) => .next ⟨iss, next, s.color, some link⟩

/-- The payload of `|h`, if it is the first one of a link. -/
def readCaption (next : Fin 5) (iss : InputStream) : Turn :=
  if next ≠ 3 then .next ⟨iss, next, s.color, s.link⟩
  else if iss.get.1 ≠ some '[' then .done false
  else if (iss.get.2.getline 256 ']').2.eof then .done false
  else if s.link.any (·.ValidateName (iss.get.2.getline 256 ']').1) then
    .next ⟨(iss.get.2.getline 256 ']').2, next, s.color, s.link⟩
  else .done false

/-- The payload of a command. -/
def payload (fuel : ℕ) (commandChar : Char) (next : Fin 5) (iss : InputStream) : Option Turn :=
  if commandChar = 'c' then
    some (match ReadHex 8 iss with
      | none => .done false
      | some (color, iss) => .next ⟨iss, next, color, s.link⟩)
  else if commandChar = 'H' then readData stores s fuel next iss
  else if commandChar = 'h' then some (s.readCaption next iss)
  else if commandChar = 'r' ∨ commandChar = PIPE_CHAR then
    some (.next ⟨if s.link.isSome ∧ commandChar = 'r' then iss.tellg.2 else iss, next, s.color, s.link⟩)
  else some (.done false)

/-- A turn of the loop of `LinkExtractor::IsValidMessage`.  At the start of a link `link` is a null pointer. -/
def turn (fuel : ℕ) : Option Turn :=
  let s := if s.closed then { s with link := none } else s
  match s.readCommand garbage with
  | .error valid => some (.done valid)
  | .ok (commandChar, iss) =>
    match s.advance commandChar with
    | none => some (.done false)
    | some next => payload stores s fuel commandChar next iss

/-- The loop of `LinkExtractor::IsValidMessage`. -/
def loop : ℕ → LinkExtractor → Option Bool
  | 0, _ => none
  | fuel + 1, s =>
    if s.iss.eof then some s.closed
    else
      match turn stores garbage s fuel with
      | none => none
      | some (.done valid) => some valid
      | some (.next s) => loop fuel s

/-- The extractor of a message. -/
def ofMessage (msg : List Char) : LinkExtractor := ⟨.ofText msg, 0, 0, none⟩

/-- `LinkExtractor::IsValidMessage`. -/
def IsValidMessage (fuel : ℕ) (msg : List Char) : Option Bool := loop stores garbage fuel (ofMessage msg)

end LinkExtractor

end Gundrak.Chat
