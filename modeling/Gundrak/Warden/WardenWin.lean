import Gundrak.Util.LittleEndian

/-!
# Replies to Warden checks

`HandleData` walks along the checks that have been sent and reads the answer to each of them.  What comes out
of `>>` is checked against the end of the buffer, but a `memcmp` or a `memcpy` at the position for reading is
not, nor is the block whose checksum is taken: how long it is is what the client says.

* `answerLength`: the layout of the answers, and with it `Complete` and `failing`.
* `Fits`: an answer that begins with what `>>` reads does not end behind the buffer.
* **`answered_iff`**: when nothing is read behind the buffer, and a wrong answer is punished.
-/

namespace Gundrak.Warden

open LittleEndian (readNumber value)

/-! ## The code -/

inductive WardenCheckType where
  | MEM_CHECK | PAGE_CHECK_A | PAGE_CHECK_B | MPQ_CHECK | LUA_STR_CHECK | DRIVER_CHECK | TIMING_CHECK
  | PROC_CHECK | MODULE_CHECK
  /-- Any other number. -/
  | unknown (type : UInt8)

open WardenCheckType

/-- A check, and what stands in memory from the bytes of its `WardenCheckResult` on. -/
structure WardenCheck where
  CheckId : UInt16
  type : WardenCheckType
  Length : UInt8
  Result : ℕ → UInt8

/-- Why a handler is left. -/
inductive Stop where
  | exception
  /-- Bytes behind the buffer are read. -/
  | outOfBounds
deriving DecidableEq

/-- What comes of a reply: `Penalty` is called, perhaps for a check, or it is not. -/
inductive Outcome where
  | passed
  | penalty (check : Option UInt16)
deriving DecidableEq

/-- `>>`, with the bytes behind it. -/
def read (w : ℕ) (rest : List UInt8) : Except Stop (ℕ × List UInt8) :=
  match readNumber w rest with
  | some r => .ok r
  | none => .error .exception

/-- Bytes at the position for reading, without a check. -/
def look (n : ℕ) (rest : List UInt8) : Except Stop (List UInt8 × List UInt8) :=
  if n ≤ rest.length then .ok (rest.take n, rest.drop n) else .error .outOfBounds

/-- The bytes that `Result` begins with. -/
def WardenCheck.expected (rd : WardenCheck) (n : ℕ) : List UInt8 := (List.range n).map rd.Result

/-- A byte for success, and the bytes that are to be as in `Result`. -/
def compareResult (rd : WardenCheck) (n : ℕ) (rest : List UInt8) : Except Stop (Bool × List UInt8) := do
  let (result, rest) ← read 1 rest
  if result ≠ 0 then return (true, rest)
  else
    let (bytes, rest) ← look n rest
    return (bytes ≠ rd.expected n, rest)

/-- The body of the loop of `HandleData`: whether the check has failed. -/
def handleCheck (rd : WardenCheck) (rest : List UInt8) : Except Stop (Bool × List UInt8) :=
  match rd.type with
  | MEM_CHECK => compareResult rd rd.Length.toNat rest
  | PAGE_CHECK_A | PAGE_CHECK_B | DRIVER_CHECK | MODULE_CHECK => do
    let (byte, rest) ← look 1 rest
    return (byte ≠ [0xE9], rest)
  | LUA_STR_CHECK => do
    let (Lua_Result, rest) ← read 1 rest
    if Lua_Result ≠ 0 then return (true, rest)
    else
      let (luaStrLen, rest) ← read 1 rest
      let (_, rest) ← look luaStrLen rest
      return (false, rest)
  | MPQ_CHECK => compareResult rd 20 rest
  | TIMING_CHECK | PROC_CHECK | unknown _ => return (false, rest)

/-- The loop of `HandleData`, which keeps only the last check that has failed. -/
def handleChecks : List WardenCheck → UInt16 → List UInt8 → Except Stop UInt16
  | [], checkFailed, _ => .ok checkFailed
  | rd :: checks, checkFailed, rest => do
    let (failed, rest) ← handleCheck rd rest
    handleChecks checks (if failed then rd.CheckId else checkFailed) rest

structure WardenWin where
  _currentChecks : List WardenCheck
  ClientKeySeedHash : Vector UInt8 20

section handlers

-- the exclusive or of the five words of a SHA-1 hash
variable (BuildChecksum : List UInt8 → UInt32) (w : WardenWin)

def IsValidCheckSum (checksum : ℕ) (data : List UInt8) : Bool := checksum = (BuildChecksum data).toNat

def HandleData (buff : List UInt8) : Except Stop Outcome := do
  let (Length, rest) ← read 2 buff
  let (Checksum, rest) ← read 4 rest
  let (data, _) ← look Length rest
  if ¬ IsValidCheckSum BuildChecksum Checksum data then return .penalty none
  else
    let (result, rest) ← read 1 rest
    if result = 0 then return .penalty none
    else
      let (_, rest) ← read 4 rest
      let checkFailed ← handleChecks w._currentChecks 0 rest
      return if checkFailed > 0 then .penalty (some checkFailed) else .passed

/-- The hash is looked for at the beginning of the packet. -/
def HandleHashResult (packet : List UInt8) : Except Stop Outcome := do
  let (hash, _) ← look 20 (packet.drop 1)
  return if hash ≠ w.ClientKeySeedHash.toList then .penalty none else .passed

/-- `HandleWardenDataOpcode` for a packet that is decrypted. -/
def HandleWardenDataOpcode : List UInt8 → Except Stop Outcome
  | [] => .ok .passed
  | opcode :: buff =>
    if opcode = 2 then HandleData BuildChecksum w buff
    else if opcode = 4 then HandleHashResult w (opcode :: buff)
    else .ok .passed

end handlers

/-! ## The layout of a reply -/

/-- How long the answer to a check is, if as much is there as tells it. -/
def answerLength (rd : WardenCheck) (rest : List UInt8) : Option ℕ :=
  match rd.type, rest with
  | MEM_CHECK, result :: _ => some (if result = 0 then 1 + rd.Length.toNat else 1)
  | MPQ_CHECK, result :: _ => some (if result = 0 then 1 + 20 else 1)
  | LUA_STR_CHECK, 0 :: luaStrLen :: _ => some (2 + luaStrLen.toNat)
  | LUA_STR_CHECK, result :: _ => if result = 0 then none else some 1
  | MEM_CHECK, [] | MPQ_CHECK, [] | LUA_STR_CHECK, [] => none
  | PAGE_CHECK_A, _ | PAGE_CHECK_B, _ | DRIVER_CHECK, _ | MODULE_CHECK, _ => some 1
  | TIMING_CHECK, _ | PROC_CHECK, _ | unknown _, _ => some 0

/-- An answer is not the one that is expected. -/
def differs (rd : WardenCheck) (answer : List UInt8) : Bool :=
  match rd.type with
  | MEM_CHECK => answer ≠ 0 :: rd.expected rd.Length.toNat
  | MPQ_CHECK => answer ≠ 0 :: rd.expected 20
  | LUA_STR_CHECK => answer.head? ≠ some 0
  | PAGE_CHECK_A | PAGE_CHECK_B | DRIVER_CHECK | MODULE_CHECK => answer ≠ [0xE9]
  | TIMING_CHECK | PROC_CHECK | unknown _ => false

/-- All the answers are there. -/
def Complete : List WardenCheck → List UInt8 → Prop
  | [], _ => True
  | rd :: checks, rest => ∃ n, answerLength rd rest = some n ∧ n ≤ rest.length ∧ Complete checks (rest.drop n)

/-- No answer ends behind the buffer, as far as its length is there. -/
def Fits : List WardenCheck → List UInt8 → Prop
  | [], _ => True
  | rd :: checks, rest => ∀ n, answerLength rd rest = some n → n ≤ rest.length ∧ Fits checks (rest.drop n)

/-- The checks whose answers differ. -/
def failing : List WardenCheck → List UInt8 → List UInt16
  | [], _ => []
  | rd :: checks, rest =>
    let n := (answerLength rd rest).getD 0
    (if differs rd (rest.take n) then [rd.CheckId] else []) ++ failing checks (rest.drop n)

variable {rd : WardenCheck} {checks : List WardenCheck} {rest buff : List UInt8} {n : ℕ} {checkFailed : UInt16}

@[simp] theorem read_one_nil : read 1 [] = .error .exception := rfl

@[simp] theorem read_one_cons (b : UInt8) (rest : List UInt8) : read 1 (b :: rest) = .ok (b.toNat, rest) := rfl

@[simp] theorem ok_bind {α β : Type} (a : α) (f : α → Except Stop β) :
    ((Except.ok a : Except Stop α) >>= f) = f a := rfl

@[simp] theorem error_bind {α β : Type} (e : Stop) (f : α → Except Stop β) :
    ((Except.error e : Except Stop α) >>= f) = .error e := rfl

@[simp] theorem pure_eq_ok {α : Type} (a : α) : (pure a : Except Stop α) = .ok a := rfl

theorem read_bind {β : Type} (w : ℕ) (rest : List UInt8) (f : ℕ × List UInt8 → Except Stop β) :
    (read w rest >>= f) = if w ≤ rest.length then f (value (rest.take w), rest.drop w) else .error .exception := by
  rw [read, readNumber]
  split_ifs <;> rfl

theorem look_bind {β : Type} (n : ℕ) (rest : List UInt8) (f : List UInt8 × List UInt8 → Except Stop β) :
    (look n rest >>= f) = if n ≤ rest.length then f (rest.take n, rest.drop n) else .error .outOfBounds := by
  rw [look]
  split <;> rfl

theorem compareResult_cons (rd : WardenCheck) (n : ℕ) (b : UInt8) (rest : List UInt8) : compareResult rd n (b :: rest) =
      let length := if b = 0 then 1 + n else 1
      if length ≤ (b :: rest).length then
        .ok (decide ((b :: rest).take length ≠ 0 :: rd.expected n), (b :: rest).drop length)
      else .error .outOfBounds := by
  by_cases hb : b = 0
  · subst hb
    simp [compareResult, look_bind, Nat.add_comm 1 n]
  · have hb' : b.toNat ≠ 0 := fun h ↦ hb (UInt8.toNat_inj.mp h)
    simp [compareResult, hb, hb']

/-- What the body of the loop does: **the length of the answer is looked for first.** -/
theorem handleCheck_eq (rd : WardenCheck) (rest : List UInt8) : handleCheck rd rest =
      match answerLength rd rest with
      | none => .error .exception
      | some n =>
        if n ≤ rest.length then .ok (differs rd (rest.take n), rest.drop n) else .error .outOfBounds := by
  rcases rd with ⟨id, type, length, result⟩
  cases type with
  | MEM_CHECK | MPQ_CHECK =>
    rcases rest with _ | ⟨b, rest⟩
    · rfl
    · exact compareResult_cons _ _ b rest
  | PAGE_CHECK_A | PAGE_CHECK_B | DRIVER_CHECK | MODULE_CHECK =>
    simp [handleCheck, answerLength, differs, look_bind]
  | LUA_STR_CHECK =>
    rcases rest with _ | ⟨b, rest⟩
    · rfl
    by_cases hb : b = 0
    · subst hb
      rcases rest with _ | ⟨luaStrLen, rest⟩
      · rfl
      · simp [handleCheck, answerLength, differs, look_bind, Nat.add_comm 2]
    · have hb' : b.toNat ≠ 0 := fun h ↦ hb (UInt8.toNat_inj.mp h)
      simp [handleCheck, answerLength, differs, hb, hb']
  | TIMING_CHECK | PROC_CHECK | unknown _ => simp [handleCheck, answerLength, differs]

/-- The loop reads behind the buffer exactly where an answer does not fit. -/
theorem handleChecks_ne_outOfBounds :
    handleChecks checks checkFailed rest ≠ .error .outOfBounds ↔ Fits checks rest := by
  induction checks generalizing checkFailed rest with
  | nil => simp [handleChecks, Fits]
  | cons rd checks ih =>
    rw [handleChecks, handleCheck_eq, Fits]
    rcases answerLength rd rest with _ | n
    · simp
    · by_cases hn : n ≤ rest.length <;> simp [hn, ih]

/-- Where all the answers are there, **the last check that has failed is kept**. -/
theorem handleChecks_of_complete (h : Complete checks rest) :
    handleChecks checks checkFailed rest = .ok ((failing checks rest).getLast?.getD checkFailed) := by
  induction checks generalizing checkFailed rest with
  | nil => rfl
  | cons rd checks ih =>
    obtain ⟨n, hn, hle, hrest⟩ := h
    rw [handleChecks, handleCheck_eq, failing]
    simp only [hn, hle, if_true, ok_bind, ih hrest, Option.getD_some]
    split <;> simp [List.getLast?_cons]

/-! ## Replies -/

variable (BuildChecksum : List UInt8 → UInt32) (w : WardenWin)

/-- The answers of all the checks are there, behind the length, the checksum and the answer to the timing
check. -/
def Whole (buff : List UInt8) : Prop := 11 ≤ buff.length ∧ Complete w._currentChecks (buff.drop 11)

/-- Nothing is read behind the end of a packet, and if it is a whole reply with a wrong answer, there is a
penalty. -/
def Answered (packet : List UInt8) : Prop := HandleWardenDataOpcode BuildChecksum w packet ≠ .error .outOfBounds ∧
    ∀ buff, packet = 2 :: buff → Whole w buff → failing w._currentChecks (buff.drop 11) ≠ [] →
      ∃ check, HandleWardenDataOpcode BuildChecksum w packet = .ok (.penalty check)

/-- The length is one of bytes that are there.  And if their checksum is right and the timing check has not
failed, the answers fit, and the last one that differs is not the one of a check `0`. -/
def WellFormed (buff : List UInt8) : Prop := 6 ≤ buff.length → value (buff.take 2) ≤ buff.length - 6 ∧
      (IsValidCheckSum BuildChecksum (value ((buff.drop 2).take 4)) ((buff.drop 6).take (value (buff.take 2))) →
        11 ≤ buff.length → value ((buff.drop 6).take 1) ≠ 0 → Fits w._currentChecks (buff.drop 11) ∧
            (Complete w._currentChecks (buff.drop 11) → (failing w._currentChecks (buff.drop 11)).getLast? ≠ some 0))

theorem HandleData_eq (buff : List UInt8) : HandleData BuildChecksum w buff =
      if 6 ≤ buff.length then
        if value (buff.take 2) ≤ buff.length - 6 then
          if IsValidCheckSum BuildChecksum (value ((buff.drop 2).take 4))
              ((buff.drop 6).take (value (buff.take 2))) then
            if 7 ≤ buff.length ∧ value ((buff.drop 6).take 1) = 0 then .ok (.penalty none)
            else if 11 ≤ buff.length then do
              let checkFailed ← handleChecks w._currentChecks 0 (buff.drop 11)
              return if checkFailed > 0 then .penalty (some checkFailed) else .passed
            else .error .exception
          else .ok (.penalty none)
        else .error .outOfBounds
      else .error .exception := by
  simp only [HandleData, read_bind, look_bind, List.length_drop, List.drop_drop, Nat.reduceAdd]
  split_ifs <;> first | rfl | omega

theorem HandleData_ne_outOfBounds (buff : List UInt8) : HandleData BuildChecksum w buff ≠ .error .outOfBounds ↔
      (6 ≤ buff.length → value (buff.take 2) ≤ buff.length - 6 ∧
          (IsValidCheckSum BuildChecksum (value ((buff.drop 2).take 4)) ((buff.drop 6).take (value (buff.take 2))) →
            11 ≤ buff.length → value ((buff.drop 6).take 1) ≠ 0 → Fits w._currentChecks (buff.drop 11))) := by
  have hchecks := @handleChecks_ne_outOfBounds w._currentChecks (buff.drop 11) 0
  have hrun : (do
      let checkFailed ← handleChecks w._currentChecks 0 (buff.drop 11)
      return if checkFailed > 0 then Outcome.penalty (some checkFailed) else .passed) ≠ .error .outOfBounds ↔
      Fits w._currentChecks (buff.drop 11) := by
    rw [← hchecks]
    rcases handleChecks w._currentChecks 0 (buff.drop 11) with e | checkFailed <;> simp
  rw [HandleData_eq]
  split_ifs with hheader hlength hvalid htiming hticks
  · have hseven : 11 ≤ buff.length → 7 ≤ buff.length := by omega
    simp [hheader, hlength, hvalid, htiming]
  · have htiming' : value ((buff.drop 6).take 1) ≠ 0 := fun h ↦ htiming ⟨by omega, h⟩
    simpa [hheader, hlength, hvalid, hticks, htiming'] using hrun
  all_goals simp_all

theorem HandleData_of_whole {buff : List UInt8} (h : Whole w buff) (hlength : value (buff.take 2) ≤ buff.length - 6) :
    (∃ check, HandleData BuildChecksum w buff = .ok (.penalty check)) ↔
      ¬ (IsValidCheckSum BuildChecksum (value ((buff.drop 2).take 4)) ((buff.drop 6).take (value (buff.take 2))) ∧
        value ((buff.drop 6).take 1) ≠ 0 ∧ (failing w._currentChecks (buff.drop 11)).getLast?.getD 0 = 0) := by
  obtain ⟨hsize, hcomplete⟩ := h
  have hheader : 6 ≤ buff.length := by omega
  have hseven : 7 ≤ buff.length := by omega
  rw [HandleData_eq, handleChecks_of_complete hcomplete]
  simp only [hheader, hlength, hsize, hseven, if_true, true_and, ok_bind]
  split_ifs with hvalid htiming hfailed
  · simp [htiming]
  · rw [gt_iff_lt, UInt16.pos_iff_ne_zero] at hfailed
    simp [hfailed]
  · rw [gt_iff_lt, UInt16.pos_iff_ne_zero, not_not] at hfailed
    simp [hvalid, htiming, hfailed]
  · exact ⟨fun _ h ↦ hvalid h.1, fun _ ↦ ⟨none, rfl⟩⟩

theorem HandleHashResult_ne_outOfBounds (packet : List UInt8) :
    HandleHashResult w packet ≠ .error .outOfBounds ↔ 20 ≤ packet.length - 1 := by
  rw [HandleHashResult, look_bind, List.length_drop]
  split <;> simp_all

/-- **A packet is answered as it should be exactly when it is well formed.** -/
theorem answered_iff (packet : List UInt8) :
    Answered BuildChecksum w packet ↔
      (∀ buff, packet = 2 :: buff → WellFormed BuildChecksum w buff) ∧
        (packet.head? = some 4 → 21 ≤ packet.length) := by
  rcases packet with _ | ⟨opcode, buff⟩
  · simp [Answered, HandleWardenDataOpcode]
  by_cases hchecks : opcode = 2
  · subst hchecks
    have hopcode : HandleWardenDataOpcode BuildChecksum w (2 :: buff) = HandleData BuildChecksum w buff := rfl
    have hhash : ((2 :: buff).head? = some (4 : UInt8) → 21 ≤ (2 :: buff).length) ↔ True := by simp
    simp only [Answered, hopcode, hhash, and_true, List.cons.injEq, true_and, forall_eq',
      HandleData_ne_outOfBounds, WellFormed]
    constructor
    · rintro ⟨hbounds, hpenalty⟩ hheader
      obtain ⟨hlength, hfits⟩ := hbounds hheader
      refine ⟨hlength, fun hvalid hticks htiming ↦ ⟨hfits hvalid hticks htiming, fun hcomplete hlast ↦ ?_⟩⟩
      have hne : failing w._currentChecks (buff.drop 11) ≠ [] := by
        intro hnil
        rw [hnil] at hlast
        cases hlast
      have hwhole : Whole w buff := ⟨hticks, hcomplete⟩
      exact (HandleData_of_whole BuildChecksum w hwhole hlength).mp (hpenalty hwhole hne)
        ⟨hvalid, htiming, by rw [hlast]; rfl⟩
    · intro h
      refine ⟨fun hheader ↦ ⟨(h hheader).1, fun hvalid hticks htiming ↦
        ((h hheader).2 hvalid hticks htiming).1⟩, fun hwhole hne ↦ ?_⟩
      obtain ⟨hlength, hrest⟩ := h (by have := hwhole.1; omega)
      rw [HandleData_of_whole BuildChecksum w hwhole hlength]
      rintro ⟨hvalid, htiming, hlast⟩
      obtain ⟨id, hid⟩ := Option.ne_none_iff_exists'.mp (mt List.getLast?_eq_none_iff.mp hne)
      rw [hid, Option.getD_some] at hlast
      exact (hrest hvalid hwhole.1 htiming).2 hwhole.2 (hid.trans (congrArg some hlast))
  · have hother : ∀ buff', opcode :: buff = 2 :: buff' → False := by
      rintro buff' ⟨⟩
      exact hchecks rfl
    by_cases hhash : opcode = 4
    · subst hhash
      have hopcode : HandleWardenDataOpcode BuildChecksum w (4 :: buff) = HandleHashResult w (4 :: buff) := rfl
      rw [Answered, hopcode, HandleHashResult_ne_outOfBounds]
      simp
    · have hopcode : HandleWardenDataOpcode BuildChecksum w (opcode :: buff) = .ok .passed := by
        simp [HandleWardenDataOpcode, hchecks, hhash]
      rw [Answered, hopcode]
      simp [hchecks, hhash]

/-- A reply of six bytes that says it is one of 65535 bytes. -/
theorem not_answered_claimedLength : ¬ Answered (fun _ ↦ 0) ⟨[], .replicate 20 0⟩ [2, 255, 255, 0, 0, 0, 0] :=
  fun h ↦ h.1 (by decide)

/-- A memory check, and a reply that ends behind the byte for its success. -/
example :
    HandleData (fun _ ↦ 0) ⟨[⟨1, MEM_CHECK, 2, fun _ ↦ 0⟩], .replicate 20 0⟩ [6, 0, 0, 0, 0, 0, 1, 0, 0, 0, 0, 0] =
      .error .outOfBounds := by
  decide

end Gundrak.Warden
