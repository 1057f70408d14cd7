import Gundrak.Util.Machine

/-!
# The logs of a guild

A `LogHolder` keeps the last `m_maxRecords` events of a guild, or of one tab of its bank.  Every event is
also a row of a table, under a guid below `m_maxRecords`: the guids go round, so that the row of a new
event takes the place of the one that is dropped.  When the server starts, the rows are read from the
latest to the earliest, and the first of them says where the guids go on.

Rows with the same time are read by descending guid.  This is the order of the events as long as the guids
do not start from zero again between two events of the same second.  `InOrder` says that this is not so,
and that the times fit in the 32 bits they are read with.

**`survives_of_reaches`** says that along the runs in which the logs are `InOrder` at every start of the
server they are, in memory and in the table, the last events there were, and that a start from such a run
leaves them so exactly when they are `InOrder`.
-/

namespace Gundrak.Guilds

/-- `LogEntry`.  `event` stands for the fields that an `EventLogEntry` or a `BankEventLogEntry` adds. -/
structure LogEntry (ε : Type) where
  m_guid : UInt32
  m_timestamp : UInt64
  event : ε
deriving DecidableEq

/-- `GUILD_EVENT_LOG_GUID_UNDEFINED`. -/
def GUILD_EVENT_LOG_GUID_UNDEFINED : UInt32 := 0xFFFFFFFF

/-- `LogHolder`. -/
structure LogHolder (ε : Type) where
  m_log : List (LogEntry ε)
  m_nextGUID : UInt32

namespace LogHolder

variable {ε : Type} (m_maxRecords : UInt32) (h : LogHolder ε)

/-- A new `LogHolder`. -/
def new : LogHolder ε := ⟨[], GUILD_EVENT_LOG_GUID_UNDEFINED⟩

/-- `LogHolder::CanInsert`. -/
def CanInsert : Bool := h.m_log.length < m_maxRecords.toNat

/-- `LogHolder::LoadEvent`. -/
def LoadEvent (entry : LogEntry ε) : LogHolder ε where
  m_nextGUID := if h.m_nextGUID = GUILD_EVENT_LOG_GUID_UNDEFINED then entry.m_guid else h.m_nextGUID
  m_log := entry :: h.m_log

/-- `LogHolder::AddEvent`, for the list.  There is nothing to drop from an empty list. -/
def AddEvent (entry : LogEntry ε) : Option (LogHolder ε) :=
  if h.m_log.length ≥ m_maxRecords.toNat then
    match h.m_log with
    | [] => none
    | _ :: m_log => some { h with m_log := m_log ++ [entry] }
  else some { h with m_log := h.m_log ++ [entry] }

/-- `LogHolder::GetNextGUID`. -/
def GetNextGUID : UInt32 :=
  if h.m_nextGUID = GUILD_EVENT_LOG_GUID_UNDEFINED then 0 else (h.m_nextGUID + 1) % m_maxRecords

end LogHolder

/-- The logs of one table, with the events there were.  A log is found by a key of type `κ`: the guild,
and for the bank also the tab. -/
structure Logs (κ ε : Type) where
  logs : κ → LogHolder ε
  rows : List (κ × LogEntry ε)
  history : κ → List (LogEntry ε)

namespace Logs

variable {κ ε : Type} [DecidableEq κ] (m_maxRecords : UInt32) (s : Logs κ ε)

/-- `SaveToDB` of an entry: the row with its guid is deleted, and one is inserted. -/
def saveToDB (rows : List (κ × LogEntry ε)) (key : κ) (entry : LogEntry ε) : List (κ × LogEntry ε) :=
  rows.filter (fun row ↦ ¬ (row.1 = key ∧ row.2.m_guid = entry.m_guid)) ++ [(key, entry)]

/-- `Guild::_LogEvent`, and `Guild::_LogBankEvent`, at a time. -/
def logEvent (key : κ) (time : UInt64) (event : ε) : Option (Logs κ ε) :=
  let guid := (s.logs key).GetNextGUID m_maxRecords
  let entry : LogEntry ε := ⟨guid, time, event⟩
  (({ s.logs key with m_nextGUID := guid } : LogHolder ε).AddEvent m_maxRecords entry).map fun holder ↦
    { logs := Function.update s.logs key holder
      rows := saveToDB s.rows key entry
      history := Function.update s.history key (s.history key ++ [entry]) }

/-- The order of the query: `ORDER BY TimeStamp DESC, LogGuid DESC`. -/
def NotBefore (x y : LogEntry ε) : Prop :=
  y.m_timestamp < x.m_timestamp ∨ y.m_timestamp = x.m_timestamp ∧ y.m_guid ≤ x.m_guid

instance (x y : LogEntry ε) : Decidable (NotBefore x y) := inferInstanceAs (Decidable (_ ∨ _))

/-- The entry of a row: the time is read with `GetUInt32`. -/
def ofRow (entry : LogEntry ε) : LogEntry ε :=
  { entry with m_timestamp := entry.m_timestamp.toUInt32.toUInt64 }

/-- `Guild::LoadEventLogFromDB`, and `Guild::LoadBankEventLogFromDB`, of a row. -/
def loadRow (logs : κ → LogHolder ε) (row : κ × LogEntry ε) : κ → LogHolder ε :=
  if (logs row.1).CanInsert m_maxRecords then
    Function.update logs row.1 ((logs row.1).LoadEvent (ofRow row.2))
  else logs

/-- `GuildMgr::LoadGuilds`, for the logs: rows with a guid above the limit are deleted, and `result` is
what the query returns. -/
def loadGuilds [DecidableEq ε] (result : List (κ × LogEntry ε)) : Option (Logs κ ε) :=
  let rows := s.rows.filter fun row ↦ ¬ row.2.m_guid > m_maxRecords
  if result.Perm rows ∧ result.Pairwise (fun x y ↦ NotBefore x.2 y.2) then
    some { s with logs := result.foldl (loadRow m_maxRecords) fun _ ↦ .new, rows := rows }
  else none

/-- What can happen: an event, or a start of the server. -/
inductive Call (κ ε : Type) where
  | logEvent (key : κ) (time : UInt64) (event : ε)
  | loadGuilds (result : List (κ × LogEntry ε))

/-- The logs of a table, which is empty at first. -/
def guildLogs [DecidableEq ε] : Machine (Logs κ ε) (Call κ ε) where
  start := ⟨fun _ ↦ .new, [], fun _ ↦ []⟩
  next s
    | .logEvent key time event => s.logEvent m_maxRecords key time event
    | .loadGuilds result => s.loadGuilds m_maxRecords result

/-! ## What should hold -/

/-- The rows of a log. -/
def rowsOf (key : κ) (rows : List (κ × LogEntry ε)) : List (LogEntry ε) := (rows.filter (·.1 = key)).map Prod.snd

/-- The last `n` events of a log. -/
def last (key : κ) (n : ℕ) : List (LogEntry ε) := (s.history key).drop ((s.history key).length - n)

/-- The logs are the last events in the order they happened, the table has exactly these, and the next
guid is none of those that are still kept when it is given to an event. -/
def Survives : Prop := ∀ key, (s.logs key).m_log = s.last key m_maxRecords.toNat ∧
    (rowsOf key s.rows).Perm (s.last key m_maxRecords.toNat) ∧
    ∀ e ∈ s.last key (m_maxRecords.toNat - 1), e.m_guid ≠ (s.logs key).GetNextGUID m_maxRecords

/-- The times fit in 32 bits, and before an event with guid 0 there is none of the same second. -/
def InOrder (log : List (LogEntry ε)) : Prop := (∀ e ∈ log, e.m_timestamp.toNat < 2 ^ 32) ∧
    log.IsChain fun e e' ↦ e'.m_guid = 0 → e.m_timestamp < e'.m_timestamp

/-- Time does not go back. -/
def Timely : Call κ ε → Prop
  | .logEvent key time _ => ∀ e ∈ s.history key, e.m_timestamp ≤ time
  | .loadGuilds _ => True

/-- Time does not go back, and the logs are in order when the server starts. -/
def Keeps : Call κ ε → Prop
  | .logEvent key time event => s.Timely (.logEvent key time event)
  | .loadGuilds _ => ∀ row ∈ s.rows, InOrder (s.logs row.1).m_log

instance (log : List (LogEntry ε)) : Decidable (InOrder log) := inferInstanceAs (Decidable (_ ∧ _))

instance : (call : Call κ ε) → Decidable (s.Timely call)
  | .logEvent _ _ _ => inferInstanceAs (Decidable (∀ _ ∈ _, _))
  | .loadGuilds _ => inferInstanceAs (Decidable True)

instance : (call : Call κ ε) → Decidable (s.Keeps call)
  | .logEvent _ _ _ => inferInstanceAs (Decidable (∀ _ ∈ _, _))
  | .loadGuilds _ => inferInstanceAs (Decidable (∀ _ ∈ _, _))

variable {m_maxRecords} {s} {s' : Logs κ ε} {key key' : κ}

/-- What is known of a log in a run: the `k`-th event has the guid `k % m_maxRecords`, the next guid is the
one after that of the last event, and memory and table have the last events. -/
structure Sound (m_maxRecords : UInt32) (s : Logs κ ε) (key : κ) : Prop where
  recent : (s.logs key).m_log = s.last key m_maxRecords.toNat
  stored : (rowsOf key s.rows).Perm (s.last key m_maxRecords.toNat)
  guid : ∀ k (hk : k < (s.history key).length), (s.history key)[k].m_guid.toNat = k % m_maxRecords.toNat
  pos : s.history key ≠ [] → 0 < m_maxRecords.toNat
  next : (s.logs key).m_nextGUID = ((s.history key).getLast?.map LogEntry.m_guid).getD GUILD_EVENT_LOG_GUID_UNDEFINED
  times : (s.history key).Pairwise fun e e' ↦ e.m_timestamp ≤ e'.m_timestamp

/-! ## Guids -/

/-- Numbers that are closer than `m` to each other are different modulo `m`. -/
theorem mod_ne {k n m : ℕ} (hk : k < n) (hn : n < k + m) : k % m ≠ n % m := by
  intro h
  have hdvd : m ∣ n - k := (Nat.modEq_iff_dvd' hk.le).mp h
  have hle := Nat.le_of_dvd (Nat.sub_pos_of_lt hk) hdvd
  omega

omit [DecidableEq κ] in
theorem exists_getElem_of_mem_last {n : ℕ} {e : LogEntry ε} (he : e ∈ s.last key n) :
    ∃ k, ∃ hk : k < (s.history key).length, (s.history key).length ≤ k + n ∧ (s.history key)[k] = e := by
  obtain ⟨i, hi, rfl⟩ := List.getElem_of_mem he
  have hlen : i < (s.history key).length - ((s.history key).length - n) := by
    simpa [last] using hi
  refine ⟨(s.history key).length - n + i, by omega, by omega, ?_⟩
  simp [last]

theorem Sound.guid_lt (h : s.Sound m_maxRecords key) {n : ℕ} {e : LogEntry ε} (he : e ∈ s.last key n) :
    e.m_guid.toNat < m_maxRecords.toNat := by
  obtain ⟨k, hk, _, rfl⟩ := exists_getElem_of_mem_last he
  rw [h.guid k hk]
  exact Nat.mod_lt _ (h.pos (List.ne_nil_of_length_pos (Nat.zero_lt_of_lt hk)))

theorem ne_undefined {guid : UInt32} (h : guid.toNat < m_maxRecords.toNat) : guid ≠ GUILD_EVENT_LOG_GUID_UNDEFINED := by
  rintro rfl
  have hlt := m_maxRecords.toNat_lt
  have hval : GUILD_EVENT_LOG_GUID_UNDEFINED.toNat = 2 ^ 32 - 1 := rfl
  omega

theorem Sound.toNat_getNextGUID (h : s.Sound m_maxRecords key) (hpos : 0 < m_maxRecords.toNat) :
    ((s.logs key).GetNextGUID m_maxRecords).toNat = (s.history key).length % m_maxRecords.toNat := by
  rw [LogHolder.GetNextGUID, h.next]
  rcases List.eq_nil_or_concat' (s.history key) with hnil | ⟨l, e, heq⟩
  · rw [hnil]
    exact (Nat.zero_mod _).symm
  · have hlast : (s.history key).getLast? = some e := heq ▸ List.getLast?_concat
    have hguid : e.m_guid.toNat = l.length % m_maxRecords.toNat := by
      simp [← h.guid l.length (by simp [heq]), heq]
    have hlt : e.m_guid.toNat < m_maxRecords.toNat := hguid ▸ Nat.mod_lt _ hpos
    have hmax := m_maxRecords.toNat_lt
    have hsum : (e.m_guid + 1).toNat = e.m_guid.toNat + 1 := by
      rw [UInt32.toNat_add]
      exact Nat.mod_eq_of_lt (by rw [UInt32.toNat_one]; omega)
    simp [(ne_undefined hlt), hsum, hguid, heq]

theorem Sound.guid_ne (h : s.Sound m_maxRecords key) {e : LogEntry ε} (he : e ∈ s.last key (m_maxRecords.toNat - 1)) :
    e.m_guid ≠ (s.logs key).GetNextGUID m_maxRecords := by
  intro heq
  obtain ⟨k, hk, hn, rfl⟩ := exists_getElem_of_mem_last he
  have hpos := h.pos (List.ne_nil_of_length_pos (Nat.zero_lt_of_lt hk))
  refine mod_ne (k := k) (n := (s.history key).length) (m := m_maxRecords.toNat) hk (by omega) ?_
  rw [← h.guid k hk, heq, h.toNat_getNextGUID hpos]

theorem Sound.nodup_guid (h : s.Sound m_maxRecords key) :
    ((s.last key m_maxRecords.toNat).map LogEntry.m_guid).Nodup := by
  refine List.pairwise_map.mpr (List.pairwise_iff_getElem.mpr fun i j hi hj hij heq ↦ ?_)
  have hlen : j < (s.history key).length - ((s.history key).length - m_maxRecords.toNat) := by
    simpa [last] using hj
  simp only [last, List.getElem_drop] at heq
  have hmod := congrArg UInt32.toNat heq
  rw [h.guid _ (by omega), h.guid _ (by omega)] at hmod
  exact mod_ne (by omega) (by omega) hmod

/-! ## An event -/

theorem addEvent_eq {h : LogHolder ε} {l : List (LogEntry ε)} (hpos : 0 < m_maxRecords.toNat)
    (hlog : h.m_log = l.drop (l.length - m_maxRecords.toNat)) (e : LogEntry ε) :
    h.AddEvent m_maxRecords e = some { h with
      m_log := l.drop (l.length + 1 - m_maxRecords.toNat) ++ [e] } := by
  rw [LogHolder.AddEvent, hlog, List.length_drop]
  split
  · have hcons := List.drop_eq_getElem_cons (l := l) (i := l.length - m_maxRecords.toNat) (by omega)
    have hsucc : l.length - m_maxRecords.toNat + 1 = l.length + 1 - m_maxRecords.toNat := by omega
    rw [hcons, hsucc]
  · have hzero : l.length - m_maxRecords.toNat = 0 := by omega
    have hsucc : l.length + 1 - m_maxRecords.toNat = 0 := by omega
    rw [hzero, hsucc]

theorem last_concat {n : ℕ} (hn : 0 < n) (l : List (LogEntry ε)) (e : LogEntry ε) :
    (l ++ [e]).drop ((l ++ [e]).length - n) = l.drop (l.length + 1 - n) ++ [e] := by
  rw [List.length_append, List.length_singleton, List.drop_append_of_le_length (by omega)]

theorem rowsOf_saveToDB_self (rows : List (κ × LogEntry ε)) (e : LogEntry ε) :
    rowsOf key (saveToDB rows key e) = (rowsOf key rows).filter (·.m_guid ≠ e.m_guid) ++ [e] := by
  rw [rowsOf, saveToDB, List.filter_append, List.map_append, rowsOf, List.filter_map,
    List.filter_filter, List.filter_filter]
  congr 1
  · congr 1
    refine List.filter_congr fun row _ ↦ ?_
    by_cases hkey : row.1 = key <;> simp [hkey]
  · simp

theorem rowsOf_saveToDB_of_ne (rows : List (κ × LogEntry ε)) (e : LogEntry ε) (h : key ≠ key') :
    rowsOf key' (saveToDB rows key e) = rowsOf key' rows := by
  rw [rowsOf, saveToDB, List.filter_append, List.map_append, rowsOf, List.filter_filter]
  have hnew : [(key, e)].filter (fun row ↦ row.1 = key') = [] := by simp [h]
  rw [hnew, List.map_nil, List.append_nil]
  congr 1
  refine List.filter_congr fun row _ ↦ ?_
  by_cases hkey : row.1 = key'
  · simp [hkey, h.symm]
  · simp [hkey]

theorem Sound.filter_last (h : s.Sound m_maxRecords key) (hpos : 0 < m_maxRecords.toNat) :
    (s.last key m_maxRecords.toNat).filter (·.m_guid ≠ (s.logs key).GetNextGUID m_maxRecords) =
      s.last key (m_maxRecords.toNat - 1) := by
  have hkept : (s.last key (m_maxRecords.toNat - 1)).filter
      (·.m_guid ≠ (s.logs key).GetNextGUID m_maxRecords) = s.last key (m_maxRecords.toNat - 1) :=
    List.filter_eq_self.mpr fun e he ↦ decide_eq_true (h.guid_ne he)
  rcases Nat.lt_or_ge (s.history key).length m_maxRecords.toNat with hlt | hge
  · have hsame : s.last key m_maxRecords.toNat = s.last key (m_maxRecords.toNat - 1) := by
      rw [last, last, Nat.sub_eq_zero_of_le hlt.le, Nat.sub_eq_zero_of_le (Nat.le_sub_one_of_lt hlt)]
    rw [hsame, hkept]
  · have hi : (s.history key).length - m_maxRecords.toNat < (s.history key).length := by omega
    have hcons := List.drop_eq_getElem_cons hi
    have hsucc : (s.history key).length - m_maxRecords.toNat + 1 =
      (s.history key).length - (m_maxRecords.toNat - 1) := by omega
    have hout : ((s.history key)[(s.history key).length - m_maxRecords.toNat]).m_guid =
        (s.logs key).GetNextGUID m_maxRecords := by
      rw [← UInt32.toNat_inj, h.guid _ hi, h.toNat_getNextGUID hpos, Nat.mod_eq_sub_mod hge]
    rw [last, hcons, List.filter_cons_of_neg (by simp [hout]), hsucc]
    exact hkept

theorem Sound.congr (h : s.Sound m_maxRecords key) (hlogs : s'.logs key = s.logs key)
    (hrows : rowsOf key s'.rows = rowsOf key s.rows) (hhistory : s'.history key = s.history key) :
    s'.Sound m_maxRecords key := by
  have hlast (n : ℕ) : s'.last key n = s.last key n := by rw [last, last, hhistory]
  refine ⟨?_, ?_, ?_, ?_, ?_, ?_⟩
  · rw [hlogs, hlast]
    exact h.recent
  · rw [hrows, hlast]
    exact h.stored
  · rw [hhistory]
    exact h.guid
  · rw [hhistory]
    exact h.pos
  · rw [hlogs, hhistory]
    exact h.next
  · rw [hhistory]
    exact h.times

theorem Sound.logEvent (h : ∀ key, s.Sound m_maxRecords key) {time : UInt64} {event : ε}
    (hk : s.Keeps (.logEvent key time event)) (hn : s.logEvent m_maxRecords key time event = some s')
    (key' : κ) : s'.Sound m_maxRecords key' := by
  obtain ⟨holder, hadd, rfl⟩ := Option.map_eq_some_iff.mp hn
  have hpos : 0 < m_maxRecords.toNat := by
    by_contra hzero
    have hnil : (s.logs key).m_log = [] := by
      have hhist : s.history key = [] := by
        by_contra hne
        exact hzero ((h key).pos hne)
      simp [(h key).recent, last, hhist]
    rw [LogHolder.AddEvent, if_pos (by omega), hnil] at hadd
    cases hadd
  have hholder := Option.some.inj ((addEvent_eq (h := { s.logs key with
    m_nextGUID := (s.logs key).GetNextGUID m_maxRecords }) hpos (h key).recent _).symm.trans hadd)
  by_cases hkey : key = key'
  · subst hkey
    have hlast (e : LogEntry ε) : (s.history key ++ [e]).drop
        ((s.history key ++ [e]).length - m_maxRecords.toNat) = s.last key (m_maxRecords.toNat - 1) ++ [e] := by
      rw [last_concat hpos, last]
      congr 2
      omega
    refine ⟨?_, ?_, ?_, ?_, ?_, ?_⟩
    · rw [← hholder]
      simp only [last, Function.update_self, last_concat hpos]
    · rw [rowsOf_saveToDB_self]
      simp only [last, Function.update_self, hlast]
      have hkept := (h key).stored.filter (·.m_guid ≠ (s.logs key).GetNextGUID m_maxRecords)
      rw [(h key).filter_last hpos] at hkept
      exact hkept.append_right _
    · simp only [Function.update_self]
      intro k hk
      rcases Nat.lt_or_ge k (s.history key).length with hlt | hge
      · rw [List.getElem_append_left hlt]
        exact (h key).guid k hlt
      · have hk' : k = (s.history key).length := by
          rw [List.length_append, List.length_singleton] at hk
          omega
        subst hk'
        rw [List.getElem_concat_length rfl]
        exact (h key).toNat_getNextGUID hpos
    · exact fun _ ↦ hpos
    · simp [← hholder]
    · simp only [Function.update_self]
      exact List.pairwise_append.mpr ⟨(h key).times, List.pairwise_singleton _ _, fun e he e' he' ↦ by
        rw [List.mem_singleton.mp he']
        exact hk e he⟩
  · exact (h key').congr (Function.update_of_ne (Ne.symm hkey) _ _) (rowsOf_saveToDB_of_ne _ _ hkey)
      (Function.update_of_ne (Ne.symm hkey) _ _)

/-! ## A start of the server -/

/-- What the rows of one log do to its holder. -/
def loadEntry (m_maxRecords : UInt32) (h : LogHolder ε) (entry : LogEntry ε) : LogHolder ε :=
  if h.CanInsert m_maxRecords then h.LoadEvent (ofRow entry) else h

theorem foldl_loadRow (result : List (κ × LogEntry ε)) (logs : κ → LogHolder ε) :
    result.foldl (loadRow m_maxRecords) logs key = (rowsOf key result).foldl (loadEntry m_maxRecords) (logs key) := by
  induction result generalizing logs with
  | nil => rfl
  | cons row result ih =>
    rw [List.foldl_cons, ih, loadRow]
    by_cases hkey : row.1 = key
    · have hcons : rowsOf key (row :: result) = row.2 :: rowsOf key result := by
        simp [rowsOf, hkey]
      rw [hcons, List.foldl_cons, loadEntry, hkey]
      split <;> simp
    · have hcons : rowsOf key (row :: result) = rowsOf key result := by simp [rowsOf, hkey]
      rw [hcons]
      split <;> simp [Function.update_of_ne (Ne.symm hkey)]

/-- Rows that fit are all loaded, each in front of the ones before it, and the first one that is loaded
into an empty log says what the guid of the last event is. -/
theorem foldl_loadEntry (l : List (LogEntry ε)) (h : LogHolder ε)
    (hfits : h.m_log.length + l.length ≤ m_maxRecords.toNat) :
    (l.foldl (loadEntry m_maxRecords) h).m_log = (l.map ofRow).reverse ++ h.m_log := by
  induction l generalizing h with
  | nil => rfl
  | cons e l ih =>
    rw [List.length_cons] at hfits
    have hinsert : h.CanInsert m_maxRecords = true := decide_eq_true (by omega)
    rw [List.foldl_cons, loadEntry, if_pos hinsert, ih _ (by rw [LogHolder.LoadEvent, List.length_cons]; omega),
      LogHolder.LoadEvent, List.map_cons, List.reverse_cons, List.append_assoc]
    rfl

theorem nextGUID_foldl_of_ne (l : List (LogEntry ε)) (h : LogHolder ε)
    (hne : h.m_nextGUID ≠ GUILD_EVENT_LOG_GUID_UNDEFINED) :
    (l.foldl (loadEntry m_maxRecords) h).m_nextGUID = h.m_nextGUID := by
  induction l generalizing h with
  | nil => rfl
  | cons e l ih =>
    rw [List.foldl_cons, loadEntry]
    split
    · have hsame : (h.LoadEvent (ofRow e)).m_nextGUID = h.m_nextGUID := if_neg hne
      rw [ih _ (hsame ▸ hne), hsame]
    · exact ih h hne

theorem nextGUID_foldl_new (l : List (LogEntry ε)) (hlt : ∀ e ∈ l, e.m_guid.toNat < m_maxRecords.toNat) :
    (l.foldl (loadEntry m_maxRecords) .new).m_nextGUID =
      (l.head?.map LogEntry.m_guid).getD GUILD_EVENT_LOG_GUID_UNDEFINED := by
  cases l with
  | nil => rfl
  | cons e l =>
    have hguid := hlt e List.mem_cons_self
    have hinsert : (LogHolder.new : LogHolder ε).CanInsert m_maxRecords = true :=
      decide_eq_true (Nat.zero_lt_of_lt hguid)
    have hfirst : ((LogHolder.new : LogHolder ε).LoadEvent (ofRow e)).m_nextGUID = e.m_guid := by
      rw [LogHolder.LoadEvent, LogHolder.new, if_pos rfl]
      rfl
    simp [loadEntry, hinsert, nextGUID_foldl_of_ne _ _ (hfirst ▸ ne_undefined hguid), hfirst]

/-- No row is deleted at a start: the guids are below the limit. -/
theorem filter_rows (h : ∀ key, s.Sound m_maxRecords key) :
    (s.rows.filter fun row ↦ ¬ row.2.m_guid > m_maxRecords) = s.rows := by
  refine List.filter_eq_self.mpr fun row hrow ↦ decide_eq_true ?_
  have hmem : row.2 ∈ rowsOf row.1 s.rows := List.mem_map.mpr ⟨row, List.mem_filter.mpr ⟨hrow, decide_eq_true rfl⟩, rfl⟩
  have hlt := (h row.1).guid_lt ((h row.1).stored.mem_iff.mp hmem)
  rw [gt_iff_lt, UInt32.lt_iff_toNat_lt]
  omega

/-- The rows of a log at a start are its last events, in the order of the query. -/
structure Read (m_maxRecords : UInt32) (s s' : Logs κ ε) (key : κ) (l : List (LogEntry ε)) : Prop where
  perm : l.Perm (s.last key m_maxRecords.toNat)
  sorted : l.Pairwise NotBefore
  log : (s'.logs key).m_log = (l.map ofRow).reverse
  next : (s'.logs key).m_nextGUID = (l.head?.map LogEntry.m_guid).getD GUILD_EVENT_LOG_GUID_UNDEFINED

theorem read_of_loadGuilds [DecidableEq ε] (h : ∀ key, s.Sound m_maxRecords key) {result : List (κ × LogEntry ε)}
    (hn : s.loadGuilds m_maxRecords result = some s') :
    s'.rows = s.rows ∧ s'.history = s.history ∧ ∀ key, ∃ l, Read m_maxRecords s s' key l := by
  obtain ⟨⟨hperm, hsorted⟩, heq⟩ := Option.ite_none_right_eq_some.mp hn
  rw [filter_rows h] at hperm heq
  rw [← Option.some.inj heq]
  refine ⟨rfl, rfl, fun key ↦ ⟨rowsOf key result, ?_⟩⟩
  have hstored : (rowsOf key result).Perm (s.last key m_maxRecords.toNat) :=
    ((hperm.filter _).map _).trans (h key).stored
  have hlen : (rowsOf key result).length ≤ m_maxRecords.toNat := by
    rw [hstored.length_eq, last, List.length_drop]
    omega
  refine ⟨hstored, List.pairwise_map.mpr (hsorted.filter _), ?_, ?_⟩
  · show (result.foldl (loadRow m_maxRecords) (fun _ ↦ .new) key).m_log = _
    rw [foldl_loadRow, foldl_loadEntry _ _ (by rw [LogHolder.new, List.length_nil]; omega)]
    exact List.append_nil _
  · show (result.foldl (loadRow m_maxRecords) (fun _ ↦ .new) key).m_nextGUID = _
    rw [foldl_loadRow, nextGUID_foldl_new]
    exact fun e he ↦ (h key).guid_lt (hstored.mem_iff.mp he)

/-- The numbers modulo `m` go up until they start from 0 again. -/
theorem mod_le_mod_succ {k m : ℕ} (hne : (k + 1) % m ≠ 0) : k % m ≤ (k + 1) % m := by
  rcases Nat.eq_zero_or_pos m with rfl | hm
  · simp
  rw [← Nat.mod_add_mod] at hne ⊢
  rcases Nat.lt_or_eq_of_le (Nat.succ_le_of_lt (Nat.mod_lt k hm) : k % m + 1 ≤ m) with hlt | heq
  · rw [Nat.mod_eq_of_lt hlt]
    exact Nat.le_succ _
  · have heq : k % m + 1 = m := heq
    rw [heq, Nat.mod_self] at hne
    exact absurd rfl hne

/-- Two events of a log that is in order, one right after the other: the first is not after the second in
the order of the query. -/
theorem Sound.notBefore_succ (h : s.Sound m_maxRecords key) (hin : (s.last key m_maxRecords.toNat).IsChain fun e e' ↦
      e'.m_guid = 0 → e.m_timestamp < e'.m_timestamp) :
    (s.last key m_maxRecords.toNat).IsChain fun e e' ↦ NotBefore e' e := by
  refine List.isChain_iff_getElem.mpr fun i hi ↦ ?_
  have hstep := hin.getElem i hi
  have hlen : i + 1 < (s.history key).length - ((s.history key).length - m_maxRecords.toNat) := by
    simpa [last] using hi
  simp only [last, List.getElem_drop] at hstep ⊢
  rcases UInt64.lt_or_eq_of_le (List.pairwise_iff_getElem.mp h.times
    ((s.history key).length - m_maxRecords.toNat + i)
    ((s.history key).length - m_maxRecords.toNat + (i + 1)) (by omega) (by omega) (by omega)) with hlt | heq
  · exact .inl hlt
  · refine .inr ⟨heq, ?_⟩
    have hguid := h.guid ((s.history key).length - m_maxRecords.toNat + i) (by omega)
    have hguid' := h.guid ((s.history key).length - m_maxRecords.toNat + (i + 1)) (by omega)
    have hne : ((s.history key).length - m_maxRecords.toNat + (i + 1)) % m_maxRecords.toNat ≠ 0 := by
      intro hzero
      have hlt := hstep (UInt32.toNat_inj.mp (hguid'.trans hzero))
      rw [heq] at hlt
      exact UInt64.lt_irrefl _ hlt
    rw [UInt32.le_iff_toNat_le, hguid, hguid']
    exact mod_le_mod_succ hne

theorem notBefore_trans {x y z : LogEntry ε} (h : NotBefore y x) (h' : NotBefore z y) : NotBefore z x := by
  rcases h with h | ⟨h, hg⟩ <;> rcases h' with h' | ⟨h', hg'⟩
  · exact .inl (UInt64.lt_trans h h')
  · exact .inl (h' ▸ h)
  · exact .inl (h ▸ h')
  · exact .inr ⟨h.trans h', UInt32.le_trans hg hg'⟩

theorem Sound.notBefore_antisymm (h : s.Sound m_maxRecords key) {x y : LogEntry ε}
    (hx : x ∈ s.last key m_maxRecords.toNat) (hy : y ∈ s.last key m_maxRecords.toNat)
    (hxy : NotBefore y x) (hyx : NotBefore x y) : x = y := by
  refine List.inj_on_of_nodup_map h.nodup_guid hx hy ?_
  rcases hxy with hlt | ⟨heq, hg⟩ <;> rcases hyx with hlt' | ⟨heq', hg'⟩
  · exact absurd (UInt64.lt_trans hlt hlt') (UInt64.lt_irrefl _)
  · exact absurd (heq' ▸ hlt) (UInt64.lt_irrefl _)
  · exact absurd (heq ▸ hlt') (UInt64.lt_irrefl _)
  · exact UInt32.le_antisymm hg hg'

theorem ofRow_of_lt {e : LogEntry ε} (h : e.m_timestamp.toNat < 2 ^ 32) : ofRow e = e := by
  have htime : e.m_timestamp.toUInt32.toUInt64 = e.m_timestamp := by
    rw [← UInt64.toNat_inj, UInt32.toNat_toUInt64, UInt64.toNat_toUInt32, Nat.mod_eq_of_lt h]
  rw [ofRow, htime]

theorem ofRow_lt (e : LogEntry ε) : (ofRow e).m_timestamp.toNat < 2 ^ 32 := by
  simpa [ofRow] using e.m_timestamp.toUInt32.toNat_lt

theorem map_ofRow {l : List (LogEntry ε)} (h : ∀ e ∈ l, e.m_timestamp.toNat < 2 ^ 32) : l.map ofRow = l :=
  (List.map_congr_left fun e he ↦ ofRow_of_lt (h e he)).trans (List.map_id l)

section

variable (h : s.Sound m_maxRecords key) {l : List (LogEntry ε)} (hl : Read m_maxRecords s s' key l)
include h hl

/-- **A log is read back** when it is in order, and only then. -/
theorem Sound.read_iff :
    (s'.logs key).m_log = s.last key m_maxRecords.toNat ↔ InOrder (s.last key m_maxRecords.toNat) := by
  constructor
  · intro hlog
    rw [hl.log] at hlog
    have htime : ∀ e ∈ s.last key m_maxRecords.toNat, e.m_timestamp.toNat < 2 ^ 32 := by
      intro e he
      rw [← hlog, List.mem_reverse] at he
      obtain ⟨row, -, rfl⟩ := List.mem_map.mp he
      exact ofRow_lt row
    have hrows : l.map ofRow = l := map_ofRow fun e he ↦ htime e (hl.perm.mem_iff.mp he)
    rw [hrows] at hlog
    have hsorted := hlog ▸ List.pairwise_reverse.mpr hl.sorted
    have hguid := List.pairwise_map.mp h.nodup_guid
    refine ⟨htime, (hsorted.and hguid).isChain.imp fun e e' hee' h0 ↦ ?_⟩
    rcases hee'.1 with hlt | ⟨-, hle⟩
    · exact hlt
    · have hzero : e.m_guid = 0 := UInt32.le_zero_iff.mp (h0 ▸ hle)
      exact absurd (hzero.trans h0.symm) hee'.2
  · rintro ⟨htime, hchain⟩
    have hrows : l.map ofRow = l := map_ofRow fun e he ↦ htime e (hl.perm.mem_iff.mp he)
    have : Trans (fun e e' : LogEntry ε ↦ NotBefore e' e) (fun e e' ↦ NotBefore e' e)
      (fun e e' ↦ NotBefore e' e) := ⟨notBefore_trans⟩
    have hlast := List.isChain_iff_pairwise.mp (h.notBefore_succ hchain)
    rw [hl.log, hrows]
    have hperm := (List.reverse_perm l).trans hl.perm
    exact List.Perm.eq_of_pairwise (fun x y hx hy ↦ h.notBefore_antisymm (hperm.mem_iff.mp hx) hy)
      (List.pairwise_reverse.mpr hl.sorted) hlast hperm

theorem Sound.next_of_read (hin : InOrder (s.last key m_maxRecords.toNat)) : (s'.logs key).m_nextGUID =
      ((s.history key).getLast?.map LogEntry.m_guid).getD GUILD_EVENT_LOG_GUID_UNDEFINED := by
  have hlog := (h.read_iff hl).mpr hin
  rw [hl.log, map_ofRow fun e he ↦ hin.1 e (hl.perm.mem_iff.mp he)] at hlog
  have hhead : l.head? = (s.history key).getLast? := by
    rw [← List.getLast?_reverse, hlog, last, List.getLast?_drop]
    split
    · rename_i hle
      by_cases hnil : s.history key = []
      · simp [hnil]
      · have hpos := h.pos hnil
        have hlen := List.length_pos_of_ne_nil hnil
        omega
    · rfl
  rw [hl.next, hhead]

end

theorem inOrder_nil : InOrder ([] : List (LogEntry ε)) := ⟨fun _ he ↦ absurd he List.not_mem_nil, .nil⟩

/-- A log without rows is empty, so it is enough to look at those that have some. -/
theorem keeps_loadGuilds_iff (h : ∀ key, s.Sound m_maxRecords key) (result : List (κ × LogEntry ε)) :
    s.Keeps (.loadGuilds result) ↔ ∀ key, InOrder (s.last key m_maxRecords.toNat) := by
  constructor
  · intro hk key
    rcases List.eq_nil_or_concat' (s.last key m_maxRecords.toNat) with hnil | ⟨l, e, hl⟩
    · rw [hnil]
      exact inOrder_nil
    · have he : e ∈ rowsOf key s.rows := (h key).stored.mem_iff.mpr (hl ▸ List.mem_append_right _ List.mem_cons_self)
      obtain ⟨row, hrow, rfl⟩ := List.mem_map.mp he
      obtain ⟨hmem, hkey⟩ := List.mem_filter.mp hrow
      simpa [of_decide_eq_true hkey, (h key).recent] using hk row hmem
  · intro hall row _
    rw [(h row.1).recent]
    exact hall row.1

theorem Sound.loadGuilds [DecidableEq ε] (h : ∀ key, s.Sound m_maxRecords key)
    {result : List (κ × LogEntry ε)} (hk : s.Keeps (.loadGuilds result))
    (hn : s.loadGuilds m_maxRecords result = some s') (key : κ) : s'.Sound m_maxRecords key := by
  obtain ⟨hrows, hhistory, hread⟩ := read_of_loadGuilds h hn
  obtain ⟨l, hl⟩ := hread key
  have hin := (keeps_loadGuilds_iff h result).mp hk key
  have hlast : s'.last key m_maxRecords.toNat = s.last key m_maxRecords.toNat := by
    rw [last, last, hhistory]
  refine ⟨?_, ?_, ?_, ?_, ?_, ?_⟩
  · rw [hlast]
    exact ((h key).read_iff hl).mpr hin
  · rw [hlast, hrows]
    exact (h key).stored
  · rw [hhistory]
    exact (h key).guid
  · rw [hhistory]
    exact (h key).pos
  · rw [hhistory]
    exact (h key).next_of_read hl hin
  · rw [hhistory]
    exact (h key).times

/-! ## What holds of a sound log -/

theorem Sound.survives (h : ∀ key, s.Sound m_maxRecords key) : s.Survives m_maxRecords :=
  fun key ↦ ⟨(h key).recent, (h key).stored, fun _ he ↦ (h key).guid_ne he⟩

theorem sound_start [DecidableEq ε] (key : κ) :
    (guildLogs m_maxRecords : Machine (Logs κ ε) _).start.Sound m_maxRecords key := by
  have hlast (n : ℕ) : (guildLogs m_maxRecords : Machine (Logs κ ε) _).start.last key n = [] := List.drop_nil
  refine ⟨(hlast _).symm, ?_, fun _ hk ↦ absurd hk (Nat.not_lt_zero _), fun hne ↦ absurd rfl hne, rfl, .nil⟩
  rw [hlast]
  exact .nil

theorem sound_of_reaches [DecidableEq ε] (h : (guildLogs m_maxRecords).Reaches Keeps s) (key : κ) :
    s.Sound m_maxRecords key := by
  refine h.invariant (P := fun s ↦ ∀ key, s.Sound m_maxRecords key) sound_start ?_ key
  intro s call s' hs hk hn
  cases call with
  | logEvent key time event => exact Sound.logEvent hs hk hn
  | loadGuilds result => exact Sound.loadGuilds hs hk hn

/-- **The logs survive** along the runs in which they are in order at every start of the server, and a
start after such a run leaves them as they were exactly when they are in order. -/
theorem survives_of_reaches [DecidableEq ε] (h : (guildLogs m_maxRecords).Reaches Keeps s) :
    s.Survives m_maxRecords ∧ ∀ result s', s.loadGuilds m_maxRecords result = some s' →
      (s'.Survives m_maxRecords ↔ s.Keeps (.loadGuilds result)) := by
  have hs := sound_of_reaches h
  refine ⟨Sound.survives hs, fun result s' hn ↦ ⟨fun hsurv ↦ ?_, fun hk ↦ ?_⟩⟩
  · obtain ⟨-, hhistory, hread⟩ := read_of_loadGuilds hs hn
    refine (keeps_loadGuilds_iff hs result).mpr fun key ↦ ?_
    obtain ⟨l, hl⟩ := hread key
    refine ((hs key).read_iff hl).mp ?_
    rw [(hsurv key).1, last, last, hhistory]
  · exact Sound.survives (Sound.loadGuilds hs hk hn)

/-- Three events in a log of two, and a start of the server that reads the rows in this order. -/
def threeEvents (times : ℕ → UInt64) (result : List (LogEntry ℕ)) : List (Call Unit ℕ) :=
  [.logEvent () (times 1) 10, .logEvent () (times 2) 20, .logEvent () (times 3) 30,
   .loadGuilds (result.map fun e ↦ ((), e))]

/-- With a second between the events, the last two are read back. -/
theorem survives_of_reaches_threeEvents : ∃ s : Logs Unit ℕ, s.Survives 2 ∧
    (s.logs ()).m_log.map LogEntry.event = [20, 30] := by
  obtain ⟨s, hs, hw⟩ := (guildLogs 2).exists_reaches Keeps (threeEvents Nat.toUInt64 [⟨0, 3, 30⟩, ⟨1, 2, 20⟩])
    (fun s ↦ (s.logs ()).m_log.map LogEntry.event = [20, 30]) (by decide +kernel)
  exact ⟨s, (survives_of_reaches hs).1, hw⟩

/-- In the same second, the last event has the guid 0 and is read after the one before it. -/
theorem not_survives : ¬ ∀ s : Logs Unit ℕ, (guildLogs 2).Reaches Timely s → s.Survives 2 := by
  intro hall
  obtain ⟨s, hs, hlog, hlast⟩ := (guildLogs 2).exists_reaches Timely (threeEvents (fun _ ↦ 1) [⟨1, 1, 20⟩, ⟨0, 1,
    30⟩])
    (fun s ↦ (s.logs ()).m_log.map LogEntry.event = [30, 20] ∧
      (s.last () 2).map LogEntry.event = [20, 30]) (by decide +kernel)
  have hsame : (s.logs ()).m_log = s.last () 2 := (hall s hs ()).1
  simp [hsame, hlast] at hlog

end Logs

end Gundrak.Guilds
