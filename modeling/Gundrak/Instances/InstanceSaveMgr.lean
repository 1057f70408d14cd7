import Gundrak.Util.Machine
import Gundrak.Util.Multimap
import Gundrak.Util.TreeMap

/-!
# The resets of instances

The `InstanceSaveManager` keeps one queue of reset events, `m_resetTimeQueue`, ordered by time.  An event
of type 0 resets one instance.  The events of types 1 to 4 are for all instances of a map at one
difficulty: 1, 2 and 3 warn of the reset, 4 carries it out.  `Update` works off the events that are due;
after a warning it schedules the next one and after a reset the first warning of the next reset.

An event stores the id of an instance in 16 bits, though ids have 32, and two events count as equal when
these bits are.  `askedFor` and the log `m_resets` are not in the source: the id an event was made for,
and the calls of `_ResetInstance` with what they were made for.

Times are seconds since the epoch.  Players are not modelled: whether someone keeps a save alive
(an extended permanent bind) is an argument of the calls.
-/

open Std (ExtTreeMap)

namespace Gundrak

/-! ## The data -/

/-- A day, in seconds. -/
def DAY : ℤ := 86400

/-- A map at one of its difficulties, the two halves of a `PAIR32`. -/
structure MapDifficultyKey where
  mapid : UInt16
  difficulty : UInt8
deriving DecidableEq

/-- What is looked up in the `MapEntry` of a map. -/
structure MapEntry where
  IsRaid : Bool
  Instanceable : Bool

/-- A row of the table `instance`. -/
structure InstanceRow where
  id : UInt32
  map : UInt16
  difficulty : UInt8
  resettime : ℕ

/-- A row of the table `instance_reset`. -/
structure InstanceResetRow where
  mapid : UInt16
  difficulty : UInt8
  resettime : ℕ

/-- The stores and settings of the server that the resets depend on. -/
structure ResetStores where
  /-- `sMapStore`, as far as it has a map -/
  mapEntry : UInt32 → Option MapEntry
  /-- `sMapDifficultyMap`, with the reset time of each pair in seconds; 0 is none -/
  sMapDifficultyMap : List (MapDifficultyKey × ℕ)
  nodup : (sMapDifficultyMap.map Prod.fst).Nodup
  /-- the reset time scaled by `RATE_INSTANCE_RESET_TIME`, computed in floating point, as a `uint32` -/
  scaled : ℕ → ℕ
  /-- `CONFIG_INSTANCE_RESET_TIME_HOUR` -/
  resetTimeHour : ℕ

/-- `InstResetEvent`. -/
structure InstResetEvent where
  type : UInt8
  difficulty : UInt8
  mapid : UInt16
  instanceId : UInt16
  /-- ours: the id the event was made with -/
  askedFor : UInt32
deriving DecidableEq

namespace InstResetEvent

/-- The constructor of `InstResetEvent`, which takes the low 16 bits of the id. -/
def make (type : UInt8) (mapid : UInt16) (difficulty : UInt8) (instanceId : UInt32) :
    InstResetEvent :=
  ⟨type, difficulty, mapid, instanceId.toUInt16, instanceId⟩

def key (e : InstResetEvent) : MapDifficultyKey := ⟨e.mapid, e.difficulty⟩

end InstResetEvent

/-- `InstResetEvent::operator==`. -/
def sameEvent (e e' : InstResetEvent) : Bool := decide (e'.instanceId = e.instanceId)

/-- The queue: a multimap from times to events. -/
abbrev ResetTimeQueue := List (ℤ × InstResetEvent)

/-- What is kept of an `InstanceSave`. -/
structure InstanceSave where
  mapid : UInt16
  difficulty : UInt8
  resetTime : ℤ
  canReset : Bool
deriving DecidableEq

/-- A call of `_ResetInstance`: the id it got, and the entry of the queue and the time it was made
for. -/
structure ResetCall where
  instanceId : UInt32
  due : ℤ
  event : InstResetEvent
  now : ℤ

structure InstanceSaveManager where
  m_instanceSaveById : ExtTreeMap UInt32 InstanceSave compare := ∅
  m_resetTimeByMapDifficulty : MapDifficultyKey → Option ℤ := fun _ ↦ none
  m_resetTimeQueue : ResetTimeQueue := []
  /-- ours: the calls of `_ResetInstance` that freed an instance id -/
  m_resets : List ResetCall := []

/-- `ResetTimeDelay[type - 1]`. -/
def ResetTimeDelay (type : UInt8) : ℤ :=
  if type = 1 then 3600 else if type = 2 then 900 else if type = 3 then 300 else 60

namespace ResetStores

variable (stores : ResetStores)

/-- The reset delay of a pair, 0 when there is no such pair or it has none. -/
def resetTime (k : MapDifficultyKey) : ℕ :=
  ((stores.sMapDifficultyMap.find? fun q ↦ decide (q.1 = k)).map Prod.snd).getD 0

/-- The pairs with a reset delay. -/
def HasDelay (k : MapDifficultyKey) : Prop := stores.resetTime k ≠ 0

instance (k : MapDifficultyKey) : Decidable (stores.HasDelay k) := inferInstanceAs (Decidable (_ ≠ _))

def hasPair (k : MapDifficultyKey) : Bool := stores.sMapDifficultyMap.any fun q ↦ decide (q.1 = k)

/-- The hour of the day at which instances reset, in seconds. -/
def diff : ℤ := stores.resetTimeHour * 3600

/-- The time from one reset to the next: at least one day. -/
def period (k : MapDifficultyKey) : ℤ := max (stores.scaled (stores.resetTime k)) DAY

def instanceable (mapid : UInt16) : Bool := (stores.mapEntry mapid.toUInt32).any (·.Instanceable)

/-- `GetSubsequentResetTime`; 0 when the pair has no reset delay. -/
def GetSubsequentResetTime (k : MapDifficultyKey) (resetTime : ℤ) : ℤ :=
  if stores.HasDelay k then
    (resetTime + 60).tdiv DAY * DAY + stores.period k + stores.diff
  else 0

end ResetStores

/-! ## The operations -/

/-- `ScheduleReset(true, time, event)`. -/
def scheduleReset (q : ResetTimeQueue) (time : ℤ) (event : InstResetEvent) : ResetTimeQueue :=
  Multimap.insert time event q

/-- The entry `ScheduleReset(false, time, event)` erases: the first equal event at this time, otherwise
the first equal event at any time. -/
def findReset (q : ResetTimeQueue) (time : ℤ) (event : InstResetEvent) : Option (ℤ × InstResetEvent) :=
  (q.find? fun x ↦ decide (x.1 = time) && sameEvent x.2 event).or (q.find? fun x ↦ sameEvent x.2 event)

/-- `ScheduleReset(false, time, event)`. -/
def cancelReset (q : ResetTimeQueue) (time : ℤ) (event : InstResetEvent) : ResetTimeQueue :=
  if q.any fun x ↦ decide (x.1 = time) && sameEvent x.2 event then
    q.eraseP fun x ↦ decide (x.1 = time) && sameEvent x.2 event
  else q.eraseP fun x ↦ sameEvent x.2 event

namespace InstanceSaveManager

variable (stores : ResetStores) (m : InstanceSaveManager)

/-- `GetResetTimeFor`. -/
def GetResetTimeFor (k : MapDifficultyKey) : ℤ := (m.m_resetTimeByMapDifficulty k).getD 0

/-- `InitializeResetTimeFor`. -/
def InitializeResetTimeFor (k : MapDifficultyKey) (t : ℤ) : InstanceSaveManager :=
  { m with
    m_resetTimeByMapDifficulty := fun k' ↦
      if k' = k then some t else m.m_resetTimeByMapDifficulty k' }

/-- `SetResetTimeFor`; `none` when the assertion in it fails. -/
def SetResetTimeFor (k : MapDifficultyKey) (t : ℤ) : Option InstanceSaveManager :=
  (m.m_resetTimeByMapDifficulty k).map fun _ ↦ m.InitializeResetTimeFor k t

/-- `_ResetSave` of the save of an instance. -/
def _ResetSave (extended : UInt32 → Bool) (id : UInt32) : InstanceSaveManager :=
  if extended id then m else { m with m_instanceSaveById := m.m_instanceSaveById.erase id }

/-- `_ResetInstance`, made at the time `now` for the entry `x` of the queue. -/
def _ResetInstance (now : ℤ) (extended : UInt32 → Bool) (x : ℤ × InstResetEvent) :
    InstanceSaveManager :=
  if stores.instanceable x.2.mapid then
    let instanceId : UInt32 := x.2.instanceId.toUInt32
    let m := if instanceId ∈ m.m_instanceSaveById then m._ResetSave extended instanceId else m
    -- deletes the instance from the database and frees its id
    { m with m_resets := ⟨instanceId, x.1, x.2, now⟩ :: m.m_resets }
  else m

/-- `_ResetOrWarnAll`.  A warning is only sent out. -/
def _ResetOrWarnAll (extended : UInt32 → Bool) (k : MapDifficultyKey) (warn : Bool)
    (resetTime : ℤ) : Option InstanceSaveManager :=
  if !stores.instanceable k.mapid then some m
  else if warn then some m
  else
    let next_reset := stores.GetSubsequentResetTime k resetTime
    if next_reset = 0 then some m
    else
      let m := (m.m_instanceSaveById.toList.filter fun q ↦
        decide (q.2.mapid = k.mapid ∧ q.2.difficulty = k.difficulty)).foldl
          (fun m q ↦ m._ResetSave extended q.1) m
      (m.SetResetTimeFor k next_reset).map fun m ↦
        { m with
          m_resetTimeQueue := scheduleReset m.m_resetTimeQueue (next_reset - 3600) (.make 1 k.mapid k.difficulty 0) }

/-- One round of `Update`, for a queue that starts with the entry `x`, which is due.  The rounds of
types 1 to 3 count the type up in place, schedule the event again, and then erase what is first. -/
def updateRound (now : ℤ) (extended : UInt32 → Bool) (x : ℤ × InstResetEvent)
    (rest : ResetTimeQueue) : Option InstanceSaveManager :=
  if x.2.type = 0 then
    some { m._ResetInstance stores now extended x with m_resetTimeQueue := rest }
  else
    let resetTime := m.GetResetTimeFor x.2.key
    (m._ResetOrWarnAll stores extended x.2.key (x.2.type != 4) resetTime).map fun m ↦
      if x.2.type ≠ 4 then
        let event := { x.2 with type := x.2.type + 1 }
        { m with
          m_resetTimeQueue :=
            (scheduleReset ((x.1, event) :: rest) (resetTime - ResetTimeDelay event.type) event).tail }
      else { m with m_resetTimeQueue := m.m_resetTimeQueue.tail }

/-- `Update`; `none` when `rounds` are too few, or an assertion fails. -/
def Update (now : ℤ) (extended : UInt32 → Bool) : ℕ → InstanceSaveManager → Option InstanceSaveManager
  | 0, _ => none
  | rounds + 1, m =>
    match m.m_resetTimeQueue with
    | [] => some m
    | x :: rest =>
      if now ≤ x.1 then some m
      else (m.updateRound stores now extended x rest).bind (Update now extended rounds)

/-- `ForceGlobalReset` of a pair the server knows; of others the difficulty would be scaled down
first. -/
def ForceGlobalReset (now : ℤ) (extended : UInt32 → Bool) (k : MapDifficultyKey) :
    Option InstanceSaveManager :=
  let q := cancelReset m.m_resetTimeQueue 0 (.make 1 k.mapid k.difficulty 0)
  let q := cancelReset q 0 (.make 4 k.mapid k.difficulty 0)
  { m with m_resetTimeQueue := q }._ResetOrWarnAll stores extended k false now

/-- `AddInstanceSave`; the save it returns is the one under the id afterwards. -/
def AddInstanceSave (now : ℤ) (mapId instanceId : UInt32) (difficulty : UInt8) (resetTime : ℤ)
    (canReset : Bool) : InstanceSaveManager :=
  if instanceId ∈ m.m_instanceSaveById then m
  else
    match stores.mapEntry mapId with
    | none => m
    | some entry =>
      if instanceId = 0 then m
      else if difficulty ≥ (if entry.IsRaid then 4 else 3) then m
      else if resetTime ≠ 0 then
        { m with
          m_instanceSaveById :=
            m.m_instanceSaveById.insert instanceId ⟨mapId.toUInt16, difficulty, resetTime, canReset⟩ }
      else if entry.IsRaid ∨ difficulty > 0 then
        { m with
          m_instanceSaveById := m.m_instanceSaveById.insert instanceId
            ⟨mapId.toUInt16, difficulty, m.GetResetTimeFor ⟨mapId.toUInt16, difficulty⟩, canReset⟩ }
      else
        { m with
          m_instanceSaveById := m.m_instanceSaveById.insert instanceId
            ⟨mapId.toUInt16, difficulty, now + 2 * 3600, canReset⟩
          m_resetTimeQueue := scheduleReset m.m_resetTimeQueue (now + 2 * 3600)
            (.make 0 mapId.toUInt16 difficulty instanceId) }

/-! ## Loading -/

/-- Schedule the reset of an instance of its own. -/
def loadInstance (now : ℤ) (m : InstanceSaveManager) (row : InstanceRow) : InstanceSaveManager :=
  if (row.resettime : ℤ) > now then
    { m with
      m_resetTimeQueue := scheduleReset m.m_resetTimeQueue row.resettime
        (.make 0 row.map row.difficulty row.id) }
  else m

/-- Take over a stored reset time, moved to the hour of the day at which instances reset. -/
def loadResetTime (m : InstanceSaveManager) (row : InstanceResetRow) : InstanceSaveManager :=
  if stores.hasPair ⟨row.mapid, row.difficulty⟩ then
    m.InitializeResetTimeFor ⟨row.mapid, row.difficulty⟩
      ((row.resettime : ℤ).tdiv DAY * DAY + stores.diff)
  else m

/-- The next reset of a pair: the stored one, if it is not over. -/
def nextResetTime (now : ℤ) (k : MapDifficultyKey) : ℤ :=
  let today := now.tdiv DAY * DAY
  let t := m.GetResetTimeFor k
  let t := if t = 0 then today + stores.period k + stores.diff else t
  if t < now then
    t.tdiv DAY * DAY + (((today - t.tdiv DAY * DAY).tdiv (stores.period k) + 1) * stores.period k + stores.diff)
  else t

/-- The first warning that is not over, or the reset itself. -/
def firstType (now t : ℤ) : UInt8 :=
  if t - ResetTimeDelay 1 > now then 1
  else if t - ResetTimeDelay 2 > now then 2
  else if t - ResetTimeDelay 3 > now then 3
  else 4

/-- Schedule the reset of a pair, and that of each stored instance with a reset time in it. -/
def loadPair (now : ℤ) (rows : List InstanceRow) (m : InstanceSaveManager)
    (q : MapDifficultyKey × ℕ) : InstanceSaveManager :=
  if q.2 = 0 then m
  else
    let t := m.nextResetTime stores now q.1
    let type := firstType now t
    let m := m.InitializeResetTimeFor q.1 t
    let queue := scheduleReset m.m_resetTimeQueue (t - ResetTimeDelay type)
      (.make type q.1.mapid q.1.difficulty 0)
    { m with
      m_resetTimeQueue := (rows.filter fun row ↦ decide ((⟨row.map, row.difficulty⟩ : MapDifficultyKey) = q.1)).foldl
          (fun queue row ↦ scheduleReset queue (t - ResetTimeDelay type)
            (.make type q.1.mapid q.1.difficulty row.id)) queue }

/-- `LoadResetTimes`, into a new manager.  The rows of `instance` come ordered by their ids. -/
def LoadResetTimes (now : ℤ) (instances : List InstanceRow) (resets : List InstanceResetRow) :
    InstanceSaveManager :=
  let rows := instances.filter fun row ↦ row.resettime != 0
  let m : InstanceSaveManager := rows.foldl (loadInstance now) {}
  let m := resets.foldl (loadResetTime stores) m
  stores.sMapDifficultyMap.foldl (loadPair stores now rows) m

end InstanceSaveManager

end Gundrak
