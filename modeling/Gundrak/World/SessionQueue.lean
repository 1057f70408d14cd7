import Gundrak.Util.Machine
import Gundrak.Util.TreeMap

/-!
# Waiting to be let in

The world has one session of each account.  When there are as many as the server takes, a new one is put at the end of
`m_QueuedPlayer`, and when one ends the first in the queue is let in.  A session is named by how many there have been
before it, in place of its address, and `initialized` has those that have been let in.

**`queueSound_of_reaches`** says that whoever has a session has been let in or waits, that those who wait do so in the
order in which they came, and that nobody waits while there is room.  `UpdateSessions` asks `RemoveQueuedPlayer` twice
about a session that has ended; the second time nobody is let in (`Inv.removeQueuedPlayer_again`).

What is sent is left out, and `KickAll`, which empties the queue when the server shuts down.
-/

open Std (ExtTreeMap)

namespace Gundrak.Sessions

/-- What is used of `World`. -/
structure World where
  /-- the session of each account -/
  m_sessions : ExtTreeMap ℕ ℕ
  m_QueuedPlayer : List ℕ
  m_playerLimit : ℕ
  /-- the sessions for which `InitializeSession` has been called -/
  initialized : List ℕ
  /-- how many sessions there have been -/
  created : ℕ

/-- What is asked of the queue: the calls of `UpdateSessions`, and the command that changes the limit. -/
inductive Call where
  | AddSession_ (account : ℕ) (loading skip : Bool)
  | endSession (account : ℕ)
  | SetPlayerAmountLimit (limit : ℕ)

namespace World

/-- `World::GetActiveSessionCount`. -/
def GetActiveSessionCount (w : World) : ℕ := w.m_sessions.size - w.m_QueuedPlayer.length

/-- `WorldSession::InitializeSession`. -/
def InitializeSession (w : World) (s : ℕ) : World := { w with initialized := s :: w.initialized }

/-- `World::AddQueuedPlayer`. -/
def AddQueuedPlayer (w : World) (sess : ℕ) : World := { w with m_QueuedPlayer := w.m_QueuedPlayer ++ [sess] }

/-- The first in the queue is let in, if there is room beside so many sessions. -/
def acceptFirst (w : World) (sessions : ℕ) : World :=
  match w.m_QueuedPlayer with
  | [] => w
  | pop_sess :: queue =>
    if w.m_playerLimit = 0 ∨ sessions < w.m_playerLimit then
      { w with m_QueuedPlayer := queue }.InitializeSession pop_sess
    else w

/-- `World::RemoveQueuedPlayer`. -/
def RemoveQueuedPlayer (w : World) (sess : ℕ) : Bool × World :=
  let sessions := w.GetActiveSessionCount
  if sess ∈ w.m_QueuedPlayer then
    (true, { w with m_QueuedPlayer := w.m_QueuedPlayer.erase sess }.acceptFirst sessions)
  else (false, w.acceptFirst (sessions - 1))

/-- The new session of an account takes the place of the one it had. -/
def putSession (w : World) (account : ℕ) : World :=
  { w with m_sessions := w.m_sessions.insert account w.created, created := w.created + 1 }

/-- What `AddSession_` does with the session that the account has. -/
def removeOld (w : World) (account : ℕ) : Bool × World := w.m_sessions[account]?.elim (false, w) w.RemoveQueuedPlayer

/-- `World::AddSession_`, of a new session of an account.  `loading` is what the session that the account has answers to
`PlayerLoading`, and `skip` says whether the new one may skip the queue, or was disconnected recently. -/
def AddSession_ (w : World) (account : ℕ) (loading skip : Bool) : World :=
  if w.m_sessions[account]?.isSome ∧ loading = true then { w with created := w.created + 1 }
  else
    let w' := (w.removeOld account).2.putSession account
    let sessions := w'.m_sessions.size - (!(w.removeOld account).1).toNat
    if 0 < w'.m_playerLimit ∧ w'.m_playerLimit ≤ sessions ∧ skip = false then w'.AddQueuedPlayer w.created
    else w'.InitializeSession w.created

/-- What `World::UpdateSessions` does with the session of an account that has ended. -/
def endSession (w : World) (account pSession : ℕ) : World :=
  let w' := ((w.RemoveQueuedPlayer pSession).2.RemoveQueuedPlayer pSession).2
  { w' with m_sessions := w'.m_sessions.erase account }

def next (w : World) : Call → Option World
  | .AddSession_ account loading skip => some (w.AddSession_ account loading skip)
  | .endSession account => w.m_sessions[account]?.map (w.endSession account)
  | .SetPlayerAmountLimit limit => some { w with m_playerLimit := limit }

/-- A world that nobody has a session of. -/
def machine (limit : ℕ) : Machine World Call := ⟨⟨∅, [], limit, [], 0⟩, next⟩

/-- While somebody waits, the limit is only lowered. -/
def limitOk (w : World) : Call → Prop
  | .SetPlayerAmountLimit limit => w.m_QueuedPlayer = [] ∨ 0 < limit ∧ limit ≤ w.m_playerLimit
  | _ => True

instance (w : World) : ∀ c, Decidable (w.limitOk c)
  | .SetPlayerAmountLimit _ => inferInstanceAs (Decidable (_ ∨ _))
  | .AddSession_ .. | .endSession _ => inferInstanceAs (Decidable True)

/-! ## The order of the queue -/

/-- What should hold of the queue. -/
structure QueueSound (w : World) : Prop where
  /-- those who wait do so in the order in which they came -/
  order : w.m_QueuedPlayer.Pairwise (· < ·)
  listed : ∀ s ∈ w.m_QueuedPlayer, ∃ account : ℕ, w.m_sessions[account]? = some s
  /-- whoever has a session waits or has been let in -/
  letIn : ∀ account s : ℕ, w.m_sessions[account]? = some s → (s ∈ w.initialized ↔ s ∉ w.m_QueuedPlayer)
  /-- the difference of `GetActiveSessionCount` does not wrap -/
  count : w.m_QueuedPlayer.length ≤ w.m_sessions.size
  /-- nobody waits while there is room -/
  full : w.m_QueuedPlayer ≠ [] → 0 < w.m_playerLimit ∧ w.m_playerLimit ≤ w.GetActiveSessionCount

/-- The invariant.  The session `gone`, if it is one, is about to go: it does not wait and is not counted. -/
structure Inv (w : World) (gone : Option ℕ) : Prop where
  order : w.m_QueuedPlayer.Pairwise (· < ·)
  below : ∀ s, s ∈ w.m_QueuedPlayer ∨ s ∈ w.initialized → s < w.created
  unique : ∀ a b s : ℕ, w.m_sessions[a]? = some s → w.m_sessions[b]? = some s → a = b
  listed : ∀ s ∈ w.m_QueuedPlayer, some s ≠ gone ∧ ∃ account : ℕ, w.m_sessions[account]? = some s
  letIn : ∀ account s : ℕ, w.m_sessions[account]? = some s →
    s < w.created ∧ (some s ≠ gone → (s ∈ w.initialized ↔ s ∉ w.m_QueuedPlayer))
  full : w.m_QueuedPlayer ≠ [] → 0 < w.m_playerLimit ∧
    w.m_playerLimit + w.m_QueuedPlayer.length + gone.toList.length ≤ w.m_sessions.size

variable {w : World}

theorem Inv.queueSound (h : w.Inv none) : w.QueueSound where
  order := h.order
  listed s hs := (h.listed s hs).2
  letIn a s ha := (h.letIn a s ha).2 nofun
  count := by
    by_cases hq : w.m_QueuedPlayer = []
    · simp [hq]
    · have := h.full hq
      omega
  full hq := by
    have := h.full hq
    simp only [GetActiveSessionCount, Option.toList_none, List.length_nil] at this ⊢
    omega

theorem inv_start (limit : ℕ) : (machine limit).start.Inv none where
  order := .nil
  below := by simp [machine]
  unique := by simp [machine]
  listed := by simp [machine]
  letIn := by simp [machine]
  full := by simp [machine]

/-! ## Letting the first in -/

theorem acceptFirst_nil {n : ℕ} (hq : w.m_QueuedPlayer = []) : w.acceptFirst n = w := by
  simp [acceptFirst, hq]

theorem acceptFirst_cons {n p : ℕ} {queue : List ℕ} (hq : w.m_QueuedPlayer = p :: queue) :
    w.acceptFirst n = if w.m_playerLimit = 0 ∨ n < w.m_playerLimit then
      { w with m_QueuedPlayer := queue }.InitializeSession p else w := by
  simp only [acceptFirst, hq]

theorem acceptFirst_frame (w : World) (n : ℕ) : (w.acceptFirst n).m_sessions = w.m_sessions ∧
    (w.acceptFirst n).m_playerLimit = w.m_playerLimit ∧ (w.acceptFirst n).created = w.created := by
  unfold acceptFirst
  split
  · exact ⟨rfl, rfl, rfl⟩
  · split <;> exact ⟨rfl, rfl, rfl⟩

theorem Inv.acceptFirst {gone : Option ℕ} {n : ℕ} (h : w.Inv gone) : (w.acceptFirst n).Inv gone := by
  cases hq : w.m_QueuedPlayer with
  | nil => exact (acceptFirst_nil hq).symm ▸ h
  | cons p queue =>
    rw [acceptFirst_cons hq]
    split
    · have hord : (∀ s ∈ queue, p < s) ∧ queue.Pairwise (· < ·) := List.pairwise_cons.mp (hq ▸ h.order)
      refine ⟨hord.2, fun s hs ↦ h.below s ?_, h.unique, fun s hs ↦ h.listed s ?_, fun a s ha ↦ ?_, fun _ ↦ ?_⟩
      · simpa [hq, InitializeSession, or_assoc, or_left_comm] using hs
      · rw [hq]
        exact List.mem_cons_of_mem _ hs
      · refine ⟨(h.letIn a s ha).1, fun hne ↦ ?_⟩
        have hs := (h.letIn a s ha).2 hne
        rw [hq, List.mem_cons, not_or] at hs
        show s ∈ p :: w.initialized ↔ s ∉ queue
        rw [List.mem_cons, hs]
        by_cases hsp : s = p
        · subst hsp
          exact iff_of_true (.inl rfl) fun hm ↦ lt_irrefl _ (hord.1 s hm)
        · simp [hsp]
      · have hfull := h.full (by simp [hq])
        rw [hq, List.length_cons] at hfull
        show 0 < w.m_playerLimit ∧ w.m_playerLimit + queue.length + gone.toList.length ≤ w.m_sessions.size
        omega
    · exact h

/-! ## A session ends -/

/-- A session that does not wait may go, if without it there is still no room. -/
theorem Inv.leave {s : ℕ} (h : w.Inv none) (hs : s ∉ w.m_QueuedPlayer)
    (hfull : w.m_QueuedPlayer ≠ [] → w.m_playerLimit + w.m_QueuedPlayer.length + 1 ≤ w.m_sessions.size) :
    w.Inv (some s) where
  order := h.order
  below := h.below
  unique := h.unique
  listed t ht := ⟨fun he ↦ hs (Option.some_inj.mp he ▸ ht), (h.listed t ht).2⟩
  letIn a t ha := ⟨(h.letIn a t ha).1, fun _ ↦ (h.letIn a t ha).2 nofun⟩
  full hq := ⟨(h.full hq).1, hfull hq⟩

/-- When a session that does not wait goes, the first in the queue takes its place. -/
theorem Inv.acceptFirst_leave {s : ℕ} (h : w.Inv none) (hs : s ∉ w.m_QueuedPlayer) :
    (w.acceptFirst (w.GetActiveSessionCount - 1)).Inv (some s) := by
  cases hq : w.m_QueuedPlayer with
  | nil => exact (acceptFirst_nil hq).symm ▸ h.leave hs fun hne ↦ absurd hq hne
  | cons p queue =>
    have h' := h.acceptFirst (n := w.GetActiveSessionCount - 1)
    have hfull := h.full (by simp [hq])
    rw [acceptFirst_cons hq] at h' ⊢
    simp only [hq, Option.toList_none, List.length_nil, List.length_cons] at hfull
    split
    · rw [if_pos (by assumption)] at h'
      rw [hq, List.mem_cons, not_or] at hs
      exact h'.leave hs.2 fun _ ↦ hfull.2
    · next hroom =>
      refine h.leave hs fun _ ↦ ?_
      simp only [GetActiveSessionCount, hq, List.length_cons] at hroom ⊢
      omega

/-- A session that waits goes out of the queue. -/
theorem Inv.erase {s : ℕ} (h : w.Inv none) (hs : s ∈ w.m_QueuedPlayer) :
    Inv { w with m_QueuedPlayer := w.m_QueuedPlayer.erase s } (some s) where
  order := h.order.sublist List.erase_sublist
  below t ht := h.below t (ht.imp_left List.mem_of_mem_erase)
  unique := h.unique
  listed t ht := by
    have hnodup : w.m_QueuedPlayer.Nodup := h.order.imp fun hlt ↦ Nat.ne_of_lt hlt
    have hne := (hnodup.mem_erase_iff.mp ht).1
    exact ⟨fun he ↦ hne (Option.some_inj.mp he), (h.listed t (List.mem_of_mem_erase ht)).2⟩
  letIn a t ha := by
    refine ⟨(h.letIn a t ha).1, fun hne ↦ ?_⟩
    have hne' : t ≠ s := fun he ↦ hne (by rw [he])
    rw [(h.letIn a t ha).2 nofun, List.mem_erase_of_ne hne']
  full _ := by
    have hfull := h.full (List.ne_nil_of_mem hs)
    have hpos := List.length_pos_of_mem hs
    simp only [List.length_erase_of_mem hs, Option.toList_none, Option.toList_some, List.length_nil,
      List.length_singleton] at hfull ⊢
    omega

theorem RemoveQueuedPlayer_frame (w : World) (s : ℕ) : (w.RemoveQueuedPlayer s).2.m_sessions = w.m_sessions ∧
    (w.RemoveQueuedPlayer s).2.m_playerLimit = w.m_playerLimit ∧ (w.RemoveQueuedPlayer s).2.created = w.created := by
  unfold RemoveQueuedPlayer
  split <;> exact acceptFirst_frame _ _

theorem Inv.removeQueuedPlayer (h : w.Inv none) (s : ℕ) : (w.RemoveQueuedPlayer s).2.Inv (some s) := by
  unfold World.RemoveQueuedPlayer
  split
  · exact (h.erase (by assumption)).acceptFirst
  · exact h.acceptFirst_leave (by assumption)

/-- The one who goes does not make room a second time. -/
theorem Inv.removeQueuedPlayer_again {s : ℕ} (h : w.Inv (some s)) : w.RemoveQueuedPlayer s = (false, w) := by
  have hs : s ∉ w.m_QueuedPlayer := fun hm ↦ (h.listed s hm).1 rfl
  rw [RemoveQueuedPlayer, if_neg hs]
  cases hq : w.m_QueuedPlayer with
  | nil => rw [acceptFirst_nil hq]
  | cons p queue =>
    have hfull := h.full (by simp [hq])
    rw [acceptFirst_cons hq, if_neg]
    simp only [GetActiveSessionCount, hq, List.length_cons, Option.toList_some, List.length_nil] at hfull ⊢
    omega

theorem Inv.endSession {account s : ℕ} (h : w.Inv none) (ha : w.m_sessions[account]? = some s) :
    (w.endSession account s).Inv none := by
  have h' := h.removeQueuedPlayer s
  rw [World.endSession, h'.removeQueuedPlayer_again]
  rw [← (w.RemoveQueuedPlayer_frame s).1] at ha
  generalize (w.RemoveQueuedPlayer s).2 = w' at h' ha
  have hget : ∀ b t : ℕ, (w'.m_sessions.erase account)[b]? = some t ↔ account ≠ b ∧ w'.m_sessions[b]? = some t := by
    simp [TreeMap.get_erase]
  refine ⟨h'.order, h'.below, fun a b t hta htb ↦ ?_, fun t ht ↦ ?_, fun b t hb ↦ ?_, fun hq ↦ ?_⟩
  · exact h'.unique a b t ((hget a t).mp hta).2 ((hget b t).mp htb).2
  · obtain ⟨hne, b, hb⟩ := h'.listed t ht
    exact ⟨nofun, b, (hget b t).mpr ⟨fun he ↦ hne (by rw [← hb, ← he, ha]), hb⟩⟩
  · obtain ⟨hne, hb⟩ := (hget b t).mp hb
    refine ⟨(h'.letIn b t hb).1, fun _ ↦ (h'.letIn b t hb).2 fun he ↦ hne ?_⟩
    exact h'.unique _ _ s ha (by rw [hb, he])
  · have hfull := h'.full hq
    have hsize := TreeMap.size_erase_of_mem ((TreeMap.mem_iff _ _).mpr ⟨s, ha⟩)
    simp only [Option.toList_none, Option.toList_some, List.length_nil, List.length_singleton] at hfull ⊢
    omega

/-! ## A session is added -/

theorem size_putSession (account : ℕ) {gone : Option ℕ} (ha : w.m_sessions[account]? = gone) :
    (w.putSession account).m_sessions.size + gone.toList.length = w.m_sessions.size + 1 := by
  have hmem := TreeMap.mem_iff w.m_sessions account
  cases gone <;> simp_all [putSession, ExtTreeMap.size_insert]

/-- The new session stands where the old one was: for the moment it neither waits nor has it been let in. -/
theorem Inv.putSession {gone : Option ℕ} (h : w.Inv gone) (account : ℕ) (ha : w.m_sessions[account]? = gone) :
    (w.putSession account).Inv (some w.created) := by
  have hget : ∀ b t : ℕ, (w.putSession account).m_sessions[b]? = some t ↔
      account = b ∧ w.created = t ∨ account ≠ b ∧ w.m_sessions[b]? = some t := by
    intro b t
    rw [World.putSession, TreeMap.get_insert]
    split <;> simp_all
  refine ⟨h.order, fun t ht ↦ Nat.lt_succ_of_lt (h.below t ht), fun a b t hta htb ↦ ?_, fun t ht ↦ ⟨?_, ?_⟩,
    fun b t hb ↦ ?_, fun hq ↦ ?_⟩
  · have hlt := h.letIn
    obtain ⟨rfl, rfl⟩ | ⟨-, hta⟩ := (hget a t).mp hta <;> obtain ⟨rfl, ht⟩ | ⟨-, htb⟩ := (hget b _).mp htb
    · rfl
    · exact absurd (h.letIn b _ htb).1 (lt_irrefl _)
    · exact absurd (ht ▸ (h.letIn a t hta).1) (lt_irrefl _)
    · exact h.unique a b t hta htb
  · exact fun he ↦ absurd (h.below t (.inl ht)) (Option.some_inj.mp he ▸ lt_irrefl _)
  · obtain ⟨hne, b, hb⟩ := h.listed t ht
    exact ⟨b, (hget b t).mpr (.inr ⟨fun he ↦ hne (by rw [← hb, ← he, ha]), hb⟩)⟩
  · obtain ⟨-, rfl⟩ | ⟨hab, hb⟩ := (hget b t).mp hb
    · exact ⟨Nat.lt_succ_self _, fun hne ↦ absurd rfl hne⟩
    · refine ⟨Nat.lt_succ_of_lt (h.letIn b t hb).1, fun _ ↦ (h.letIn b t hb).2 fun he ↦ hab ?_⟩
      exact h.unique _ _ t (by rw [ha, he]) hb
  · have hfull := h.full hq
    have hsize := size_putSession account ha
    show 0 < w.m_playerLimit ∧ w.m_playerLimit + w.m_QueuedPlayer.length + 1 ≤ _
    omega

theorem Inv.initializeSession {s : ℕ} (h : w.Inv (some s)) (hs : s < w.created) : (w.InitializeSession s).Inv none where
  order := h.order
  below t ht := by
    obtain ht | ht := ht
    · exact h.below t (.inl ht)
    · exact (List.mem_cons.mp ht).elim (· ▸ hs) fun ht ↦ h.below t (.inr ht)
  unique := h.unique
  listed t ht := ⟨nofun, (h.listed t ht).2⟩
  letIn a t ha := by
    refine ⟨(h.letIn a t ha).1, fun _ ↦ ?_⟩
    show t ∈ s :: w.initialized ↔ t ∉ w.m_QueuedPlayer
    by_cases hts : t = s
    · subst hts
      exact iff_of_true List.mem_cons_self fun ht ↦ (h.listed t ht).1 rfl
    · rw [List.mem_cons, (h.letIn a t ha).2 fun he ↦ hts (Option.some_inj.mp he)]
      simp [hts]
  full hq := by
    have := h.full hq
    exact ⟨this.1, Nat.le_of_succ_le this.2⟩

theorem Inv.addQueuedPlayer {account s : ℕ} (h : w.Inv (some s)) (ha : w.m_sessions[account]? = some s)
    (hlast : ∀ t, t ∈ w.m_QueuedPlayer ∨ t ∈ w.initialized → t < s) (hl : 0 < w.m_playerLimit)
    (hroom : w.m_playerLimit + 1 ≤ w.m_sessions.size) : (w.AddQueuedPlayer s).Inv none := by
  have hmem : ∀ t, t ∈ w.m_QueuedPlayer ++ [s] ↔ t ∈ w.m_QueuedPlayer ∨ t = s := by simp
  refine ⟨?_, fun t ht ↦ ?_, h.unique, fun t ht ↦ ⟨nofun, ?_⟩, fun b t hb ↦ ⟨(h.letIn b t hb).1, fun _ ↦ ?_⟩, fun _ ↦ ?_⟩
  · refine List.pairwise_append.mpr ⟨h.order, List.pairwise_singleton _ _, fun t ht u hu ↦ ?_⟩
    exact List.mem_singleton.mp hu ▸ hlast t (.inl ht)
  · obtain ht | ht := ht
    · exact ((hmem t).mp ht).elim (fun ht ↦ h.below t (.inl ht)) (· ▸ (h.letIn account s ha).1)
    · exact h.below t (.inr ht)
  · exact ((hmem t).mp ht).elim (fun ht ↦ (h.listed t ht).2) fun he ↦ ⟨account, he ▸ ha⟩
  · show t ∈ w.initialized ↔ t ∉ w.m_QueuedPlayer ++ [s]
    rw [hmem]
    by_cases hts : t = s
    · subst hts
      exact iff_of_false (fun ht ↦ lt_irrefl _ (hlast t (.inr ht))) (by simp)
    · rw [(h.letIn b t hb).2 fun he ↦ hts (Option.some_inj.mp he)]
      simp [hts]
  · show 0 < w.m_playerLimit ∧ w.m_playerLimit + (w.m_QueuedPlayer ++ [s]).length ≤ w.m_sessions.size
    rw [List.length_append, List.length_singleton]
    refine ⟨hl, ?_⟩
    by_cases hq : w.m_QueuedPlayer = []
    · simpa [hq] using hroom
    · exact (h.full hq).2

theorem removeOld_frame (w : World) (account : ℕ) : (w.removeOld account).2.m_sessions = w.m_sessions ∧
    (w.removeOld account).2.m_playerLimit = w.m_playerLimit ∧ (w.removeOld account).2.created = w.created := by
  unfold removeOld
  cases w.m_sessions[account]? with
  | none => exact ⟨rfl, rfl, rfl⟩
  | some s => exact w.RemoveQueuedPlayer_frame s

theorem Inv.removeOld (h : w.Inv none) (account : ℕ) : (w.removeOld account).2.Inv w.m_sessions[account]? := by
  unfold World.removeOld
  cases w.m_sessions[account]? with
  | none => exact h
  | some s => exact h.removeQueuedPlayer s

theorem Inv.lt_size_of_removeOld {account : ℕ} (h : w.Inv none) (hr : (w.removeOld account).1 = true) :
    w.m_playerLimit + 1 ≤ w.m_sessions.size := by
  unfold World.removeOld RemoveQueuedPlayer at hr
  cases hs : w.m_sessions[account]? with
  | none => simp [hs] at hr
  | some s =>
    have hmem : s ∈ w.m_QueuedPlayer := by
      by_contra hs'
      simp [hs, if_neg hs'] at hr
    have hfull := (h.full (List.ne_nil_of_mem hmem)).2
    have hpos := List.length_pos_of_mem hmem
    rw [Option.toList_none, List.length_nil] at hfull
    omega

theorem Inv.addSession_ (h : w.Inv none) (account : ℕ) (loading skip : Bool) :
    (w.AddSession_ account loading skip).Inv none := by
  obtain ⟨hs, hl, hc⟩ := w.removeOld_frame account
  have h₁ := h.removeOld account
  have h₂ := h₁.putSession account (by rw [hs])
  rw [hc] at h₂
  simp only [World.AddSession_]
  split
  · exact { h with
      below := fun t ht ↦ Nat.lt_succ_of_lt (h.below t ht)
      letIn := fun a t ha ↦ ⟨Nat.lt_succ_of_lt (h.letIn a t ha).1, (h.letIn a t ha).2⟩ }
  split
  · next hroom =>
    have hput : ((w.removeOld account).2.putSession account).m_sessions[account]? = some w.created := by
      rw [World.putSession, TreeMap.get_insert, if_pos rfl, hc]
    refine h₂.addQueuedPlayer hput (hc ▸ h₁.below) hroom.1 ?_
    obtain ⟨hpos, hroom, -⟩ := hroom
    cases hfound : (w.removeOld account).1 with
    | true =>
      have hlt := h.lt_size_of_removeOld hfound
      have hsize := size_putSession (w := (w.removeOld account).2) account rfl
      have hgone : (w.removeOld account).2.m_sessions[account]?.toList.length ≤ 1 := Option.length_toList_le
      show (w.removeOld account).2.m_playerLimit + 1 ≤ _
      rw [hl]
      rw [hs] at hsize hgone
      omega
    | false =>
      rw [hfound, Bool.not_false, Bool.toNat_true] at hroom
      omega
  · exact h₂.initializeSession (by rw [← hc]; exact Nat.lt_succ_self _)

theorem Inv.next {t : World} {c : Call} (h : w.Inv none) (hok : w.limitOk c) (hn : w.next c = some t) : t.Inv none := by
  cases c with
  | AddSession_ account loading skip =>
    rw [← Option.some_inj.mp hn]
    exact h.addSession_ account loading skip
  | endSession account =>
    obtain ⟨s, ha, rfl⟩ := Option.map_eq_some_iff.mp hn
    exact h.endSession ha
  | SetPlayerAmountLimit limit =>
    rw [← Option.some_inj.mp hn]
    refine { h with full := fun hq ↦ ?_ }
    obtain hnil | ⟨hpos, hle⟩ := hok
    · exact absurd hnil hq
    · have hfull := (h.full hq).2
      exact ⟨hpos, hfull.trans' (by gcongr)⟩

/-- **The order of the queue.**  In every run in which the limit is not raised while somebody waits. -/
theorem queueSound_of_reaches {limit : ℕ} {w : World} (h : (machine limit).Reaches limitOk w) : w.QueueSound :=
  (h.invariant (P := fun w : World ↦ w.Inv none) (inv_start limit) fun _ _ _ h hok hn ↦ h.next hok hn).queueSound

theorem queueSound_of_reaches_third : ∃ w : World, w.m_QueuedPlayer = [2] ∧ w.initialized = [1, 0] ∧ w.QueueSound := by
  obtain ⟨w, hw, hp⟩ := (machine 1).exists_reaches limitOk
    [.AddSession_ 7 false false, .AddSession_ 8 false false, .AddSession_ 9 false false, .endSession 7]
    (fun w ↦ w.m_QueuedPlayer = [2] ∧ w.initialized = [1, 0]) (by decide +kernel)
  exact ⟨w, hp.1, hp.2, queueSound_of_reaches hw⟩

end World
end Gundrak.Sessions
