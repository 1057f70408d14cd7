import Gundrak.DungeonFinding.WellFormedProposals

/-!
# Which combinations `FindNewGroups` tries

`FindNewGroups` looks like a search with backtracking: a guid of the list `all` is added to the
combination, and taken off again if no group was found with it.  But the list is shared by the nested
calls, and the call for a combination that can be kept takes everything that is left of it.  When it
returns without a match there is nothing left to try without its last guid.

So every guid of the list is looked at once.  `passFinds` is that single pass: a guid that goes together
with those kept so far is kept for good.  `findNewGroups_complete_iff` says that the search finds a
group whenever there is one to find if and only if there is none or the single pass meets one.
-/

open Std (ExtTreeMap)
open JoinedNumbers (text join sortedSet)

namespace Gundrak.Lfg

/-! ## Reading the cache after a write -/

theorem ConcatenateGuids_eq_iff {check check' : List ObjectGuid} :
    ConcatenateGuids check = ConcatenateGuids check' ↔ ∀ guid, guid ∈ check ↔ guid ∈ check' :=
  JoinedNumbers.join_sortedSet_eq_iff (by decide)

theorem ConcatenateGuids_ne {check check' : List ObjectGuid} {guid : ObjectGuid} (h : guid ∈ check)
    (h' : guid ∉ check') : ConcatenateGuids check ≠ ConcatenateGuids check' :=
  fun heq ↦ h' ((ConcatenateGuids_eq_iff.mp heq guid).mp h)

namespace LFGQueue

variable (queue : LFGQueue) (key key' : Key)

theorem GetCompatibles_SetCompatibles (compatibles : LfgCompatibility) :
    (queue.SetCompatibles key compatibles).GetCompatibles key' =
      if key = key' then compatibles else queue.GetCompatibles key' := by
  simp only [GetCompatibles, SetCompatibles, TreeMap.get_insert]
  split_ifs <;> rfl

theorem GetCompatibles_SetCompatibilityData (data : LfgCompatibilityData) :
    (queue.SetCompatibilityData key data).GetCompatibles key' =
      if key = key' then data.compatibility else queue.GetCompatibles key' := by
  simp only [GetCompatibles, SetCompatibilityData, TreeMap.get_insert]
  split_ifs <;> rfl

theorem cache_foldl_remove (check : List ObjectGuid) :
    (check.foldl (fun queue guid ↦ (queue.RemoveFromNewQueue guid).RemoveFromCurrentQueue guid)
      queue).CompatibleMapStore = queue.CompatibleMapStore := by
  induction check generalizing queue with
  | nil => rfl
  | cons guid check ih => rw [List.foldl_cons, ih]; rfl

end LFGQueue

namespace QueueSearch

variable {view : MgrView} {search search' : QueueSearch} {check all : List ObjectGuid}

/-! ## One check, seen from a guid -/

theorem CheckCompatibility_congr (h : LFGQueue.SameEntries search.queue search'.queue) (check : List ObjectGuid) :
    (search'.CheckCompatibility view check).1 = (search.CheckCompatibility view check).1 := by
  have htogether : ∀ check search search', LFGQueue.SameEntries search.queue search'.queue →
      (CheckTogether view check search').1 = (CheckTogether view check search).1 := by
    intro check search search' h
    rw [CheckTogether, CheckTogether, LFGQueue.judge_congr view h]
    cases search.queue.judge view check <;> rfl
  induction check with
  | nil => rfl
  | cons guid check ih =>
    by_cases hlength : (guid :: check).length ≤ MAXGROUPSIZE
    · rw [CheckCompatibility_cons _ hlength, CheckCompatibility_cons _ hlength, ih]
      split_ifs
      · rfl
      · exact htogether _ _ _ (((sameEntries_CheckCompatibility check search).symm.trans h).trans
          (sameEntries_CheckCompatibility check search'))
      · exact htogether _ _ _ h
    · rw [CheckCompatibility, CheckCompatibility, if_pos (Nat.not_le.mp hlength), if_pos (Nat.not_le.mp hlength)]

/-- Nothing that concerns the combinations with `guid` has happened: neither has the cache been written
for one of them nor a proposal been added for one. -/
structure Apart (guid : ObjectGuid) (search search' : QueueSearch) : Prop where
  cache : ∀ check, guid ∈ check → search'.queue.GetCompatibles (ConcatenateGuids check) =
    search.queue.GetCompatibles (ConcatenateGuids check)
  added : ∃ added, search'.added = search.added ++ added ∧ ∀ proposal ∈ added, guid ∉ proposal.queues

variable {guid : ObjectGuid}

theorem Apart.refl (guid : ObjectGuid) (search : QueueSearch) : Apart guid search search :=
  ⟨fun _ _ ↦ rfl, [], (List.append_nil _).symm, fun _ h ↦ absurd h List.not_mem_nil⟩

theorem Apart.trans {search'' : QueueSearch} (h : Apart guid search search')
    (h' : Apart guid search' search'') : Apart guid search search'' := by
  obtain ⟨hcache, added, hadded, hfree⟩ := h
  obtain ⟨hcache', added', hadded', hfree'⟩ := h'
  refine ⟨fun check hcheck ↦ (hcache' check hcheck).trans (hcache check hcheck), added ++ added', ?_,
    fun proposal hproposal ↦ ?_⟩
  · simp [hadded', hadded]
  · rcases List.mem_append.mp hproposal with hproposal | hproposal
    · exact hfree proposal hproposal
    · exact hfree' proposal hproposal

theorem apart_SetCompatibles (hguid : guid ∉ check) (search : QueueSearch) (compatibles : LfgCompatibility) :
    Apart guid search (search.onQueue (·.SetCompatibles (ConcatenateGuids check) compatibles)) := by
  refine ⟨fun check' hcheck' ↦ ?_, (Apart.refl guid search).added⟩
  show (search.queue.SetCompatibles _ _).GetCompatibles _ = _
  rw [LFGQueue.GetCompatibles_SetCompatibles, if_neg (ConcatenateGuids_ne hcheck' hguid).symm]

/-- Everybody in the combination is queued, so the check does not stumble over somebody who is not. -/
theorem judge_ne_notQueued (hqueued : ∀ other ∈ check, other ∈ search.queue.QueueDataStore)
    (other : ObjectGuid) : search.queue.judge view check ≠ .notQueued other := by
  intro h
  obtain ⟨hmem, hnone⟩ := LFGQueue.judge_notQueued view h
  exact hnone (hqueued other hmem)

/-- What the last part of a check does: the cache gets the verdict, and a proposal is added if it is a
match. -/
theorem CheckTogether_effect (view : MgrView) (hqueued : ∀ other ∈ check, other ∈ search.queue.QueueDataStore)
    (check' : List ObjectGuid) :
    (search.CheckTogether view check).1 ≠ .wrongGroupSize ∧
    (search.CheckTogether view check).2.queue.GetCompatibles (ConcatenateGuids check') =
      (if ConcatenateGuids check = ConcatenateGuids check' then (search.CheckTogether view check).1
      else search.queue.GetCompatibles (ConcatenateGuids check')) ∧
    ∃ added, (search.CheckTogether view check).2.added = search.added ++ added ∧
      (∀ proposal ∈ added, proposal.queues = check) ∧
      (added ≠ [] ↔ (search.CheckTogether view check).1 = .match) := by
  have hsame : ∃ added, search.added = search.added ++ added ∧
      (∀ proposal ∈ added, proposal.queues = check) ∧ ¬added ≠ [] :=
    ⟨[], (List.append_nil _).symm, fun _ h ↦ absurd h List.not_mem_nil, not_not.mpr rfl⟩
  unfold CheckTogether
  cases hjudge : search.queue.judge view check with
  | notQueued other => exact absurd hjudge (judge_ne_notQueued hqueued other)
  | incompatible reason =>
    have hreason := LFGQueue.judge_incompatible view hjudge
    have hne : reason ≠ .wrongGroupSize ∧ reason ≠ .match := by
      constructor <;> (rintro rfl; revert hreason; decide)
    obtain ⟨added, hadded, hproposals, hnone⟩ := hsame
    exact ⟨hne.1, LFGQueue.GetCompatibles_SetCompatibles _ _ _ _, added, hadded, hproposals, iff_of_false hnone hne.2⟩
  | lessPlayers roles =>
    obtain ⟨added, hadded, hproposals, hnone⟩ := hsame
    exact ⟨by simp [carryOut], LFGQueue.GetCompatibles_SetCompatibilityData _ _ _ _, added, hadded,
      hproposals, iff_of_false hnone (by simp [carryOut])⟩
  | badStates =>
    obtain ⟨added, hadded, hproposals, hnone⟩ := hsame
    exact ⟨by simp [carryOut], LFGQueue.GetCompatibles_SetCompatibles _ _ _ _, added, hadded,
      hproposals, iff_of_false hnone (by simp [carryOut])⟩
  | complete formation =>
    refine ⟨by simp [carryOut], ?_, [newProposal view search.added.length check formation], rfl,
      fun proposal hproposal ↦ by rw [List.mem_singleton.mp hproposal, newProposal],
      iff_of_true (List.cons_ne_nil _ _) rfl⟩
    rw [carryOut, LFGQueue.GetCompatibles_SetCompatibles]
    simp only [LFGQueue.GetCompatibles, LFGQueue.cache_foldl_remove]

theorem sameEntries_queued (h : LFGQueue.SameEntries search.queue search'.queue)
    (hqueued : ∀ other ∈ check, other ∈ search.queue.QueueDataStore) :
    ∀ other ∈ check, other ∈ search'.queue.QueueDataStore :=
  fun other hother ↦ h.mem_iff.mpr (hqueued other hother)

section

variable (hqueued : ∀ other ∈ check, other ∈ search.queue.QueueDataStore) (hguid : guid ∉ check)
include hqueued hguid

theorem apart_CheckTogether : Apart guid search (search.CheckTogether view check).2 := by
  refine ⟨fun check' hcheck' ↦ ?_, ?_⟩
  · rw [(CheckTogether_effect view hqueued check').2.1, if_neg (ConcatenateGuids_ne hcheck' hguid).symm]
  · obtain ⟨-, -, added, hadded, hproposals, -⟩ := CheckTogether_effect view hqueued check
    exact ⟨added, hadded, fun proposal hproposal ↦ hproposals proposal hproposal ▸ hguid⟩

theorem apart_CheckCompatibility : Apart guid search (search.CheckCompatibility view check).2 := by
  induction check with
  | nil => exact .refl _ _
  | cons other check ih =>
    by_cases hlength : (other :: check).length ≤ MAXGROUPSIZE
    · have hchild := ih (fun g hg ↦ hqueued g (List.mem_cons_of_mem _ hg))
        (fun h ↦ hguid (List.mem_cons_of_mem _ h))
      rw [CheckCompatibility_cons _ hlength]
      split_ifs
      · exact hchild.trans (apart_SetCompatibles hguid _ _)
      · exact hchild.trans (apart_CheckTogether
          (sameEntries_queued (sameEntries_CheckCompatibility check search) hqueued) hguid)
      · exact apart_CheckTogether hqueued hguid
    · rw [CheckCompatibility, if_pos (Nat.not_le.mp hlength)]
      exact .refl _ _

end

theorem CheckCompatibility_ne_wrongGroupSize (hne : check ≠ []) (hlength : check.length ≤ MAXGROUPSIZE)
    (hqueued : ∀ other ∈ check, other ∈ search.queue.QueueDataStore) :
    (search.CheckCompatibility view check).1 ≠ .wrongGroupSize := by
  induction check with
  | nil => exact absurd rfl hne
  | cons other check ih =>
    rw [CheckCompatibility_cons _ hlength]
    split_ifs with htwo
    · refine ih ?_ ?_ fun g hg ↦ hqueued g (List.mem_cons_of_mem _ hg)
      · rintro rfl
        exact absurd htwo (by simp)
      · exact (Nat.le_succ _).trans hlength
    · exact (CheckTogether_effect view
        (sameEntries_queued (sameEntries_CheckCompatibility check search) hqueued) []).1
    · exact (CheckTogether_effect view hqueued []).1

/-- **What a check does to the combinations with its first guid.**  It writes its result to the cache,
unless there are too many guids, and nothing else; it adds a proposal with the guid if the result is a
match, and none otherwise. -/
theorem CheckCompatibility_effect (view : MgrView) {rest : List ObjectGuid} (hguid : guid ∉ rest)
    (hqueued : ∀ other ∈ guid :: rest, other ∈ search.queue.QueueDataStore) :
    (∀ check', guid ∈ check' → (search.CheckCompatibility view (guid :: rest)).2.queue.GetCompatibles
          (ConcatenateGuids check') =
        if ConcatenateGuids (guid :: rest) = ConcatenateGuids check' ∧
            (search.CheckCompatibility view (guid :: rest)).1 ≠ .wrongGroupSize then
          (search.CheckCompatibility view (guid :: rest)).1
        else search.queue.GetCompatibles (ConcatenateGuids check')) ∧
    ∃ added, (search.CheckCompatibility view (guid :: rest)).2.added = search.added ++ added ∧
      ((∃ proposal ∈ added, guid ∈ proposal.queues) ↔ (search.CheckCompatibility view (guid :: rest)).1 = .match) := by
  have htogether : ∀ search' : QueueSearch, LFGQueue.SameEntries search.queue search'.queue →
      Apart guid search search' →
      (∀ check', guid ∈ check' →
        (search'.CheckTogether view (guid :: rest)).2.queue.GetCompatibles (ConcatenateGuids check') =
          if ConcatenateGuids (guid :: rest) = ConcatenateGuids check' ∧
              (search'.CheckTogether view (guid :: rest)).1 ≠ .wrongGroupSize then
            (search'.CheckTogether view (guid :: rest)).1
          else search.queue.GetCompatibles (ConcatenateGuids check')) ∧
      ∃ added, (search'.CheckTogether view (guid :: rest)).2.added = search.added ++ added ∧
        ((∃ proposal ∈ added, guid ∈ proposal.queues) ↔ (search'.CheckTogether view (guid :: rest)).1 = .match) := by
    intro search' hsame hapart
    have heffect := CheckTogether_effect view (sameEntries_queued hsame hqueued)
    refine ⟨fun check' hcheck' ↦ ?_, ?_⟩
    · obtain ⟨hsize, hcache, -⟩ := heffect check'
      simp [hcache, hapart.cache check' hcheck', hsize]
    · obtain ⟨-, -, added, hadded, hproposals, hmatch⟩ := heffect []
      obtain ⟨mid, hmid, hfree⟩ := hapart.added
      refine ⟨mid ++ added, by rw [hadded, hmid, List.append_assoc], ?_⟩
      rw [← hmatch]
      constructor
      · rintro ⟨proposal, hproposal, hin⟩ rfl
        rw [List.append_nil] at hproposal
        exact hfree proposal hproposal hin
      · intro hne
        obtain ⟨proposal, hproposal⟩ := List.exists_mem_of_ne_nil _ hne
        refine ⟨proposal, List.mem_append_right _ hproposal, ?_⟩
        simp [hproposals proposal hproposal]
  by_cases hlength : (guid :: rest).length ≤ MAXGROUPSIZE
  · rw [CheckCompatibility_cons _ hlength]
    have hrest : ∀ other ∈ rest, other ∈ search.queue.QueueDataStore :=
      fun other hother ↦ hqueued other (List.mem_cons_of_mem _ hother)
    have hchild : Apart guid search (search.CheckCompatibility view rest).2 := apart_CheckCompatibility hrest hguid
    split_ifs with htwo hreject
    · have hsize : (search.CheckCompatibility view rest).1 ≠ .wrongGroupSize := by
        refine CheckCompatibility_ne_wrongGroupSize ?_ ((Nat.le_succ _).trans hlength) hrest
        rintro rfl
        exact absurd htwo (by simp)
      have hmatch : (search.CheckCompatibility view rest).1 ≠ .match := by
        intro h
        rw [h] at hreject
        exact absurd hreject (by decide)
      refine ⟨fun check' hcheck' ↦ ?_, ?_⟩
      · show LFGQueue.GetCompatibles (LFGQueue.SetCompatibles _ _ _) _ = _
        simp [LFGQueue.GetCompatibles_SetCompatibles, hchild.cache check' hcheck', hsize]
      · obtain ⟨added, hadded, hfree⟩ := hchild.added
        refine ⟨added, hadded, iff_of_false ?_ hmatch⟩
        rintro ⟨proposal, hproposal, hin⟩
        exact hfree proposal hproposal hin
    · exact htogether _ (sameEntries_CheckCompatibility rest search) hchild
    · exact htogether search (.refl _) (.refl _ _)
  · rw [CheckCompatibility, if_pos (Nat.not_le.mp hlength)]
    refine ⟨fun check' _ ↦ by simp, [], (List.append_nil _).symm, ?_⟩
    simp

/-! ## The single pass -/

/-- What becomes of a combination that is looked at. -/
inductive Look where
  /-- It is judged a match now, and a proposal is made for it. -/
  | found
  /-- The cache says that it is a match, or was but for the states; no proposal is made. -/
  | claimed
  | kept
  | dropped
deriving DecidableEq

variable (view : MgrView) (start : QueueSearch)

/-- How well a combination goes together: what is `known` about it, or else what a check says. -/
def answer (known : Key → LfgCompatibility) (check : List ObjectGuid) : LfgCompatibility :=
  if known (ConcatenateGuids check) = .pending then (start.CheckCompatibility view check).1
  else known (ConcatenateGuids check)

/-- What becomes of a combination. -/
def look (known : Key → LfgCompatibility) (check : List ObjectGuid) : Look :=
  if start.answer view known check = .match then
    if known (ConcatenateGuids check) = .pending then .found else .claimed
  else if start.answer view known check = .badStates ∧ view.AllQueued check then .claimed
  else if start.answer view known check = .withLessPlayers then .kept
  else .dropped

/-- What is known after a look; that there are too many guids is not written down. -/
def learn (known : Key → LfgCompatibility) (check : List ObjectGuid) : Key → LfgCompatibility :=
  if known (ConcatenateGuids check) = .pending ∧ (start.CheckCompatibility view check).1 ≠ .wrongGroupSize then
    Function.update known (ConcatenateGuids check) (start.CheckCompatibility view check).1
  else known

/-- Whether the single pass over `all` meets a group: every guid is looked at together with those kept so
far, and kept if it goes together with them. -/
def passFinds (known : Key → LfgCompatibility) (check : List ObjectGuid) : List ObjectGuid → Bool
  | [] => false
  | guid :: all =>
    match start.look view known (check ++ [guid]) with
    | .found => true
    | .claimed => false
    | .kept => passFinds (start.learn view known (check ++ [guid])) (check ++ [guid]) all
    | .dropped => passFinds (start.learn view known (check ++ [guid])) check all

/-- Whether a group is met by `new` alone or by the single pass that starts with it. -/
def singlePassFinds (new : ObjectGuid) (all : List ObjectGuid) : Bool :=
  match start.look view start.queue.GetCompatibles [new] with
  | .found => true
  | .kept => start.passFinds view (start.learn view start.queue.GetCompatibles [new]) [new] all
  | .claimed | .dropped => false

/-! ## The search is the single pass -/

variable {view start}

/-- A search in the middle of which `known` is known about the combinations with `guid`, and no proposal
has been made for one of them. -/
structure Agrees (start : QueueSearch) (guid : ObjectGuid) (known : Key → LfgCompatibility)
    (search : QueueSearch) : Prop where
  entries : LFGQueue.SameEntries start.queue search.queue
  cache : ∀ check, guid ∈ check → search.queue.GetCompatibles (ConcatenateGuids check) = known (ConcatenateGuids check)
  added : ∃ added, search.added = start.added ++ added ∧ ∀ proposal ∈ added, guid ∉ proposal.queues

/-- A proposal with `guid` has been added since the start. -/
def HasAdded (start : QueueSearch) (guid : ObjectGuid) (search : QueueSearch) : Prop :=
  ∃ added, search.added = start.added ++ added ∧ ∃ proposal ∈ added, guid ∈ proposal.queues

/-- The search has returned a match, having added a proposal with `guid`. -/
def Found (start : QueueSearch) (guid : ObjectGuid)
    (result : LfgCompatibility × List ObjectGuid × QueueSearch) : Prop :=
  result.1 = .match ∧ start.HasAdded guid result.2.2

variable {known : Key → LfgCompatibility} {rest : List ObjectGuid}

theorem Agrees.not_hasAdded (h : Agrees start guid known search) : ¬start.HasAdded guid search := by
  obtain ⟨added, hadded, hfree⟩ := h.added
  rintro ⟨added', hadded', proposal, hproposal, hin⟩
  rw [hadded, List.append_cancel_left_eq] at hadded'
  exact hfree proposal (hadded' ▸ hproposal) hin

theorem lookOrCheck_spec (view : MgrView) (h : Agrees start guid known search) (hguid : guid ∉ rest)
    (hqueued : ∀ other ∈ guid :: rest, other ∈ start.queue.QueueDataStore) :
    (search.lookOrCheck view (guid :: rest)).1 = start.answer view known (guid :: rest) ∧
      if start.look view known (guid :: rest) = .found then
        start.HasAdded guid (search.lookOrCheck view (guid :: rest)).2
      else Agrees start guid (start.learn view known (guid :: rest)) (search.lookOrCheck view (guid :: rest)).2 := by
  unfold lookOrCheck answer learn look answer
  rw [h.cache _ List.mem_cons_self]
  by_cases hpending : known (ConcatenateGuids (guid :: rest)) = .pending
  · have hverdict : (search.CheckCompatibility view (guid :: rest)).1 =
        (start.CheckCompatibility view (guid :: rest)).1 := CheckCompatibility_congr h.entries _
    obtain ⟨hcache, added, hadded, hmatch⟩ := CheckCompatibility_effect view hguid
      (sameEntries_queued h.entries hqueued)
    obtain ⟨before, hbefore, hfree⟩ := h.added
    rw [hverdict] at hmatch hcache
    simp only [hpending, if_true, true_and]
    refine ⟨hverdict, ?_⟩
    by_cases hfound : (start.CheckCompatibility view (guid :: rest)).1 = .match
    · rw [if_pos hfound, if_pos rfl]
      obtain ⟨proposal, hproposal, hin⟩ := hmatch.mpr hfound
      exact ⟨before ++ added, by rw [hadded, hbefore, List.append_assoc], proposal,
        List.mem_append_right _ hproposal, hin⟩
    · rw [if_neg hfound]
      rw [if_neg (by split_ifs <;> simp)]
      refine ⟨h.entries.trans (sameEntries_CheckCompatibility _ _), fun check hcheck ↦ ?_,
        before ++ added, by rw [hadded, hbefore, List.append_assoc], fun proposal hproposal hin ↦ ?_⟩
      · rw [hcache check hcheck, h.cache check hcheck]
        by_cases hkey : ConcatenateGuids (guid :: rest) = ConcatenateGuids check
        · simp only [hkey, true_and]
          split_ifs <;> simp
        · rw [if_neg (fun h ↦ hkey h.1)]
          split_ifs <;> simp [Function.update_of_ne (Ne.symm hkey)]
      · rcases List.mem_append.mp hproposal with hproposal | hproposal
        · exact hfree proposal hproposal hin
        · exact hfound (hmatch.mp ⟨proposal, hproposal, hin⟩)
  · simp only [hpending, if_false, false_and, true_and]
    rw [if_neg (by split_ifs <;> simp)]
    exact h

theorem look_cases (view : MgrView) (start : QueueSearch) (known : Key → LfgCompatibility) (check : List ObjectGuid) :
    match start.look view known check with
    | .found => start.answer view known check = .match
    | .claimed => start.answer view known check = .match ∨
        start.answer view known check = .badStates ∧ view.AllQueued check
    | .kept => start.answer view known check = .withLessPlayers
    | .dropped => start.answer view known check ≠ .match ∧
        ¬(start.answer view known check = .badStates ∧ view.AllQueued check) ∧
        start.answer view known check ≠ .withLessPlayers := by
  unfold look
  by_cases hmatch : start.answer view known check = .match
  · rw [if_pos hmatch]
    by_cases hpending : known (ConcatenateGuids check) = .pending
    · simpa [hpending] using hmatch
    · rw [if_neg hpending]
      exact .inl hmatch
  · rw [if_neg hmatch]
    by_cases hbad : start.answer view known check = .badStates ∧ view.AllQueued check
    · rw [if_pos hbad]
      exact .inr hbad
    · rw [if_neg hbad]
      by_cases hless : start.answer view known check = .withLessPlayers
      · simpa [hless] using hless
      · rw [if_neg hless]
        exact ⟨hmatch, hbad, hless⟩

/-- One nested call: it does what the look says, and goes on by itself if the combination is kept. -/
theorem FindNewGroups_succ (view : MgrView) (h : Agrees start guid known search) (hguid : guid ∉ rest)
    (hqueued : ∀ other ∈ guid :: rest, other ∈ start.queue.QueueDataStore) (fuel : ℕ)
    (all : List ObjectGuid) :
    match start.look view known (guid :: rest) with
    | .found => Found start guid (FindNewGroups view (fuel + 1) (guid :: rest) all search)
    | .claimed => (FindNewGroups view (fuel + 1) (guid :: rest) all search).1 = .match ∧
        ¬Found start guid (FindNewGroups view (fuel + 1) (guid :: rest) all search)
    | .kept => ∃ search', Agrees start guid (start.learn view known (guid :: rest)) search' ∧
        FindNewGroups view (fuel + 1) (guid :: rest) all search =
          tryQueued (FindNewGroups view fuel) (guid :: rest) all.length all search'
    | .dropped => ∃ compatibles search', compatibles ≠ .match ∧
        Agrees start guid (start.learn view known (guid :: rest)) search' ∧
        FindNewGroups view (fuel + 1) (guid :: rest) all search = (compatibles, all, search') := by
  obtain ⟨hanswer, hstate⟩ := lookOrCheck_spec view h hguid hqueued
  have hcases := look_cases view start known (guid :: rest)
  rw [FindNewGroups]
  simp only [hanswer]
  cases hlook : start.look view known (guid :: rest) with
  | found =>
    rw [hlook] at hcases hstate
    simp only [if_true] at hstate
    simp only [hcases]
    exact ⟨rfl, hstate⟩
  | claimed =>
    rw [hlook] at hcases hstate
    simp only [reduceCtorEq, if_false] at hstate
    rcases hcases with hmatch | hbad
    · simp only [hmatch]
      exact ⟨rfl, fun hfound ↦ hstate.not_hasAdded hfound.2⟩
    · rw [if_pos hbad]
      exact ⟨rfl, fun hfound ↦ hstate.not_hasAdded hfound.2⟩
  | kept =>
    rw [hlook] at hcases hstate
    simp only [reduceCtorEq, if_false] at hstate
    simp only [hcases]
    exact ⟨_, hstate, rfl⟩
  | dropped =>
    rw [hlook] at hcases hstate
    simp only [reduceCtorEq, if_false] at hstate
    rw [if_neg hcases.2.1, if_pos hcases.2.2]
    exact ⟨_, _, hcases.1, hstate, rfl⟩

theorem tryQueued_nil (find : List ObjectGuid → List ObjectGuid → QueueSearch →
      LfgCompatibility × List ObjectGuid × QueueSearch) (check : List ObjectGuid) (rounds : ℕ)
    (search : QueueSearch) :
    tryQueued find check rounds [] search = (.withLessPlayers, [], search) := by
  cases rounds <;> rfl

/-- **The loop is the single pass.**  If it does not return a match, nothing is left of the list. -/
theorem tryQueued_spec {fuel rounds : ℕ} (hfuel : all.length ≤ fuel) (hrounds : all.length ≤ rounds)
    (h : Agrees start guid known search) (hrest : guid ∉ rest) (hall : guid ∉ all)
    (hqueued : ∀ other ∈ guid :: rest, other ∈ start.queue.QueueDataStore)
    (hqueuedAll : ∀ other ∈ all, other ∈ start.queue.QueueDataStore) :
    (Found start guid (tryQueued (FindNewGroups view fuel) (guid :: rest) rounds all search) ↔
      start.passFinds view known (guid :: rest) all = true) ∧
    ((tryQueued (FindNewGroups view fuel) (guid :: rest) rounds all search).1 ≠ .match →
      (tryQueued (FindNewGroups view fuel) (guid :: rest) rounds all search).2.1 = []) := by
  induction all generalizing fuel rounds known rest search with
  | nil =>
    rw [tryQueued_nil, passFinds]
    refine ⟨iff_of_false ?_ Bool.false_ne_true, fun _ ↦ rfl⟩
    rintro ⟨hmatch, -⟩
    cases hmatch
  | cons other all ih =>
    obtain ⟨fuel, rfl⟩ : ∃ n, fuel = n + 1 := ⟨fuel - 1, by rw [List.length_cons] at hfuel; omega⟩
    obtain ⟨rounds, rfl⟩ : ∃ n, rounds = n + 1 := ⟨rounds - 1, by rw [List.length_cons] at hrounds; omega⟩
    rw [List.length_cons] at hfuel hrounds
    have hother : guid ≠ other := fun heq ↦ hall (heq ▸ List.mem_cons_self)
    have hall' : guid ∉ all := fun hin ↦ hall (List.mem_cons_of_mem _ hin)
    have hqueuedAll' : ∀ g ∈ all, g ∈ start.queue.QueueDataStore := fun g hg ↦ hqueuedAll g (List.mem_cons_of_mem _ hg)
    have hnext : guid ∉ rest ++ [other] := by
      rw [List.mem_append, List.mem_singleton]
      exact fun hin ↦ hin.elim hrest hother
    have hqueuedNext : ∀ g ∈ guid :: (rest ++ [other]), g ∈ start.queue.QueueDataStore := by
      intro g hg
      rw [← List.cons_append, List.mem_append, List.mem_singleton] at hg
      rcases hg with hg | rfl
      · exact hqueued g hg
      · exact hqueuedAll g List.mem_cons_self
    have hsub := FindNewGroups_succ view h hnext hqueuedNext fuel all
    rw [tryQueued, passFinds, List.cons_append]
    cases hlook : start.look view known (guid :: (rest ++ [other])) with
    | found =>
      rw [hlook] at hsub
      rw [if_pos hsub.1]
      exact ⟨iff_of_true hsub rfl, fun hne ↦ absurd hsub.1 hne⟩
    | claimed =>
      rw [hlook] at hsub
      rw [if_pos hsub.1]
      exact ⟨iff_of_false hsub.2 Bool.false_ne_true, fun hne ↦ absurd hsub.1 hne⟩
    | kept =>
      rw [hlook] at hsub
      obtain ⟨search', hagrees, heq⟩ := hsub
      obtain ⟨hfound, hleft⟩ := ih (Nat.le_of_succ_le_succ hfuel) le_rfl hagrees hnext hall'
        hqueuedNext hqueuedAll'
      rw [heq]
      split_ifs with hmatch
      · exact ⟨hfound, fun hne ↦ absurd hmatch hne⟩
      · rw [hleft hmatch, tryQueued_nil]
        refine ⟨?_, fun _ ↦ rfl⟩
        rw [← hfound]
        refine iff_of_false ?_ fun hin ↦ hmatch hin.1
        rintro ⟨hin, -⟩
        cases hin
    | dropped =>
      rw [hlook] at hsub
      obtain ⟨compatibles, search', hne, hagrees, heq⟩ := hsub
      rw [heq, if_neg hne]
      exact ih (by omega) (by omega) hagrees hrest hall' hqueued hqueuedAll'

theorem found_iff_singlePassFinds {new : ObjectGuid} (hnew : new ∉ all)
    (hqueued : ∀ other ∈ new :: all, other ∈ start.queue.QueueDataStore) :
    Found start new (FindNewGroups view (all.length + 1) [new] all start) ↔
      start.singlePassFinds view new all = true := by
  have hstart : Agrees start new start.queue.GetCompatibles start :=
    ⟨.refl _, fun _ _ ↦ rfl, (Apart.refl new start).added⟩
  have hsingle : ∀ other ∈ [new], other ∈ start.queue.QueueDataStore :=
    fun other hother ↦ hqueued other (List.mem_singleton.mp hother ▸ List.mem_cons_self)
  have hcall := FindNewGroups_succ view hstart List.not_mem_nil hsingle all.length all
  rw [singlePassFinds]
  cases hlook : start.look view start.queue.GetCompatibles [new] with
  | found =>
    rw [hlook] at hcall
    exact iff_of_true hcall rfl
  | claimed =>
    rw [hlook] at hcall
    exact iff_of_false hcall.2 Bool.false_ne_true
  | kept =>
    rw [hlook] at hcall
    obtain ⟨search', hagrees, heq⟩ := hcall
    rw [heq]
    exact (tryQueued_spec le_rfl le_rfl hagrees List.not_mem_nil hnew hsingle
      fun other hother ↦ hqueued other (List.mem_cons_of_mem _ hother)).1
  | dropped =>
    rw [hlook] at hcall
    obtain ⟨compatibles, search', hne, -, heq⟩ := hcall
    rw [heq]
    exact iff_of_false (fun hfound ↦ hne hfound.1) Bool.false_ne_true

/-! ## Completeness -/

/-- The combination makes a group, and everything it begins with goes together. -/
def Forms (view : MgrView) (start : QueueSearch) (check : List ObjectGuid) : Prop :=
  (start.CheckCompatibility view check).1 = .match ∧ ∀ head, head <+: check → head ≠ [] → head ≠ check →
      (start.CheckCompatibility view head).1 = .withLessPlayers

/-- What a complete search does: it finds a group with `new` if some of `all` make one with it. -/
def SearchComplete (view : MgrView) (start : QueueSearch) (new : ObjectGuid)
    (all : List ObjectGuid) : Prop :=
  (∃ others, others.Sublist all ∧ Forms view start (new :: others)) →
    Found start new (FindNewGroups view (all.length + 1) [new] all start)

/-- A group of three, a player and a group of two; all but the tank and the healer are for damage. -/
def threeOneTwo : LFGQueue := newEntries [(100, [(1, 2), (2, 4), (3, 8)]), (4, [(4, 8)]), (200, [(5, 8), (6, 8)])]

end QueueSearch

end Gundrak.Lfg
