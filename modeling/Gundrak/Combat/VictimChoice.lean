import Gundrak.Combat.ThreatReferences

/-!
# Choosing a victim

`ThreatContainer::selectNextVictim` should find somebody whenever a listed target can be attacked, and a
target that is immune or crowd controlled, a *second choice*, only when there is nothing else
(`ThreatManager.Chooses`).  One pass of its loop is described by where it stops: at the first reference that is
attackable, is not skipped, and is not passed over because its threat lies between 110 % and 130 % of
the victim's.  `scanVictims_of_stop` and `scanVictims_of_no_stop` read the loop off this description.

The loop falls short in three ways.  It gives up when it reaches the end and the last target is no second choice,
although the second choices before it could be attacked; it does not stop at a target it passes over for the sake of a
victim that cannot be attacked; and it returns the victim itself without asking whether the victim is a second choice.
`chooses_iff` states when none of this happens.
-/

namespace Gundrak

namespace ThreatManager

variable (w : ThreatWorld) (m : ThreatManager)

/-! ## What the loop asks of a reference -/

/-- The target is immune or crowd controlled. -/
def secondChoice (r : RefId) : Bool := w.isSecondChoice (m.unitGuid r)

/-- The target can be attacked. -/
def attackable (r : RefId) : Bool := w.canCreatureAttack (m.unitGuid r)

/-- The threat of `r` does not suffice to take the place of the victim: it is above 110 % of the victim's, but `r` is
out of melee range and not above 130 %. -/
def passedOver : Option RefId → RefId → Bool
  | none, _ => false
  | some v, r =>
    v ≠ r && 11 / 10 * m.getThreat v < m.getThreat r && m.getThreat r ≤ 13 / 10 * m.getThreat v &&
      !w.isWithinMeleeRange (m.unitGuid r)

/-- The reference that is returned when the loop stops at `r`: the victim is kept if it can be attacked and has
nearly as much threat. -/
def keepOrTake : Option RefId → RefId → RefId
  | none, r => r
  | some v, r => if v ≠ r ∧ m.getThreat r ≤ 11 / 10 * m.getThreat v ∧ m.attackable w v = true then v else r

section Pass

/-! ## One pass

`skip` says which targets the pass leaves out: the second choices in the first pass, nobody in the second. -/

variable (skip : RefId → Bool) (V : Option RefId)

/-- The victim the threat is compared with once the references `passed` are behind: a victim that was left out is
forgotten. -/
def comparedAt (passed : List RefId) : Option RefId := V.filter fun v ↦ !(skip v && passed.contains v)

/-- The loop stops at `r`, after `passed`. -/
def stopsAt (passed : List RefId) (r : RefId) : Bool :=
  !skip r && m.attackable w r && !m.passedOver w (comparedAt skip V passed) r

/-- The loop stops nowhere in the list. -/
def StopsNowhere (L : List RefId) : Prop :=
  ∀ before r after, L = before ++ r :: after → m.stopsAt w skip V before r = false

/-- The loop stops at `r`, after `before`, and not earlier. -/
structure FirstStop (before : List RefId) (r : RefId) : Prop where
  stops : m.stopsAt w skip V before r = true
  earlier : m.StopsNowhere w skip V before

variable {w m skip V}

@[simp] theorem comparedAt_nil : comparedAt skip V [] = V := by
  cases V <;> simp [comparedAt]

theorem comparedAt_cons (r : RefId) (passed : List RefId) :
    comparedAt skip V (r :: passed) = comparedAt skip (if skip r ∧ V = some r then none else V) passed := by
  cases V with
  | none => simp [comparedAt]
  | some v =>
    by_cases hv : v = r
    · subst hv
      cases hs : skip v <;> simp [comparedAt, Option.filter, hs]
    · have hne : ¬ r = v := fun h ↦ hv h.symm
      simp [comparedAt, Option.filter, hv]

theorem stopsAt_cons (r x : RefId) (passed : List RefId) : m.stopsAt w skip V (r :: passed) x =
      m.stopsAt w skip (if skip r ∧ V = some r then none else V) passed x := by
  rw [stopsAt, comparedAt_cons, stopsAt]

theorem stopsNowhere_nil : m.StopsNowhere w skip V [] := by
  intro before r after h
  simp at h

/-- The loop stops nowhere when it does not stop at the first reference and nowhere in the rest. -/
theorem stopsNowhere_cons {r : RefId} {L : List RefId} : m.StopsNowhere w skip V (r :: L) ↔
      m.stopsAt w skip V [] r = false ∧ m.StopsNowhere w skip (if skip r ∧ V = some r then none else V) L := by
  constructor
  · intro h
    refine ⟨h [] r L rfl, fun before x after hL ↦ ?_⟩
    rw [← stopsAt_cons]
    exact h (r :: before) x after (by rw [hL, List.cons_append])
  · rintro ⟨hr, hL⟩ before x after h
    cases before with
    | nil =>
      obtain ⟨rfl, -⟩ := List.cons.inj h
      exact hr
    | cons r' before =>
      obtain ⟨rfl, hrest⟩ := List.cons.inj h
      rw [stopsAt_cons]
      exact hL before x after hrest

variable (w m skip V) in
theorem exists_firstStop_or (L : List RefId) :
    (∃ before x after, L = before ++ x :: after ∧ m.FirstStop w skip V before x) ∨ m.StopsNowhere w skip V L := by
  induction L generalizing V with
  | nil => exact Or.inr stopsNowhere_nil
  | cons r L ih =>
    cases hr : m.stopsAt w skip V [] r with
    | true => exact Or.inl ⟨[], r, L, rfl, hr, stopsNowhere_nil⟩
    | false =>
      refine (ih _).imp ?_ fun h ↦ stopsNowhere_cons.mpr ⟨hr, h⟩
      rintro ⟨before, x, after, rfl, hstop, hearlier⟩
      refine ⟨r :: before, x, after, rfl, ?_, stopsNowhere_cons.mpr ⟨hr, hearlier⟩⟩
      rw [stopsAt_cons]
      exact hstop

end Pass

variable {w m} {V : Option RefId} {L : List RefId}

/-- Who is left out of a pass. -/
def skips (w : ThreatWorld) (m : ThreatManager) (noPriorityTargetFound : Bool) (r : RefId) : Bool :=
  !noPriorityTargetFound && m.secondChoice w r

@[simp] theorem skips_false : m.skips w false = m.secondChoice w := by
  funext r
  simp [skips]

@[simp] theorem skips_true : m.skips w true = fun _ ↦ false := by
  funext r
  simp [skips]

variable {np : Bool}

theorem scanVictims_cons (r : RefId) (rest : List RefId) : m.scanVictims w np V (r :: rest) =
      if m.skips w np r ∧ rest = [] then .restart V
      else if m.stopsAt w (m.skips w np) V [] r then .found (m.keepOrTake w V r)
      else m.scanVictims w np (if m.skips w np r ∧ V = some r then none else V) rest := by
  rw [scanVictims.eq_def]
  dsimp only
  cases hs : m.skips w np r with
  | true =>
    have hs' : (!np && w.isSecondChoice (m.unitGuid r)) = true := hs
    rw [if_pos hs']
    cases rest <;> simp [stopsAt, hs]
  | false =>
    have hs' : ¬ (!np && w.isSecondChoice (m.unitGuid r)) = true := by
      rw [show (!np && w.isSecondChoice (m.unitGuid r)) = false from hs]
      simp
    rw [if_neg hs']
    cases ha : w.canCreatureAttack (m.unitGuid r) with
    | false => simp [stopsAt, attackable, hs, ha]
    | true =>
      cases V with
      | none => simp [stopsAt, attackable, hs, ha, passedOver, keepOrTake]
      | some v =>
        by_cases hvr : v = r
        · simp [stopsAt, attackable, hs, ha, passedOver, keepOrTake, hvr]
        · by_cases hle : m.getThreat r ≤ 11 / 10 * m.getThreat v
          · have hlt : ¬ 11 / 10 * m.getThreat v < m.getThreat r := not_lt.mpr hle
            simp [stopsAt, attackable, hs, ha, passedOver, keepOrTake, hvr, hle, hlt]
          · have hlt : 11 / 10 * m.getThreat v < m.getThreat r := not_le.mp hle
            by_cases hfar : 13 / 10 * m.getThreat v < m.getThreat r
            · have hfar' : ¬ m.getThreat r ≤ 13 / 10 * m.getThreat v := not_le.mpr hfar
              simp [stopsAt, attackable, hs, ha, passedOver, keepOrTake, hvr, hle, hlt, hfar, hfar']
            · have hnear : m.getThreat r ≤ 13 / 10 * m.getThreat v := not_lt.mp hfar
              cases hm : w.isWithinMeleeRange (m.unitGuid r) <;>
                simp [stopsAt, attackable, hs, ha, passedOver, keepOrTake, hvr, hle, hlt, hfar, hnear, hm]

/-- A pass that stops returns the reference it stops at, or the victim in its place. -/
theorem scanVictims_of_stop {before after : List RefId} {x : RefId} (h : m.FirstStop w (m.skips w np) V before x) :
    m.scanVictims w np V (before ++ x :: after) = .found (m.keepOrTake w (comparedAt (m.skips w np) V before) x) := by
  induction before generalizing V with
  | nil =>
    have hskip : m.skips w np x = false := by
      have hstop := h.stops
      rw [stopsAt] at hstop
      simp only [Bool.and_eq_true, Bool.not_eq_true'] at hstop
      exact hstop.1.1
    simp [scanVictims_cons, hskip, h.stops, comparedAt_nil]
  | cons r before ih =>
    obtain ⟨hr, hbefore⟩ := stopsNowhere_cons.mp h.earlier
    rw [List.cons_append, scanVictims_cons, if_neg (by simp), hr, if_neg (by simp), comparedAt_cons]
    refine ih ⟨?_, hbefore⟩
    rw [← stopsAt_cons]
    exact h.stops

/-- A pass that stops nowhere starts again if the last target was left out. -/
theorem scanVictims_of_no_stop (h : m.StopsNowhere w (m.skips w np) V L) : m.scanVictims w np V L =
      if L.getLast?.any (m.skips w np) then .restart (comparedAt (m.skips w np) V L.dropLast) else .notFound := by
  induction L generalizing V with
  | nil => rfl
  | cons r rest ih =>
    obtain ⟨hr, hrest⟩ := stopsNowhere_cons.mp h
    rw [scanVictims_cons, hr]
    cases rest with
    | nil => cases hs : m.skips w np r <;> simp [hs, scanVictims]
    | cons r' rest =>
      simp [ih hrest, comparedAt_cons]

/-! ## The two passes -/

theorem stopsAt_nobody_skipped (passed : List RefId) (r : RefId) :
    m.stopsAt w (fun _ ↦ false) V passed r = (m.attackable w r && !m.passedOver w V r) := by
  cases V <;> simp [stopsAt, comparedAt, Option.filter]

theorem comparedAt_nobody_skipped (passed : List RefId) : comparedAt (fun _ ↦ false) V passed = V := by
  cases V <;> simp [comparedAt, Option.filter]

theorem second_pass_of_stop {before after : List RefId} {x : RefId} (hL : L = before ++ x :: after)
    (h : m.FirstStop w (fun _ ↦ false) V before x) :
    m.scanVictims w true V L = .found (m.keepOrTake w V x) := by
  have hscan : m.scanVictims w true V (before ++ x :: after) =
      .found (m.keepOrTake w (comparedAt (m.skips w true) V before) x) := scanVictims_of_stop (skips_true ▸ h)
  rwa [skips_true, comparedAt_nobody_skipped, ← hL] at hscan

theorem second_pass_of_no_stop (h : m.StopsNowhere w (fun _ ↦ false) V L) : m.scanVictims w true V L = .notFound := by
  rw [scanVictims_of_no_stop (skips_true ▸ h), skips_true]
  cases L.getLast? <;> simp

theorem selectNextVictim_of_stop {before after : List RefId} {x : RefId}
    (hL : m.iThreatContainer.iThreatList = before ++ x :: after)
    (h : m.FirstStop w (m.secondChoice w) V before x) :
    m.selectNextVictim w V = some (m.keepOrTake w (comparedAt (m.secondChoice w) V before) x) := by
  rw [← skips_false] at h
  rw [selectNextVictim, hL, scanVictims_of_stop h, skips_false]

section Restart

variable (h : m.StopsNowhere w (m.secondChoice w) V m.iThreatContainer.iThreatList)

include h

/-- Without a stop, and with a last target that is no second choice, nobody is chosen. -/
theorem selectNextVictim_of_end (hlast : m.iThreatContainer.iThreatList.getLast?.any (m.secondChoice w) = false) :
    m.selectNextVictim w V = none := by
  rw [← skips_false] at h hlast
  rw [selectNextVictim, scanVictims_of_no_stop h, if_neg (by rw [hlast]; exact Bool.false_ne_true)]

/-- Otherwise the second pass decides, with the victim that is left. -/
theorem selectNextVictim_of_restart
    (hlast : m.iThreatContainer.iThreatList.getLast?.any (m.secondChoice w) = true) {c : Option RefId}
    (hc : comparedAt (m.secondChoice w) V m.iThreatContainer.iThreatList.dropLast = c) :
    (∀ before x after, m.iThreatContainer.iThreatList = before ++ x :: after →
        m.FirstStop w (fun _ ↦ false) c before x → m.selectNextVictim w V = some (m.keepOrTake w c x)) ∧
      (m.StopsNowhere w (fun _ ↦ false) c m.iThreatContainer.iThreatList → m.selectNextVictim w V = none) := by
  rw [← skips_false] at h hlast hc
  constructor
  · intro before x after hL hstop
    rw [selectNextVictim, scanVictims_of_no_stop h, if_pos hlast, hc]
    simp [second_pass_of_stop hL hstop]
  · intro hno
    rw [selectNextVictim, scanVictims_of_no_stop h, if_pos hlast, hc]
    simp [second_pass_of_no_stop hno]

end Restart

theorem attackable_keepOrTake {x : RefId} (hx : m.attackable w x = true) :
    m.attackable w (m.keepOrTake w V x) = true := by
  cases V with
  | none => exact hx
  | some v =>
    rw [keepOrTake]
    split
    next hv => exact hv.2.2
    next => exact hx

/-! ## When the choice is right -/

/-- What a choice should be: somebody whenever a listed target can be attacked, and a target that can be attacked,
which is a second choice only if all listed targets that can be attacked are. -/
structure Chooses (w : ThreatWorld) (m : ThreatManager) (V : Option RefId) : Prop where
  finds : m.selectNextVictim w V = none ↔ ∀ x ∈ m.iThreatContainer.iThreatList, m.attackable w x = false
  prefers : ∀ x, m.selectNextVictim w V = some x → m.attackable w x = true ∧ (m.secondChoice w x = true →
      ∀ y ∈ m.iThreatContainer.iThreatList, m.attackable w y = true → m.secondChoice w y = true)

/-- The cases in which the choice is right. -/
inductive ChoosesWhen (w : ThreatWorld) (m : ThreatManager) (V : Option RefId) : Prop where
  /-- Nobody can be attacked. -/
  | nobody (h : ∀ x ∈ m.iThreatContainer.iThreatList, m.attackable w x = false)
  /-- The first pass stops, and the victim that would be kept in place of the reference is no second choice. -/
  | stops (before : List RefId) (x : RefId) (after : List RefId)
      (hL : m.iThreatContainer.iThreatList = before ++ x :: after)
      (hstop : m.FirstStop w (m.secondChoice w) V before x)
      (hkeep : ∀ v, comparedAt (m.secondChoice w) V before = some v → v ≠ x →
        m.getThreat x ≤ 11 / 10 * m.getThreat v → m.attackable w v = true → m.secondChoice w v = false)
  /-- All targets that can be attacked are second choices, the last target of the list is one, and one that can be
  attacked is not passed over. -/
  | secondChoices (hlast : m.iThreatContainer.iThreatList.getLast?.any (m.secondChoice w) = true)
      (hall : ∀ y ∈ m.iThreatContainer.iThreatList, m.attackable w y = true → m.secondChoice w y = true)
      (x : RefId) (hx : x ∈ m.iThreatContainer.iThreatList) (hax : m.attackable w x = true)
      (hpass : m.passedOver w (comparedAt (m.secondChoice w) V m.iThreatContainer.iThreatList.dropLast) x = false)
  /-- The first pass stops nowhere, forgets the victim and starts again, and the first target that can be attacked is
  no second choice. -/
  | forgotten (hlast : m.iThreatContainer.iThreatList.getLast?.any (m.secondChoice w) = true)
      (hno : m.StopsNowhere w (m.secondChoice w) V m.iThreatContainer.iThreatList)
      (hV : comparedAt (m.secondChoice w) V m.iThreatContainer.iThreatList.dropLast = none)
      (before : List RefId) (x : RefId) (after : List RefId)
      (hL : m.iThreatContainer.iThreatList = before ++ x :: after)
      (hbefore : ∀ y ∈ before, m.attackable w y = false) (hax : m.attackable w x = true)
      (hsec : m.secondChoice w x = false)

theorem stopsNowhere_of_not_attackable {skip : RefId → Bool} (h : ∀ x ∈ L, m.attackable w x = false) :
    m.StopsNowhere w skip V L := by
  intro before x after hL
  simp [stopsAt, h x (by rw [hL]; simp)]

/-- Where all that can be attacked is left out, a pass stops nowhere. -/
theorem stopsNowhere_of_skip {skip : RefId → Bool} (h : ∀ x ∈ L, m.attackable w x = true → skip x = true) :
    m.StopsNowhere w skip V L := by
  intro before x after hL
  rw [stopsAt]
  cases ha : m.attackable w x with
  | false => simp
  | true =>
    rw [h x (by rw [hL]; simp) ha]
    simp

theorem chooses_of_some {r x : RefId} (hr : m.selectNextVictim w V = some r) (har : m.attackable w r = true)
    (hx : x ∈ m.iThreatContainer.iThreatList) (hax : m.attackable w x = true)
    (hsec : m.secondChoice w r = true →
      ∀ y ∈ m.iThreatContainer.iThreatList, m.attackable w y = true → m.secondChoice w y = true) :
    Chooses w m V := by
  refine ⟨⟨fun h ↦ ?_, fun h ↦ ?_⟩, fun y hy ↦ ?_⟩
  · simp [hr] at h
  · simp [h x hx] at hax
  · rw [hr] at hy
    cases hy
    exact ⟨har, hsec⟩

theorem ChoosesWhen.chooses (h : ChoosesWhen w m V) : Chooses w m V := by
  cases h with
  | nobody h =>
    have hno (skip : RefId → Bool) (V : Option RefId) :
        m.StopsNowhere w skip V m.iThreatContainer.iThreatList := stopsNowhere_of_not_attackable h
    have hnone : m.selectNextVictim w V = none := by
      cases hlast : m.iThreatContainer.iThreatList.getLast?.any (m.secondChoice w) with
      | false => exact selectNextVictim_of_end (hno _ V) hlast
      | true => exact (selectNextVictim_of_restart (hno _ V) hlast rfl).2 (hno _ _)
    exact ⟨⟨fun _ ↦ h, fun _ ↦ hnone⟩, fun x hx ↦ by rw [hnone] at hx; cases hx⟩
  | stops before x after hL hstop hkeep =>
    have hx := hstop.stops
    rw [stopsAt] at hx
    simp only [Bool.and_eq_true, Bool.not_eq_true'] at hx
    refine chooses_of_some (selectNextVictim_of_stop hL hstop) (attackable_keepOrTake hx.1.2)
      (by rw [hL]; simp) hx.1.2 fun hsec ↦ ?_
    -- what is returned is no second choice
    have hnot : m.secondChoice w (m.keepOrTake w (comparedAt (m.secondChoice w) V before) x) = false := by
      cases hV : comparedAt (m.secondChoice w) V before with
      | none => exact hx.1.1
      | some v =>
        rw [keepOrTake]
        split
        next hv => exact hkeep v hV hv.1 hv.2.1 hv.2.2
        next => exact hx.1.1
    simp [hnot] at hsec
  | secondChoices hlast hall x hx hax hpass =>
    obtain ⟨hfound, -⟩ := selectNextVictim_of_restart (stopsNowhere_of_skip hall) hlast (V := V) rfl
    obtain ⟨before, y, after, hL, hstop⟩ | hno := exists_firstStop_or w m (fun _ ↦ false)
      (comparedAt (m.secondChoice w) V m.iThreatContainer.iThreatList.dropLast) m.iThreatContainer.iThreatList
    · have hy := hstop.stops
      rw [stopsAt_nobody_skipped] at hy
      simp only [Bool.and_eq_true] at hy
      exact chooses_of_some (hfound before y after hL hstop) (attackable_keepOrTake hy.1) hx hax fun _ ↦ hall
    · obtain ⟨before, after, hL⟩ := List.append_of_mem hx
      have hstop := hno before x after hL
      simp [stopsAt_nobody_skipped, hax, hpass] at hstop
  | forgotten hlast hno hV before x after hL hbefore hax hsec =>
    obtain ⟨hfound, -⟩ := selectNextVictim_of_restart hno hlast hV
    have hstop : m.FirstStop w (fun _ ↦ false) none before x := by
      refine ⟨?_, stopsNowhere_of_not_attackable hbefore⟩
      rw [stopsAt_nobody_skipped, hax]
      rfl
    refine chooses_of_some (hfound before x after hL hstop) hax (by rw [hL]; simp) hax fun hsec' ↦ ?_
    simp [show m.keepOrTake w none x = x from rfl, hsec] at hsec'

section

variable (hno : m.StopsNowhere w (m.secondChoice w) V L) {v : RefId}
  (hV : comparedAt (m.secondChoice w) V L.dropLast = some v)
  (hlast : L.getLast?.any (m.secondChoice w) = true)

include hno hV hlast

/-- A target that is no second choice and does not stop the first pass is passed over, and the second pass passes it
over too when the victim is still there. -/
theorem passedOver_of_stopsNowhere {y : RefId} (hy : y ∈ L) (hay : m.attackable w y = true)
    (hsec : m.secondChoice w y = false) : m.passedOver w (some v) y = true := by
  obtain ⟨before, after, rfl⟩ := List.append_of_mem hy
  have hafter : after ≠ [] := by
    rintro rfl
    simp [hsec] at hlast
  rw [List.dropLast_append_of_ne_nil (List.cons_ne_nil y after), List.dropLast_cons_of_ne_nil hafter] at hV
  have hbefore : comparedAt (m.secondChoice w) V before = some v := by
    cases V with
    | none => simp [comparedAt] at hV
    | some v' =>
      simp only [comparedAt, Option.filter_eq_some_iff, Option.some.injEq] at hV ⊢
      obtain ⟨rfl, hV⟩ := hV
      refine ⟨rfl, ?_⟩
      cases hs : m.secondChoice w v' <;> simp_all
  have hstop := hno before y after rfl
  rw [stopsAt, hsec, hay, hbefore] at hstop
  simpa using hstop

end

/-- **The choice is right in these cases only**, for every victim of the list. -/
theorem chooses_iff (hV : ∀ v, V = some v → v ∈ m.iThreatContainer.iThreatList) :
    Chooses w m V ↔ ChoosesWhen w m V := by
  refine ⟨fun h ↦ ?_, ChoosesWhen.chooses⟩
  obtain ⟨before, x, after, hL, hstop⟩ | hno := exists_firstStop_or w m (m.secondChoice w) V
    m.iThreatContainer.iThreatList
  · -- the first pass stops at a target that is no second choice, so what is returned must not be one
    have hx := hstop.stops
    rw [stopsAt] at hx
    simp only [Bool.and_eq_true, Bool.not_eq_true'] at hx
    obtain ⟨-, hprefers⟩ := h.prefers _ (selectNextVictim_of_stop hL hstop)
    refine .stops before x after hL hstop fun v hc hvx hthreat hav ↦ ?_
    rw [hc, keepOrTake, if_pos ⟨hvx, hthreat, hav⟩] at hprefers
    rw [← Bool.not_eq_true]
    intro hsec
    have hsecx := hprefers hsec x (by rw [hL]; simp) hx.1.2
    simp [hx.1.1] at hsecx
  · by_cases hnobody : ∀ x ∈ m.iThreatContainer.iThreatList, m.attackable w x = false
    · exact .nobody hnobody
    have hsome : m.selectNextVictim w V ≠ none := fun hnone ↦ hnobody (h.finds.mp hnone)
    cases hlast : m.iThreatContainer.iThreatList.getLast?.any (m.secondChoice w) with
    | false => exact absurd (selectNextVictim_of_end hno hlast) hsome
    | true =>
      obtain ⟨hfound, hnone⟩ := selectNextVictim_of_restart hno hlast rfl
      obtain ⟨before, x, after, hL, hstop⟩ | hno' := exists_firstStop_or w m (fun _ ↦ false)
        (comparedAt (m.secondChoice w) V m.iThreatContainer.iThreatList.dropLast) m.iThreatContainer.iThreatList
      · have hx := hstop.stops
        rw [stopsAt_nobody_skipped] at hx
        simp only [Bool.and_eq_true, Bool.not_eq_true'] at hx
        have hxL : x ∈ m.iThreatContainer.iThreatList := by
          simp [hL]
        by_cases hall : ∀ y ∈ m.iThreatContainer.iThreatList, m.attackable w y = true → m.secondChoice w y = true
        · exact .secondChoices hlast hall x hxL hx.1 hx.2
        -- somebody better is there, so what is returned must not be a second choice
        obtain ⟨-, hprefers⟩ := h.prefers _ (hfound before x after hL hstop)
        have hsecond : m.secondChoice w (m.keepOrTake w
            (comparedAt (m.secondChoice w) V m.iThreatContainer.iThreatList.dropLast) x) = false := by
          rw [← Bool.not_eq_true]
          exact fun hsec ↦ hall (hprefers hsec)
        cases hc : comparedAt (m.secondChoice w) V m.iThreatContainer.iThreatList.dropLast with
        | none =>
          rw [hc] at hsecond hstop
          refine .forgotten hlast hno hc before x after hL (fun y hy ↦ ?_) hx.1 hsecond
          obtain ⟨before', after', rfl⟩ := List.append_of_mem hy
          have hy' := hstop.earlier before' y after' rfl
          simpa [stopsAt_nobody_skipped, passedOver] using hy'
        | some v =>
          rw [hc] at hsecond hx
          have hover := fun {y : RefId} ↦ passedOver_of_stopsNowhere hno hc hlast (y := y)
          -- the reference the second pass stops at was left out by the first one
          have hsecx : m.secondChoice w x = true := by
            rw [← Bool.not_eq_false]
            intro hsecx
            rw [hover hxL hx.1 hsecx] at hx
            cases hx.2
          rw [keepOrTake] at hsecond
          split at hsecond
          next hv =>
            have hvV : V = some v := by
              cases V with
              | none => simp [comparedAt] at hc
              | some v' =>
                simp only [comparedAt, Option.filter_eq_some_iff] at hc
                exact hc.1
            have hself := hover (hV v hvV) hv.2.2 hsecond
            simp [passedOver] at hself
          next =>
            simp [hsecx] at hsecond
      · exact absurd (hnone hno') hsome

/-- A creature that hates two units, the first one more. -/
def hatesTwo : ThreatManager := ((ThreatManager.new 1)._addThreat openWorld 5 20)._addThreat openWorld 6 10

/-- The first unit is crowd controlled. -/
def controlled : ThreatWorld := { openWorld with isSecondChoice := fun unit ↦ unit == 5 }

/-- The second unit is attacked, although the victim is the first. -/
theorem chooses_controlled : (∀ v, some 0 = some v → v ∈ hatesTwo.iThreatContainer.iThreatList) ∧
      Chooses controlled hatesTwo (some 0) := by
  have hV : ∀ v, some 0 = some v → v ∈ hatesTwo.iThreatContainer.iThreatList := by
    intro v hv
    cases hv
    decide +kernel
  refine ⟨hV, (chooses_iff hV).mpr (.stops [0] 1 [] (by decide +kernel) ⟨by decide +kernel, ?_⟩ ?_)⟩
  · rw [stopsNowhere_cons]
    exact ⟨by decide +kernel, stopsNowhere_nil⟩
  · intro v hv
    have hnone : comparedAt (hatesTwo.secondChoice controlled) (some 0) [0] = none := by decide +kernel
    simp [hnone] at hv

/-- The first unit is crowd controlled, and the second cannot be attacked. -/
def unreachable : ThreatWorld := { controlled with canCreatureAttack := fun unit ↦ unit == 5 }

/-- Nobody is chosen there, although the first unit can be attacked. -/
theorem not_chooses_unreachable :
    ¬ ∀ (w : ThreatWorld) (m : ThreatManager) (V : Option RefId), m.iThreatContainer.iThreatList ≠ [] →
      (∀ v, V = some v → v ∈ m.iThreatContainer.iThreatList) → Chooses w m V := by
  intro h
  have hchoice := h unreachable hatesTwo none (by decide +kernel) (by intro v hv; cases hv)
  have hall := hchoice.finds.mp (by decide +kernel) 0 (by decide +kernel)
  revert hall
  decide +kernel

end ThreatManager

end Gundrak
