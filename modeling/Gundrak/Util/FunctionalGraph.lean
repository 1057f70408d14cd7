import Mathlib

/-!
# Functional graphs

A partial function `f : α → Option α` is a graph in which every node has at most one successor.  A path in it either
ends or leads into a cycle, and there is no way out of a cycle.

`Pruned f₀ f` says that `f` is `f₀` with at most one link of each cycle dropped, and no other link.  Dropping a link
of a cycle keeps that (`Pruned.update`), and once there are no cycles exactly one link of each has been dropped
(`Pruned.exists_unique_dropped`).  Without cycles, a node has more nodes below it than each of those that lead to it
(`below_lt`), so a recursion down the links ends.
-/

open Relation (ReflTransGen TransGen)

namespace FunctionalGraph

universe u

variable {α : Type u} {f f₀ g : α → Option α} {a b c : α}

/-- The link from `a` leads to `b`. -/
def Step (f : α → Option α) (a b : α) : Prop := f a = some b

/-- The path from `a` comes back to it. -/
def OnCycle (f : α → Option α) (a : α) : Prop := TransGen (Step f) a a

/-- The path from a node ends. -/
inductive Ends (f : α → Option α) : α → Prop where
  | stop (a : α) (h : f a = none) : Ends f a
  | step (a b : α) (h : f a = some b) (hb : Ends f b) : Ends f a

/-- Every link of `g` is one of `f`. -/
def Restricts (g f : α → Option α) : Prop := ∀ a b, g a = some b → f a = some b

theorem Restricts.onCycle (h : Restricts g f) (ha : OnCycle g a) : OnCycle f a := TransGen.mono h _ _ ha

/-! ## Cycles -/

theorem OnCycle.exists_step (h : OnCycle f a) : ∃ b, f a = some b ∧ OnCycle f b ∧ ReflTransGen (Step f) b a := by
  obtain ⟨b, hab, hba⟩ := TransGen.head'_iff.mp h
  exact ⟨b, hab, TransGen.tail' hba hab, hba⟩

theorem Ends.not_onCycle (h : Ends f a) : ¬ OnCycle f a := by
  induction h with
  | stop a h =>
    intro hcycle
    obtain ⟨b, hab, -⟩ := hcycle.exists_step
    simp [h] at hab
  | step a b h hb ih =>
    intro hcycle
    obtain ⟨b', hab', hcycle', -⟩ := hcycle.exists_step
    rw [h, Option.some_inj] at hab'
    exact ih (hab' ▸ hcycle')

theorem Ends.of_restricts (hgf : Restricts g f) (h : Ends f a) : Ends g a := by
  induction h with
  | stop a h =>
    cases hg : g a with
    | none => exact .stop a hg
    | some b =>
      simp [hgf a b hg] at h
  | step a b h hb ih =>
    cases hg : g a with
    | none => exact .stop a hg
    | some c =>
      have heq := Option.some_inj.mp ((hgf a c hg).symm.trans h)
      subst heq
      exact .step a c hg ih

theorem OnCycle.of_reflTransGen (h : OnCycle g a) (hgf : Restricts g f) (hab : ReflTransGen (Step f) a b) :
    OnCycle g b ∧ ReflTransGen (Step g) a b := by
  induction hab with
  | refl => exact ⟨h, .refl⟩
  | tail _ hbc ih =>
    obtain ⟨hcycle, hreach⟩ := ih
    obtain ⟨c, hc, hcycle', -⟩ := hcycle.exists_step
    have heq := Option.some_inj.mp ((hgf _ _ hc).symm.trans hbc)
    subst heq
    exact ⟨hcycle', hreach.tail hc⟩

theorem OnCycle.symm (h : OnCycle f a) (hab : ReflTransGen (Step f) a b) : ReflTransGen (Step f) b a := by
  induction hab with
  | refl => exact .refl
  | tail hreach hbc ih =>
    obtain ⟨hcycle, -⟩ := h.of_reflTransGen (fun _ _ h ↦ h) hreach
    obtain ⟨c, hc, -, hback⟩ := hcycle.exists_step
    have heq := Option.some_inj.mp (hc.symm.trans hbc)
    subst heq
    exact hback.trans ih

/-! ## Dropping links -/

/-- `f` is `f₀` with at most one link of each cycle dropped. -/
structure Pruned (f₀ f : α → Option α) : Prop where
  eq_or : ∀ a, f a = f₀ a ∨ f a = none ∧ OnCycle f₀ a
  unique : ∀ a b, f a = none → f b = none → OnCycle f₀ a → ReflTransGen (Step f₀) a b → a = b

theorem Pruned.refl (f : α → Option α) : Pruned f f := by
  refine ⟨fun a ↦ .inl rfl, fun a b ha _ hcycle _ ↦ ?_⟩
  obtain ⟨c, hc, -⟩ := hcycle.exists_step
  rw [ha] at hc
  cases hc

theorem Pruned.restricts (h : Pruned f₀ f) : Restricts f f₀ := by
  intro a b hab
  rcases h.eq_or a with heq | ⟨hnone, -⟩
  · rw [← heq, hab]
  · simp [hnone] at hab

theorem Pruned.update [DecidableEq α] (h : Pruned f₀ f) (hc : OnCycle f c) : Pruned f₀ (Function.update f c none) := by
  -- nothing has been dropped from the cycle of `c`
  have hkept : ∀ a, ReflTransGen (Step f₀) c a → f a ≠ none := by
    intro a hca hnone
    obtain ⟨hcycle, -⟩ := hc.of_reflTransGen h.restricts hca
    obtain ⟨b, hb, -⟩ := hcycle.exists_step
    simp [hnone] at hb
  have hc₀ : OnCycle f₀ c := h.restricts.onCycle hc
  constructor
  · intro a
    by_cases ha : a = c
    · subst ha
      exact .inr ⟨Function.update_self .., hc₀⟩
    · rw [Function.update_of_ne ha]
      exact h.eq_or a
  · intro a b ha hb hcycle hab
    by_cases hac : a = c
    · subst hac
      by_contra hne
      rw [Function.update_of_ne (Ne.symm hne)] at hb
      exact hkept b hab hb
    · rw [Function.update_of_ne hac] at ha
      by_cases hbc : b = c
      · subst hbc
        exact absurd ha (hkept a (hcycle.symm hab))
      · rw [Function.update_of_ne hbc] at hb
        exact h.unique a b ha hb hcycle hab

/-- **Exactly one link of each cycle is dropped** when there are no cycles left. -/
theorem Pruned.exists_unique_dropped (h : Pruned f₀ f) (hacyclic : ∀ a, ¬ OnCycle f a) (ha : OnCycle f₀ a) :
    ∃! c, ReflTransGen (Step f₀) a c ∧ f c = none := by
  have hexists : ∃ c, ReflTransGen (Step f₀) a c ∧ f c = none := by
    by_contra hnot
    have hsame : ∀ b, ReflTransGen (Step f₀) a b → f b = f₀ b := fun b hab ↦
      (h.eq_or b).resolve_right fun hb ↦ hnot ⟨b, hab, hb.1⟩
    have hpath : ∀ b c, ReflTransGen (Step f₀) a b → ReflTransGen (Step f₀) b c → ReflTransGen (Step f) b c := by
      intro b c hab hbc
      induction hbc with
      | refl => exact .refl
      | tail hbc hstep ih => exact ih.tail ((hsame _ (hab.trans hbc)).trans hstep)
    obtain ⟨b, hab, -, hba⟩ := ha.exists_step
    exact hacyclic a (.head' ((hsame a .refl).trans hab) (hpath b a (.single hab) hba))
  obtain ⟨c, hac, hc⟩ := hexists
  refine ⟨c, ⟨hac, hc⟩, fun d ⟨had, hd⟩ ↦ ?_⟩
  have hdcycle := (ha.of_reflTransGen (fun _ _ h ↦ h) had).1
  exact h.unique d c hd hc hdcycle ((ha.symm had).trans hac)

/-! ## Going down the links -/

/-- The nodes of `nodes` that lead to `a`. -/
noncomputable def below (f : α → Option α) (nodes : Finset α) (a : α) : Finset α :=
  open Classical in nodes.filter fun b ↦ TransGen (Step f) b a

theorem mem_below {nodes : Finset α} : b ∈ below f nodes a ↔ b ∈ nodes ∧ TransGen (Step f) b a := by
  simp [below]

/-- Without cycles there are fewer nodes below a node than below the one it leads to. -/
theorem below_lt {nodes : Finset α} (hacyclic : ∀ a, ¬ OnCycle f a) (ha : a ∈ nodes) (hab : f a = some b) :
    (below f nodes a).card < (below f nodes b).card := by
  refine Finset.card_lt_card (Finset.ssubset_iff_subset_ne.mpr ⟨fun c hc ↦ ?_, fun heq ↦ ?_⟩)
  · obtain ⟨hmem, hca⟩ := mem_below.mp hc
    exact mem_below.mpr ⟨hmem, hca.tail hab⟩
  · have hmem : a ∈ below f nodes b := mem_below.mpr ⟨ha, .single hab⟩
    rw [← heq] at hmem
    exact hacyclic a (mem_below.mp hmem).2

end FunctionalGraph
