import Mathlib

/-!
# Recursion along references

A function that calls itself at `next a`, the places to which `a` refers, ends at `a` exactly if there is no way to
refer on for ever.  It is given with fuel: `ends n a` says that `n` nested calls are enough at `a`.

`exists_ends` and `acc_of_ends` are the two halves, for a function that calls itself at most, or at least, at all
of these places.  Among finitely many places (`acyclic_iff`) there is no way to refer on for ever exactly if no place
refers back to itself.
-/

open Relation (TransGen)

namespace Descent

universe u

variable {α : Type u} (next : α → List α)

/-- The place `b` is one of those to which `a` refers. -/
def RefersTo (b a : α) : Prop := b ∈ next a

/-- No place refers back to itself, through others or not. -/
def Acyclic : Prop := ∀ a, ¬TransGen (RefersTo next) a a

section ends

variable {next} (ends : ℕ → α → Prop)

theorem ends_mono (hmono : ∀ n a, ends n a → ends (n + 1) a) {n m : ℕ} (hnm : n ≤ m) {a : α} (h : ends n a) :
    ends m a := by
  induction hnm with
  | refl => exact h
  | step _ ih => exact hmono _ a ih

theorem exists_ends_forall (hmono : ∀ n a, ends n a → ends (n + 1) a) :
    ∀ l : List α, (∀ a ∈ l, ∃ n, ends n a) → ∃ n, ∀ a ∈ l, ends n a
  | [], _ => ⟨0, fun a ha ↦ by cases ha⟩
  | a :: l, h => by
    obtain ⟨n, hn⟩ := h a List.mem_cons_self
    obtain ⟨m, hm⟩ := exists_ends_forall hmono l fun b hb ↦ h b (List.mem_cons_of_mem _ hb)
    refine ⟨max n m, fun b hb ↦ ?_⟩
    rcases List.mem_cons.1 hb with rfl | hb
    · exact ends_mono ends hmono (le_max_left n m) hn
    · exact ends_mono ends hmono (le_max_right n m) (hm b hb)

/-- A recursion that needs no more than the places referred to ends where one cannot refer on for ever. -/
theorem exists_ends (hmono : ∀ n a, ends n a → ends (n + 1) a)
    (hstep : ∀ n a, (∀ b ∈ next a, ends n b) → ends (n + 1) a) {a : α} (ha : Acc (RefersTo next) a) :
    ∃ n, ends n a := by
  induction ha with
  | intro a _ ih =>
    obtain ⟨n, hn⟩ := exists_ends_forall ends hmono (next a) ih
    exact ⟨n + 1, hstep n a hn⟩

/-- A recursion that needs all the places referred to ends nowhere else. -/
theorem acc_of_ends (hzero : ∀ a, ¬ends 0 a) (hstep : ∀ n a, ends (n + 1) a → ∀ b ∈ next a, ends n b) :
    ∀ (n : ℕ) (a : α), ends n a → Acc (RefersTo next) a
  | 0, a, h => absurd h (hzero a)
  | n + 1, a, h => ⟨a, fun b hb ↦ acc_of_ends hzero hstep n b (hstep n a h b hb)⟩

end ends

variable {next}

/-- Among finitely many places, if none refers back to itself then one cannot refer on for ever. -/
theorem acyclic_iff {s : Set α} (hs : s.Finite) (hnext : ∀ a, ∀ b ∈ next a, a ∈ s ∧ b ∈ s) :
    Acyclic next ↔ ∀ a, Acc (RefersTo next) a := by
  constructor
  · intro hacyclic
    have := hs.to_subtype
    have hfield {b a : α} (h : TransGen (RefersTo next) b a) : b ∈ s ∧ a ∈ s := by
      induction h with
      | single h => exact (hnext _ _ h).symm
      | tail _ h ih => exact ⟨ih.1, (hnext _ _ h).1⟩
    -- on the finite set the transitive closure is a strict order
    let below : s → s → Prop := fun b a ↦ TransGen (RefersTo next) b.1 a.1
    have : IsTrans s below := ⟨fun _ _ _ h h' ↦ h.trans h'⟩
    have : Std.Irrefl below := ⟨fun a ↦ hacyclic a.1⟩
    have hwf : WellFounded below := Finite.wellFounded_of_trans_of_irrefl below
    have hin : ∀ a : s, Acc (RefersTo next) a.1 := by
      intro a
      induction a using hwf.induction with
      | h a ih => exact ⟨a.1, fun b hb ↦ ih ⟨b, (hnext a.1 b hb).2⟩ (.single hb)⟩
    exact fun a ↦ ⟨a, fun b hb ↦ hin ⟨b, (hnext a b hb).2⟩⟩
  · intro hacc a hcycle
    exact (WellFounded.transGen ⟨hacc⟩).irrefl.irrefl a hcycle

end Descent
