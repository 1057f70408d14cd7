import Mathlib

/-!
# Exploring a graph from a set of nodes

A graph is given by what each node is linked to; for a node that does not exist there is nothing.  Links may
go in circles, and to nodes that do not exist.

A search keeps the nodes that are still to be looked at apart from those it is done with.  `Explored` is what
holds of the two at any time, however the next node is chosen: `start`, `skip` and `visit` are what a search
does, and `finish` says that with nothing left to look at the search has found the existing nodes that can be
reached, and no others.
-/

universe u

namespace Exploration

variable {α : Type u} {links : α → Option (Finset α)} {S todo done l : Finset α} {a b : α}

/-- A node links to another one. -/
def Link (links : α → Option (Finset α)) (a b : α) : Prop := ∃ l, links a = some l ∧ b ∈ l

/-- There is a way from `S` to a node, along nodes that exist up to the last but one. -/
def Leads (links : α → Option (Finset α)) (S : Finset α) (a : α) : Prop :=
  ∃ s ∈ S, Relation.ReflTransGen (Link links) s a

/-- A node that exists and can be reached from `S`. -/
def Reached (links : α → Option (Finset α)) (S : Finset α) (a : α) : Prop := (links a).isSome ∧ Leads links S a

theorem Leads.link (h : Leads links S a) (hl : Link links a b) : Leads links S b := by
  obtain ⟨s, hs, hsa⟩ := h
  exact ⟨s, hs, hsa.tail hl⟩

variable [DecidableEq α]

/-- What holds of the nodes that are still to be looked at, and of those that have been. -/
structure Explored (links : α → Option (Finset α)) (S todo done : Finset α) : Prop where
  leads : ∀ a ∈ todo, Leads links S a
  reached : ∀ a ∈ done, Reached links S a
  start : ∀ a ∈ S, (links a).isSome → a ∈ todo ∪ done
  closed : ∀ a ∈ done, ∀ b, Link links a b → (links b).isSome → b ∈ todo ∪ done

namespace Explored

theorem init : Explored links S S ∅ where
  leads := fun a ha ↦ ⟨a, ha, .refl⟩
  reached := fun a ha ↦ absurd ha (Finset.notMem_empty a)
  start := fun _ ha _ ↦ Finset.mem_union_left _ ha
  closed := fun a ha ↦ absurd ha (Finset.notMem_empty a)

theorem skip (h : Explored links S todo done) (ha : links a = none) : Explored links S (todo.erase a) done := by
  have hkeep : ∀ b ∈ todo ∪ done, (links b).isSome → b ∈ todo.erase a ∪ done := by
    intro b hb hsome
    have hne : b ≠ a := by
      rintro rfl
      simp [ha] at hsome
    rcases Finset.mem_union.mp hb with hb | hb
    · exact Finset.mem_union_left _ (Finset.mem_erase.mpr ⟨hne, hb⟩)
    · exact Finset.mem_union_right _ hb
  exact ⟨fun b hb ↦ h.leads b (Finset.mem_of_mem_erase hb), h.reached,
    fun b hb hsome ↦ hkeep b (h.start b hb hsome) hsome,
    fun b hb c hbc hsome ↦ hkeep c (h.closed b hb c hbc hsome) hsome⟩

/-- A node is visited: what it links to is looked at later, unless that has been done. -/
theorem visit (h : Explored links S todo done) (ha : a ∈ todo) (hl : links a = some l) :
    Explored links S (todo.erase a ∪ l.filter (· ∉ insert a done)) (insert a done) := by
  have hkeep : ∀ b ∈ todo ∪ done, b ∈ todo.erase a ∪ l.filter (· ∉ insert a done) ∪ insert a done := by
    intro b hb
    by_cases hba : b = a
    · exact Finset.mem_union_right _ (hba ▸ Finset.mem_insert_self a done)
    rcases Finset.mem_union.mp hb with hb | hb
    · exact Finset.mem_union_left _ (Finset.mem_union_left _ (Finset.mem_erase.mpr ⟨hba, hb⟩))
    · exact Finset.mem_union_right _ (Finset.mem_insert_of_mem hb)
  have hlinks : ∀ b ∈ l, b ∈ todo.erase a ∪ l.filter (· ∉ insert a done) ∪ insert a done := by
    intro b hb
    by_cases hdone : b ∈ insert a done
    · exact Finset.mem_union_right _ hdone
    · exact Finset.mem_union_left _ (Finset.mem_union_right _ (Finset.mem_filter.mpr ⟨hb, hdone⟩))
  refine ⟨fun b hb ↦ ?_, fun b hb ↦ ?_, fun b hb hsome ↦ hkeep b (h.start b hb hsome), fun b hb c hbc hsome ↦ ?_⟩
  · rcases Finset.mem_union.mp hb with hb | hb
    · exact h.leads b (Finset.mem_of_mem_erase hb)
    · exact (h.leads a ha).link ⟨l, hl, (Finset.mem_filter.mp hb).1⟩
  · rcases Finset.mem_insert.mp hb with rfl | hb
    · exact ⟨by rw [hl]; rfl, h.leads b ha⟩
    · exact h.reached b hb
  · rcases Finset.mem_insert.mp hb with rfl | hb
    · obtain ⟨l', hl', hc⟩ := hbc
      rw [hl] at hl'
      exact hlinks c (Option.some.inj hl' ▸ hc)
    · exact hkeep c (h.closed b hb c hbc hsome)

/-- **The end of a search.** -/
theorem finish (h : Explored links S ∅ done) : a ∈ done ↔ Reached links S a := by
  refine ⟨h.reached a, ?_⟩
  rintro ⟨hsome, s, hs, hsa⟩
  induction hsa with
  | refl => simpa using h.start s hs hsome
  | @tail b c _ hbc ih =>
    -- the node before exists, since it links
    obtain ⟨l, hl, hc⟩ := hbc
    have hb := ih (by rw [hl]; rfl)
    simpa using h.closed b hb c ⟨l, hl, hc⟩ hsome

end Explored

end Exploration
