import Gundrak.Util.LowestFree
import Gundrak.Util.Machine

/-!
# The ids of instances

The `MapManager` hands out the ids of instances.  It keeps a bitset of the ids that are free and, beside it,
the next id it will hand out.  When the server starts, the bitset is made large enough for the greatest id in
the table `instance` and one more, and the stored ids are registered in ascending order.  Later on an id is
generated for every new instance and given back when the instance is reset.

`live` and `toRegister` are not in the source: the ids in use, and the stored ids that are still to be
registered.

**`instanceIds_of_reaches`**: the next id is always the lowest one that is free, and has its bit in the
bitset.  The bitset grows only when all its ids are in use, and so by one; as long as there are fewer than
`2 ^ 32 - 2` ids, neither the next id nor the size of the bitset leaves the range of a `uint32`.
-/

namespace Gundrak

open LowestFree (findNext free Marks)

/-! ## The source -/

/-- The part of the `MapManager` that the ids of instances are in. -/
structure MapManager where
  freeInstanceIds : List Bool
  nextInstanceId : ℕ

/-- What `GenerateInstanceId` returns, and whether it has stopped the world. -/
structure GeneratedId where
  newInstanceId : ℕ
  stopNow : Bool

namespace MapManager

/-- `_freeInstanceIds.resize(size, true)`. -/
def resized (bits : List Bool) (size : ℕ) : List Bool := bits.take size ++ List.replicate (size - bits.length) true

/-- A bit is written.  There is none outside the bitset. -/
def write (bits : List Bool) (instanceId : ℕ) (value : Bool) : Option (List Bool) :=
  if instanceId < bits.length then some (bits.set instanceId value) else none

/-- `result` is what the query for the greatest id returns, `none` if it fails. -/
def InitInstanceIds (m : MapManager) (result : Option ℕ) : MapManager :=
  let size := (result.map (· + 2)).getD (1 + 1)
  -- never allow 0 id
  ⟨(resized m.freeInstanceIds size).set 0 false, 1⟩

def RegisterInstanceId (m : MapManager) (instanceId : ℕ) : Option MapManager := do
  let bits ← write m.freeInstanceIds instanceId false
  some ⟨bits, if m.nextInstanceId = instanceId then (m.nextInstanceId + 1) % 2 ^ 32 else m.nextInstanceId⟩

/-- Undefined when the `ASSERT` does not hold. -/
def GenerateInstanceId (m : MapManager) : Option (GeneratedId × MapManager) :=
  if m.nextInstanceId = 0xFFFFFFFF then some (⟨m.nextInstanceId, true⟩, m)
  else do
    let bits ← write m.freeInstanceIds m.nextInstanceId false
    match findNext bits m.nextInstanceId with
    | none => some (⟨m.nextInstanceId, false⟩, ⟨bits ++ [true], bits.length % 2 ^ 32⟩)
    | some nextFreedId => some (⟨m.nextInstanceId, false⟩, ⟨bits, nextFreedId % 2 ^ 32⟩)

def FreeInstanceId (m : MapManager) (instanceId : ℕ) : Option MapManager := do
  let bits ← write m.freeInstanceIds instanceId true
  some ⟨bits, min instanceId m.nextInstanceId⟩

end MapManager

/-! ## Runs -/

/-- The manager, the ids in use and the stored ids that are still to be registered. -/
structure InstanceIds where
  manager : MapManager
  live : Finset ℕ
  toRegister : List ℕ

inductive InstanceIdCall where
  | RegisterInstanceId (instanceId : ℕ)
  | GenerateInstanceId
  | FreeInstanceId (instanceId : ℕ)

namespace InstanceIds

/-- The greatest of the stored ids, 0 if there are none. -/
def greatest (ids : List ℕ) : ℕ := ids.foldr max 0

/-- The server starts with these ids stored. -/
def start (ids : List ℕ) : InstanceIds := ⟨MapManager.InitInstanceIds ⟨[], 0⟩ (some (greatest ids)), ∅, ids⟩

def next (s : InstanceIds) : InstanceIdCall → Option InstanceIds
  | .RegisterInstanceId instanceId =>
    (s.manager.RegisterInstanceId instanceId).map fun m ↦ ⟨m, insert instanceId s.live, s.toRegister.tail⟩
  | .GenerateInstanceId =>
    s.manager.GenerateInstanceId.map fun (generated, m) ↦
      ⟨m, insert generated.newInstanceId s.live, s.toRegister⟩
  | .FreeInstanceId instanceId =>
    (s.manager.FreeInstanceId instanceId).map fun m ↦ ⟨m, s.live.erase instanceId, s.toRegister⟩

/-- The stored ids are registered first, in their order.  New ids come while there are fewer than
`2 ^ 32 - 2`, and only ids that are in use are given back. -/
def Allowed (s : InstanceIds) : InstanceIdCall → Prop
  | .RegisterInstanceId instanceId => s.toRegister.head? = some instanceId ∧ s.live.card < 2 ^ 32 - 2
  | .GenerateInstanceId => s.toRegister = [] ∧ s.live.card < 2 ^ 32 - 2
  | .FreeInstanceId instanceId => s.toRegister = [] ∧ 0 < instanceId ∧ instanceId ∈ s.live

instance : ∀ s call, Decidable (Allowed s call)
  | s, .RegisterInstanceId instanceId => inferInstanceAs (Decidable (_ ∧ _))
  | s, .GenerateInstanceId => inferInstanceAs (Decidable (_ ∧ _))
  | s, .FreeInstanceId instanceId => inferInstanceAs (Decidable (_ ∧ _))

end InstanceIds

/-- The ids of instances of a server that has started with these ids stored. -/
def instanceIds (ids : List ℕ) : Machine InstanceIds InstanceIdCall := ⟨InstanceIds.start ids, InstanceIds.next⟩

namespace InstanceIds

variable {s t : InstanceIds} {ids : List ℕ} {instanceId : ℕ}

/-! ## The invariant -/

/-- The bitset says which ids are in use, the next id is the lowest other one and inside, and for the stored ids
that are still to be registered there is room. -/
structure Valid (s : InstanceIds) : Prop where
  marks : Marks s.manager.freeInstanceIds s.live
  least : IsLeast (free s.live) s.manager.nextInstanceId
  inside : s.manager.nextInstanceId < s.manager.freeInstanceIds.length
  ascending : s.toRegister.Pairwise (· < ·)
  above : ∀ i ∈ s.live, ∀ j ∈ s.toRegister, i < j
  room : ∀ i ∈ s.toRegister, i + 1 < s.manager.freeInstanceIds.length

open MapManager

theorem le_greatest (h : instanceId ∈ ids) : instanceId ≤ greatest ids := by
  induction ids with
  | nil => cases h
  | cons i ids ih =>
    rw [greatest, List.foldr_cons]
    rcases List.mem_cons.mp h with rfl | h
    · exact le_max_left _ _
    · exact (ih h).trans (le_max_right _ _)

theorem valid_start (h : ids.Pairwise (· < ·)) : Valid (start ids) := by
  have hbits : (start ids).manager.freeInstanceIds = (List.replicate (greatest ids + 2) true).set 0 false := rfl
  have hlength : (start ids).manager.freeInstanceIds.length = greatest ids + 2 := by
    simp [hbits]
  refine ⟨⟨fun i hi ↦ ?_, fun i hi ↦ absurd hi (Finset.notMem_empty i)⟩, ⟨⟨one_pos, Finset.notMem_empty 1⟩,
    fun i hi ↦ hi.1⟩, ?_, h, fun i hi ↦ absurd hi (Finset.notMem_empty i), fun i hi ↦ ?_⟩
  · rw [hlength] at hi
    rw [hbits, List.getElem?_set, List.length_replicate, if_pos (Nat.succ_pos _), List.getElem?_replicate, if_pos hi]
    rcases Nat.eq_zero_or_pos i with rfl | hpos
    · simp
    · simp [hpos, hpos.ne, start]
  · rw [hlength]
    exact Nat.lt_add_left _ one_lt_two
  · rw [hlength]
    exact Nat.succ_lt_succ (Nat.lt_succ_of_le (le_greatest hi))

/-- While there are fewer ids than that, the next one after another id fits in its word. -/
theorem lt_of_isLeast {used : Finset ℕ} {n : ℕ} (hcard : used.card < 2 ^ 32 - 2)
    (h : IsLeast (free (insert instanceId used)) n) : n < 2 ^ 32 := by
  have hle := LowestFree.le_card_add_one h
  have hinsert := Finset.card_insert_le instanceId used
  omega

/-- **A stored id is registered**: it is inside the bitset. -/
theorem Valid.register (h : Valid s) (hhead : s.toRegister.head? = some instanceId) (hcard : s.live.card < 2 ^ 32 - 2) :
    ∃ t, s.next (.RegisterInstanceId instanceId) = some t ∧ Valid t := by
  obtain ⟨rest, hrest⟩ := List.head?_eq_some_iff.mp hhead
  obtain ⟨hmarks, hleast, hinside, hascending, habove, hroom⟩ := h
  rw [hrest] at hascending habove hroom
  have hlt : instanceId < s.manager.freeInstanceIds.length := (Nat.lt_succ_self _).trans (hroom _ List.mem_cons_self)
  have hnot : instanceId ∉ s.live := fun hlive ↦ (habove _ hlive _ List.mem_cons_self).false
  have hnext : ∃ n, (if s.manager.nextInstanceId = instanceId then (s.manager.nextInstanceId + 1) % 2 ^ 32
      else s.manager.nextInstanceId) = n ∧ IsLeast (free (insert instanceId s.live)) n ∧
      n < s.manager.freeInstanceIds.length := by
    rcases eq_or_ne s.manager.nextInstanceId instanceId with heq | hne
    · have hafter : instanceId + 1 ∉ s.live := fun hlive ↦
        Nat.not_succ_le_self _ (habove _ hlive _ List.mem_cons_self).le
      have hleast' : IsLeast (free (insert instanceId s.live)) (instanceId + 1) :=
        LowestFree.isLeast_insert (heq ▸ hleast) (Nat.lt_succ_self _) hafter fun i hi hlt ↦ by omega
      refine ⟨instanceId + 1, ?_, hleast', hroom _ List.mem_cons_self⟩
      rw [if_pos heq, heq, Nat.mod_eq_of_lt (lt_of_isLeast hcard hleast')]
    · exact ⟨_, if_neg hne, LowestFree.isLeast_insert_of_ne hleast hne, hinside⟩
  obtain ⟨n, hn, hleast', hinside'⟩ := hnext
  refine ⟨⟨⟨s.manager.freeInstanceIds.set instanceId false, n⟩, insert instanceId s.live, rest⟩, ?_,
    hmarks.insert hlt, hleast', ?_, hascending.of_cons, fun i hi j hj ↦ ?_, fun i hi ↦ ?_⟩
  · simp [next, RegisterInstanceId, write, hlt, ← hn, hrest]
  · simpa using hinside'
  · rcases Finset.mem_insert.mp hi with rfl | hi
    · exact List.rel_of_pairwise_cons hascending hj
    · exact habove i hi j (List.mem_cons_of_mem _ hj)
  · rw [List.length_set]
    exact hroom i (List.mem_cons_of_mem _ hi)

/-- **An id is generated**: it is the next one, which was free. -/
theorem Valid.generate (h : Valid s) (hloaded : s.toRegister = []) (hcard : s.live.card < 2 ^ 32 - 2) :
    ∃ m, s.manager.GenerateInstanceId = some (⟨s.manager.nextInstanceId, false⟩, m) ∧
      Valid ⟨m, insert s.manager.nextInstanceId s.live, s.toRegister⟩ := by
  obtain ⟨hmarks, hleast, hinside, -, -, -⟩ := h
  have hbound := LowestFree.le_card_add_one hleast
  have hne : s.manager.nextInstanceId ≠ 0xFFFFFFFF := by omega
  have hmarks' := hmarks.insert hinside
  have hlength : (s.manager.freeInstanceIds.set s.manager.nextInstanceId false).length =
      s.manager.freeInstanceIds.length := List.length_set
  rw [GenerateInstanceId, if_neg hne, write, if_pos hinside, Option.bind_eq_bind, Option.bind_some, hloaded]
  split
  · rename_i hnone
    have hleast' := hmarks'.isLeast_of_findNext_none hleast (hlength ▸ hinside) hnone
    rw [Nat.mod_eq_of_lt (lt_of_isLeast hcard hleast')]
    refine ⟨_, rfl, hmarks'.push (hlength ▸ hleast.1.1.trans hinside), hleast', ?_, .nil,
      fun _ _ _ hj ↦ absurd hj List.not_mem_nil, fun _ hj ↦ absurd hj List.not_mem_nil⟩
    rw [List.length_append]
    exact Nat.lt_succ_self _
  · rename_i n hfound
    have hleast' := hmarks'.isLeast_of_findNext hleast hfound
    rw [Nat.mod_eq_of_lt (lt_of_isLeast hcard hleast')]
    refine ⟨_, rfl, hmarks', hleast', ?_, .nil,
      fun _ _ _ hj ↦ absurd hj List.not_mem_nil, fun _ hj ↦ absurd hj List.not_mem_nil⟩
    exact (List.getElem?_eq_some_iff.mp (LowestFree.findNext_eq_some hfound).2.1).1

/-- **An id is given back**: it is the next one if it is lower. -/
theorem Valid.giveBack (h : Valid s) (hloaded : s.toRegister = []) (hpos : 0 < instanceId)
    (hlive : instanceId ∈ s.live) : ∃ t, s.next (.FreeInstanceId instanceId) = some t ∧ Valid t := by
  obtain ⟨hmarks, hleast, hinside, -, -, -⟩ := h
  have hlt := hmarks.inside instanceId hlive
  refine ⟨⟨⟨s.manager.freeInstanceIds.set instanceId true, min instanceId s.manager.nextInstanceId⟩,
    s.live.erase instanceId, []⟩, ?_, hmarks.erase hpos hlt, LowestFree.isLeast_erase hleast hpos, ?_, .nil,
    fun _ _ _ hj ↦ absurd hj List.not_mem_nil, fun _ hj ↦ absurd hj List.not_mem_nil⟩
  · simp [next, FreeInstanceId, write, hlt, hloaded]
  · rw [List.length_set]
    exact min_lt_of_left_lt hlt

theorem Valid.step (h : Valid s) {call : InstanceIdCall} (hcall : Allowed s call) :
    ∃ t, s.next call = some t ∧ Valid t := by
  cases call with
  | RegisterInstanceId instanceId => exact h.register hcall.1 hcall.2
  | GenerateInstanceId =>
    obtain ⟨m, hm, hvalid⟩ := h.generate hcall.1 hcall.2
    refine ⟨_, ?_, hvalid⟩
    rw [next, hm]
    rfl
  | FreeInstanceId instanceId => exact h.giveBack hcall.1 hcall.2.1 hcall.2.2

theorem valid_of_reaches (hids : ids.Pairwise (· < ·)) (h : (instanceIds ids).Reaches Allowed s) : Valid s :=
  h.invariant (valid_start hids) fun s call t hs hcall hstep ↦ by
    obtain ⟨t', ht', hvalid⟩ := hs.step hcall
    rw [Option.some_inj.mp (hstep.symm.trans ht')]
    exact hvalid

/-! ## The ids that are handed out -/

/-- **The next id is always the lowest one that is free**, and lies inside the bitset; no call that is allowed
runs into an `ASSERT` or past the bitset, and an id that is generated is the next one: not 0 and not in use. -/
theorem instanceIds_of_reaches (hids : ids.Pairwise (· < ·)) (h : (instanceIds ids).Reaches Allowed s) :
    IsLeast {id | 0 < id ∧ id ∉ s.live} s.manager.nextInstanceId ∧
      s.manager.nextInstanceId < s.manager.freeInstanceIds.length ∧
      (∀ call, Allowed s call → (s.next call).isSome = true) ∧
      (Allowed s .GenerateInstanceId → ∃ generated m, s.manager.GenerateInstanceId = some (generated, m) ∧
        generated.newInstanceId ≠ 0 ∧ generated.newInstanceId ∉ s.live ∧ generated.stopNow = false) := by
  have hvalid := valid_of_reaches hids h
  refine ⟨hvalid.least, hvalid.inside, fun call hcall ↦ ?_, fun hcall ↦ ?_⟩
  · obtain ⟨t, ht, -⟩ := hvalid.step hcall
    simp [ht]
  · obtain ⟨m, hm, -⟩ := hvalid.generate hcall.1 hcall.2
    exact ⟨_, m, hm, hvalid.least.1.1.ne', hvalid.least.1.2, rfl⟩

/-- Three ids are stored.  After three more the bitset is full and grows; an id that is given back then is
next. -/
theorem instanceIds_of_reaches_stored : ∃ s, (instanceIds [1, 2, 5]).Reaches Allowed s ∧
    s.manager.nextInstanceId = 2 ∧ s.manager.freeInstanceIds.length = 8 ∧
    IsLeast {id | 0 < id ∧ id ∉ s.live} s.manager.nextInstanceId := by
  obtain ⟨s, hs, hnext, hsize⟩ := (instanceIds [1, 2, 5]).exists_reaches Allowed [.RegisterInstanceId 1,
    .RegisterInstanceId 2, .RegisterInstanceId 5, .GenerateInstanceId, .GenerateInstanceId, .GenerateInstanceId,
    .FreeInstanceId 2]
    (fun s ↦ s.manager.nextInstanceId = 2 ∧ s.manager.freeInstanceIds.length = 8) (by decide +kernel)
  have hreaches : (instanceIds [1, 2, 5]).Reaches Allowed s := hs
  have hids : [1, 2, 5].Pairwise (· < ·) := by decide
  exact ⟨s, hreaches, hnext, hsize, (instanceIds_of_reaches hids hreaches).1⟩

end InstanceIds

end Gundrak
