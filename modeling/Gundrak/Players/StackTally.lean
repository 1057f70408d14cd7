import Mathlib

/-!
# Taking a count from stacks

One goes along a row of stacks to take a count from them: whole stacks as long as they fit, and a part of the
first one that does not.  A stack that is held stays where it is, but a part of it may be taken all the same;
and with a stack that is taken, what is in it is lost.

`Tally.take` is the turn of one stack.  **`Tally.foldl_take_iff`** says when a run removes the count, or all
that is available, and nothing else: each stack whose turn comes has to be `Fine`.  `Tally.exact_of_fine` is
one half of it.  The other half, `Tally.fine_of_exact`, rests on `Tally.le_removed_foldl`, that a run never
removes too little.
-/

namespace Gundrak.Players

/-! ## Stacks -/

/-- A stack at the time of its turn.  `counted` says that it could be taken before all began, and `held` that it
cannot be taken now.  What is in it are so many of the same kind, and perhaps others. -/
structure Stack where
  count : ℕ
  counted : Bool
  held : Bool
  sameInside : ℕ
  otherInside : Bool
deriving DecidableEq

namespace Stack

/-- What a stack adds to what can be removed. -/
def available (x : Stack) : ℕ := if x.counted then x.count else 0

theorem available_le (x : Stack) : x.available ≤ x.count := by
  rw [available]
  split <;> omega

/-- What is held does not add anything, if all that counts can be taken. -/
theorem available_of_held {x : Stack} (h : x.counted = true → x.held = false) (hheld : x.held = true) :
    x.available = 0 := by
  refine if_neg fun hcounted ↦ ?_
  simp [h hcounted] at hheld

/-- The turn of a stack comes when so much has been taken from those before it. -/
inductive Comes (count : ℕ) : List Stack → ℕ → Stack → ℕ → Prop
  | here (x : Stack) (xs : List Stack) (b : ℕ) : Comes count (x :: xs) b x b
  | held {x y : Stack} {xs : List Stack} {b b' : ℕ} (hheld : y.held = true) (hle : b + y.count ≤ count)
      (h : Comes count xs b x b') : Comes count (y :: xs) b x b'
  | taken {x y : Stack} {xs : List Stack} {b b' : ℕ} (hheld : y.held = false)
      (hlt : b + y.count < count) (h : Comes count xs (b + y.count) x b') : Comes count (y :: xs) b x b'

/-- Nothing goes wrong at a stack, when so much has been taken before it and there is so much in all. -/
structure Fine (count available : ℕ) (x : Stack) (before : ℕ) : Prop where
  fits : before + x.count < 2 ^ 32
  left : x.held = true → before + x.count ≤ count ∨ count ≤ available
  inside : x.held = false → before + x.count ≤ count → x.sameInside = 0 ∧ x.otherInside = false
  freed : x.counted = false → x.held = false → x.count = 0 ∨ count ≤ available

end Stack

/-! ## A run -/

/-- What has been taken, what is gone, whether that includes other items, whether the run is over, and whether
a sum did not fit. -/
structure Tally where
  remcount : ℕ := 0
  removed : ℕ := 0
  others : Bool := false
  returned : Bool := false
  wrapped : Bool := false

namespace Tally

/-- The turn of a stack. -/
def take (count : ℕ) (t : Tally) (x : Stack) : Tally :=
  if t.returned || t.wrapped then t
  else if 2 ^ 32 ≤ t.remcount + x.count then { t with wrapped := true }
  else if t.remcount + x.count ≤ count then
    if x.held then t
    else
      { t with
        remcount := t.remcount + x.count
        removed := t.removed + (x.count + x.sameInside)
        others := t.others || x.otherInside
        returned := count ≤ t.remcount + x.count }
  else { t with removed := t.removed + (count - t.remcount), returned := true }

variable {count a b e : ℕ} {t : Tally} {x : Stack} {xs : List Stack}

theorem take_of_done (h : (t.returned || t.wrapped) = true) : t.take count x = t := if_pos h

theorem foldl_take_of_done (h : (t.returned || t.wrapped) = true) : xs.foldl (take count) t = t := by
  induction xs with
  | nil => rfl
  | cons x xs ih => rw [List.foldl_cons, take_of_done h, ih]

/-- The run goes on. -/
structure Open (t : Tally) (count : ℕ) : Prop where
  returned : t.returned = false
  wrapped : t.wrapped = false
  le : t.remcount ≤ count

theorem Open.take_wrapped (h : t.Open count) (hx : 2 ^ 32 ≤ t.remcount + x.count) :
    t.take count x = { t with wrapped := true } := by
  rw [take, h.returned, h.wrapped, if_neg (by decide), if_pos hx]

theorem Open.take_held (h : t.Open count) (hcount : count < 2 ^ 32) (hx : t.remcount + x.count ≤ count)
    (hheld : x.held = true) : t.take count x = t := by
  rw [take, h.returned, h.wrapped, if_neg (by decide), if_neg (by omega), if_pos hx, if_pos hheld]

theorem Open.take_taken (h : t.Open count) (hcount : count < 2 ^ 32) (hx : t.remcount + x.count ≤ count)
    (hheld : x.held = false) :
    t.take count x = { t with
        remcount := t.remcount + x.count
        removed := t.removed + (x.count + x.sameInside)
        others := t.others || x.otherInside
        returned := count ≤ t.remcount + x.count } := by
  rw [take, h.returned, h.wrapped, if_neg (by decide), if_neg (by omega), if_pos hx, hheld, if_neg (by decide)]

theorem Open.take_part (h : t.Open count) (hfits : t.remcount + x.count < 2 ^ 32) (hx : count < t.remcount + x.count) :
    t.take count x = { t with removed := t.removed + (count - t.remcount), returned := true } := by
  rw [take, h.returned, h.wrapped, if_neg (by decide), if_neg (by omega), if_neg (by omega)]

/-- **At least as much is removed** as should be, and what has been removed besides. -/
theorem le_removed_foldl (hcount : count < 2 ^ 32) (h : t.Open count)
    (hxs : ∀ x ∈ xs, x.counted = true → x.held = false) (ha : a ≤ t.remcount)
    (he : t.remcount + e ≤ t.removed) (hwrapped : (xs.foldl (take count) t).wrapped = false) :
    min count (a + (xs.map Stack.available).sum) + e ≤ (xs.foldl (take count) t).removed := by
  induction xs generalizing t a with
  | nil =>
    simp only [List.map_nil, List.sum_nil, List.foldl_nil]
    omega
  | cons x xs ih =>
    rw [List.foldl_cons] at hwrapped ⊢
    rw [List.map_cons, List.sum_cons, ← add_assoc]
    have hxs' := fun y hy ↦ hxs y (List.mem_cons_of_mem x hy)
    by_cases hfits : 2 ^ 32 ≤ t.remcount + x.count
    · rw [h.take_wrapped hfits, foldl_take_of_done (by simp)] at hwrapped
      cases hwrapped
    rcases Nat.lt_or_ge count (t.remcount + x.count) with hpart | hle
    · rw [h.take_part (not_le.mp hfits) hpart, foldl_take_of_done (by simp)]
      dsimp only
      have := h.le
      omega
    cases hheld : x.held with
    | true =>
      have hav := Stack.available_of_held (hxs x List.mem_cons_self) hheld
      rw [h.take_held hcount hle hheld] at hwrapped ⊢
      rw [hav, add_zero]
      exact ih h hxs' ha he hwrapped
    | false =>
      have hav := x.available_le
      rw [h.take_taken hcount hle hheld] at hwrapped ⊢
      by_cases hstop : count ≤ t.remcount + x.count
      · rw [foldl_take_of_done (by simp [hstop])]
        dsimp only
        omega
      · exact ih ⟨by simp [hstop], h.wrapped, hle⟩ hxs' (by dsimp only; omega) (by dsimp only; omega) hwrapped

/-- A run in which nothing goes wrong removes what it should. -/
theorem exact_of_fine (hcount : count < 2 ^ 32) (h : t.Open count) (hothers : t.others = false)
    (hremoved : t.removed = t.remcount) (ha : a ≤ t.remcount)
    (hall : count ≤ a + (xs.map Stack.available).sum ∨ a = t.remcount)
    (hxs : ∀ x ∈ xs, x.counted = true → x.held = false)
    (hfine : ∀ x b, Stack.Comes count xs t.remcount x b → x.Fine count (a + (xs.map Stack.available).sum) b) :
    (xs.foldl (take count) t).wrapped = false ∧ (xs.foldl (take count) t).others = false ∧
      (xs.foldl (take count) t).removed = min count (a + (xs.map Stack.available).sum) := by
  have hle := h.le
  induction xs generalizing t a with
  | nil =>
    simp only [List.map_nil, List.sum_nil, List.foldl_nil] at hall ⊢
    exact ⟨h.wrapped, hothers, by omega⟩
  | cons x xs ih =>
    have hx := hfine x t.remcount (.here x xs t.remcount)
    rw [List.foldl_cons]
    rw [List.map_cons, List.sum_cons, ← add_assoc] at hall hfine hx ⊢
    have hxs' := fun y hy ↦ hxs y (List.mem_cons_of_mem x hy)
    have hmin (hav : count ≤ a + x.available + (xs.map Stack.available).sum) :
        count = min count (a + x.available + (xs.map Stack.available).sum) := (min_eq_left hav).symm
    cases hheld : x.held with
    | true =>
      have hav := Stack.available_of_held (hxs x List.mem_cons_self) hheld
      rcases Nat.lt_or_ge count (t.remcount + x.count) with hpart | hle'
      · -- a stack that is held is made smaller only if there is enough elsewhere
        rw [h.take_part hx.fits hpart, foldl_take_of_done (by simp)]
        refine ⟨h.wrapped, hothers, ?_⟩
        rw [← hmin ((hx.left hheld).resolve_left (not_le.mpr hpart))]
        dsimp only
        omega
      · rw [h.take_held hcount hle' hheld]
        rw [hav, add_zero] at hall hfine ⊢
        exact ih h hothers hremoved ha hall hxs' (fun y b hy ↦ hfine y b (.held hheld hle' hy)) hle
    | false =>
      have hav := x.available_le
      have hall' : count ≤ a + x.available + (xs.map Stack.available).sum ∨ a + x.available = t.remcount + x.count := by
        rcases hall with hall | rfl
        · exact .inl hall
        cases hcounted : x.counted with
        | true => exact .inr (by rw [Stack.available, hcounted, if_pos rfl])
        | false =>
          refine (hx.freed hcounted hheld).symm.imp_right fun hzero ↦ ?_
          simp [Stack.available, hcounted, hzero]
      rcases Nat.lt_or_ge count (t.remcount + x.count) with hpart | hle'
      · rw [h.take_part hx.fits hpart, foldl_take_of_done (by simp)]
        refine ⟨h.wrapped, hothers, ?_⟩
        rw [← hmin (by omega)]
        dsimp only
        omega
      obtain ⟨hsame, hother⟩ := hx.inside hheld hle'
      rw [h.take_taken hcount hle' hheld]
      by_cases hstop : count ≤ t.remcount + x.count
      · rw [foldl_take_of_done (by simp [hstop])]
        refine ⟨h.wrapped, by simp [hothers, hother], ?_⟩
        rw [← hmin (by omega)]
        dsimp only
        omega
      · exact ih ⟨by simp [hstop], h.wrapped, hle'⟩ (by simp [hothers, hother])
          (by simp [hsame, hremoved]) (by dsimp only; omega) hall' hxs'
          (fun y b hy ↦ hfine y b (.taken hheld (not_le.mp hstop) hy)) hle'

theorem others_foldl (h : t.others = true) : (xs.foldl (take count) t).others = true := by
  induction xs generalizing t with
  | nil => exact h
  | cons x xs ih =>
    refine ih ?_
    rw [take]
    split_ifs <;> simp [h]

theorem le_removed_taken (hcount : count < 2 ^ 32) (h : t.Open count) (hheld : x.held = false)
    (hx : t.remcount + x.count ≤ count) (hxs : ∀ x ∈ xs, x.counted = true → x.held = false)
    (ha : a ≤ t.remcount + x.count) (hremoved : t.remcount ≤ t.removed)
    (hwrapped : ((x :: xs).foldl (take count) t).wrapped = false) :
    min count (a + (xs.map Stack.available).sum) + x.sameInside ≤ ((x :: xs).foldl (take count) t).removed := by
  rw [List.foldl_cons, h.take_taken hcount hx hheld] at hwrapped ⊢
  by_cases hstop : count ≤ t.remcount + x.count
  · rw [foldl_take_of_done (by simp [hstop])]
    dsimp only
    omega
  · exact le_removed_foldl hcount ⟨by simp [hstop], h.wrapped, hx⟩ hxs ha (by dsimp only; omega) hwrapped

/-- Where the turn of a stack comes that is not fine, the run removes too much, or something else, or a sum
does not fit. -/
theorem fine_of_exact (hcount : count < 2 ^ 32) {y : Stack} {b' : ℕ} (hcomes : Stack.Comes count xs b y b')
    (hb : t.remcount = b) (h : t.Open count) (hremoved : t.remcount ≤ t.removed) (ha : a ≤ t.remcount)
    (hxs : ∀ x ∈ xs, x.counted = true → x.held = false)
    (hwrapped : (xs.foldl (take count) t).wrapped = false)
    (hothers : (xs.foldl (take count) t).others = false)
    (hexact : (xs.foldl (take count) t).removed = min count (a + (xs.map Stack.available).sum)) :
    y.Fine count (a + (xs.map Stack.available).sum) b' := by
  induction hcomes generalizing t a with
  | here x xs b =>
    subst hb
    have hxs' := fun y hy ↦ hxs y (List.mem_cons_of_mem x hy)
    have hfits : t.remcount + x.count < 2 ^ 32 := by
      by_contra hwrap
      rw [List.foldl_cons, h.take_wrapped (not_lt.mp hwrap), foldl_take_of_done (by simp)] at hwrapped
      cases hwrapped
    -- a stack that is made smaller leaves nothing to be removed
    have hpart (hlt : count < t.remcount + x.count) :
        count ≤ a + ((x :: xs).map Stack.available).sum := by
      rw [List.foldl_cons, h.take_part hfits hlt, foldl_take_of_done (by simp)] at hexact
      dsimp only at hexact
      omega
    have htaken (hheld : x.held = false) (hle : t.remcount + x.count ≤ count) {a' : ℕ}
        (ha' : a' ≤ t.remcount + x.count) : min count (a' + (xs.map Stack.available).sum) + x.sameInside ≤
          min count (a + ((x :: xs).map Stack.available).sum) :=
      hexact ▸ le_removed_taken hcount h hheld hle hxs' ha' hremoved hwrapped
    refine ⟨hfits, fun hheld ↦ ?_, fun hheld hle ↦ ⟨?_, ?_⟩, fun hcounted hheld ↦ ?_⟩
    · exact (Nat.lt_or_ge count _).symm.imp_right hpart
    · have hav := x.available_le
      have hle' := htaken hheld hle (add_le_add ha hav)
      rw [List.map_cons, List.sum_cons, ← add_assoc] at hle'
      omega
    · rw [List.foldl_cons, h.take_taken hcount hle hheld] at hothers
      by_contra hother
      rw [others_foldl (by simp [Bool.not_eq_false _ ▸ hother])] at hothers
      cases hothers
    · rcases Nat.lt_or_ge count (t.remcount + x.count) with hlt | hle
      · exact .inr (hpart hlt)
      · have hle' := htaken hheld hle (add_le_add_left ha x.count)
        rw [List.map_cons, List.sum_cons, Stack.available, hcounted, if_neg Bool.false_ne_true] at hle' ⊢
        omega
  | @held x y xs b b' hheld hle _ ih =>
    subst hb
    have hav := Stack.available_of_held (hxs y List.mem_cons_self) hheld
    rw [List.foldl_cons, h.take_held hcount hle hheld] at hwrapped hothers hexact
    rw [List.map_cons, List.sum_cons, hav, zero_add] at hexact ⊢
    exact ih rfl h hremoved ha (fun z hz ↦ hxs z (List.mem_cons_of_mem y hz)) hwrapped hothers hexact
  | @taken x y xs b b' hheld hlt _ ih =>
    subst hb
    have hav := y.available_le
    rw [List.foldl_cons, h.take_taken hcount hlt.le hheld] at hwrapped hothers hexact
    rw [List.map_cons, List.sum_cons, ← add_assoc a] at hexact ⊢
    refine ih ?_ ?_ ?_ ?_ (fun z hz ↦ hxs z (List.mem_cons_of_mem y hz)) hwrapped hothers hexact
    · rfl
    · exact ⟨decide_eq_false (not_le.mpr hlt), h.wrapped, hlt.le⟩
    · exact add_le_add hremoved (Nat.le_add_right y.count y.sameInside)
    · exact add_le_add ha hav

/-- **When a run removes what it should**: each stack whose turn comes is fine. -/
theorem foldl_take_iff (hcount : count < 2 ^ 32) (hxs : ∀ x ∈ xs, x.counted = true → x.held = false) :
    (((xs.foldl (take count) {}).wrapped = false ∧ (xs.foldl (take count) {}).others = false) ∧
      (xs.foldl (take count) {}).removed = min count (xs.map Stack.available).sum) ↔
    ∀ x b, Stack.Comes count xs 0 x b → x.Fine count (xs.map Stack.available).sum b := by
  have hopen : Open {} count := ⟨rfl, rfl, Nat.zero_le count⟩
  constructor
  · rintro ⟨⟨hwrapped, hothers⟩, hexact⟩ x b hcomes
    have hfine := fine_of_exact (a := 0) hcount hcomes rfl hopen le_rfl le_rfl hxs hwrapped hothers
      (by rwa [zero_add])
    rwa [zero_add] at hfine
  · intro hfine
    obtain ⟨hwrapped, hothers, hexact⟩ := exact_of_fine (a := 0) hcount hopen rfl rfl le_rfl (.inr rfl) hxs
      (by simpa only [zero_add] using hfine)
    exact ⟨⟨hwrapped, hothers⟩, by rwa [zero_add] at hexact⟩

end Tally

end Gundrak.Players
