import Gundrak.Util.Int32

/-!
# The money of a player

A player never has more than `MAX_MONEY_AMOUNT`: more is cut off when he is loaded, and `ModifyMoney`
refuses what would lead there.  A `Purse` is an amount of money with this bound.
-/

namespace Gundrak

/-- `MAX_MONEY_AMOUNT`. -/
def MAX_MONEY_AMOUNT : UInt32 := 0x7FFFFFFF

theorem thousand_le_max : 1000 ≤ MAX_MONEY_AMOUNT.toNat := by decide

/-- `GetMoney` of a player. -/
structure Purse where
  money : ℕ
  le_max : money ≤ MAX_MONEY_AMOUNT.toNat
deriving DecidableEq

namespace Purse

variable (purse : Purse)

/-- `Player::HasEnoughMoney`, of an `uint32`. -/
def HasEnoughMoney (amount : UInt32) : Bool := decide (amount.toNat ≤ purse.money)

/-- `Player::ModifyMoney`, of an `int32`.  It returns whether it succeeds. -/
def ModifyMoney (amount : ℤ) : Purse × Bool :=
  if amount = 0 then (purse, true)
  else if amount < 0 then
    -- more than there is cannot be taken: what is left then is nothing
    (⟨purse.money - (-amount).toNat, Nat.le_trans (Nat.sub_le _ _) purse.le_max⟩, true)
  else if h : purse.money < MAX_MONEY_AMOUNT.toNat - amount.toNat then
    (⟨purse.money + amount.toNat, by omega⟩, true)
  else (purse, false)

theorem ModifyMoney_neg {amount : UInt32} (h : purse.HasEnoughMoney amount = true) :
    (purse.ModifyMoney (-int32 amount.toNat)).1.money + amount.toNat = purse.money := by
  have hle : amount.toNat ≤ purse.money := of_decide_eq_true h
  have hmax := purse.le_max
  have hval : MAX_MONEY_AMOUNT.toNat = 0x7FFFFFFF := rfl
  rw [int32_of_mem (by omega) (by omega), ModifyMoney]
  split_ifs with h0 hneg
  · dsimp only
    omega
  · dsimp only
    omega
  · omega
  · omega

theorem ModifyMoney_pos {amount : UInt32} {purse' : Purse} (hlt : amount.toNat < 2 ^ 31)
    (h : purse.ModifyMoney (int32 amount.toNat) = (purse', true)) :
    purse'.money = purse.money + amount.toNat := by
  rw [int32_of_mem (by omega) (by omega), ModifyMoney] at h
  split_ifs at h with h0 hneg hroom
  · obtain rfl := (Prod.mk.inj h).1
    omega
  · omega
  · obtain rfl := (Prod.mk.inj h).1
    dsimp only
    omega
  · exact absurd (Prod.mk.inj h).2 Bool.false_ne_true

end Purse

end Gundrak
