-- The quantities of the progression service: who plays, how far they are,
-- what they own. All of them are machine words, so that a sum may leave
-- its range, and the two sums that the service forms say so.

namespace Progression

/-- The number that names a player. -/
abbrev UserId := Int64

/-- The number that names a skin of the catalogue. -/
abbrev SkinId := Int32

/-- A rung of the level ladder. -/
abbrev Level := Int32

/-- An amount of coins: a price, or a balance, which may be below zero. -/
abbrev Coins := Int64

/-- A number of invited players. -/
abbrev Referrals := Int64

/-! ## Sums that may leave their range -/

/-- The level after this one; the largest level has none. -/
def Level.next? (l : Level) : Option Level :=
  if l = Int32.maxValue then none else some (l + 1)

/-- What is left of a balance once a price is paid, if that is an amount at all. -/
def Coins.less? (balance price : Coins) : Option Coins :=
  let left := balance.toInt - price.toInt
  if Int64.minValue.toInt ≤ left ∧ left ≤ Int64.maxValue.toInt then some (Int64.ofInt left) else none

theorem Level.next?_maxValue : Level.next? Int32.maxValue = none := rfl

theorem Level.next?_of_ne {l : Level} (h : l ≠ Int32.maxValue) : l.next? = some (l + 1) := by
  simp [Level.next?, h]

end Progression
