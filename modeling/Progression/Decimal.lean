-- Decimal numbers as text: the digits of a number, and the number that
-- digits stand for. Reading back what was written gives the number again.

namespace Progression

namespace Decimal

/-- The character of a digit below ten. -/
def digitChar (d : Nat) : Char := Char.ofNat (48 + d)

/-- The value of a digit, if the character is one of the ten ASCII digits. -/
def digit? (c : Char) : Option Nat :=
  if 48 ≤ c.toNat ∧ c.toNat ≤ 57 then some (c.toNat - 48) else none

/-- The digits of a number, without a leading zero. -/
def digits (n : Nat) : List Char :=
  if n < 10 then [digitChar n] else digits (n / 10) ++ [digitChar (n % 10)]
termination_by n

/-- A whole number: its digits, after a minus sign if it is negative. -/
def ofInt (z : Int) : List Char :=
  if z < 0 then '-' :: digits z.natAbs else digits z.natAbs

/-- One more digit on the right of a number. -/
def push? (n : Option Nat) (c : Char) : Option Nat :=
  match n, digit? c with
  | some n, some d => some (10 * n + d)
  | _, _ => none

/-- The number that a text of ASCII digits stands for; leading zeros are allowed. -/
def value? (cs : List Char) : Option Nat :=
  if cs.isEmpty then none else cs.foldl push? (some 0)

/-- One more digit on the right of a number, if the number stays below `bound`. -/
def pushBelow? (bound : Nat) (n : Option Nat) (c : Char) : Option Nat :=
  (push? n c).filter (· < bound)

/-- The number that a text of ASCII digits stands for, if it is below `bound`. No larger number is
computed on the way. -/
def below? (bound : Nat) (cs : List Char) : Option Nat :=
  if cs.isEmpty then none else cs.foldl (pushBelow? bound) (some 0)

/-- A number below `bound` with an optional plus sign. -/
def unsigned? (bound : Nat) : List Char → Option Nat
  | '+' :: cs => below? bound cs
  | cs => below? bound cs

/-- A whole number with an optional sign, below `bound` and not below its negative. -/
def signed? (bound : Nat) : List Char → Option Int
  | '-' :: cs => (below? (bound + 1) cs).map fun n => -(n : Int)
  | cs => (unsigned? bound cs).map fun n => (n : Int)

/-! ## Numbers below a bound -/

theorem filter_some_of_lt {bound n : Nat} (h : n < bound) :
    (some n).filter (· < bound) = some n := by
  simp [Option.filter, h]

theorem filter_some_of_le {bound n : Nat} (h : bound ≤ n) :
    (some n).filter (· < bound) = none := by
  simp [Option.filter, Nat.not_lt.mpr h]

theorem pushBelow?_filter (bound : Nat) (n : Option Nat) (c : Char) :
    pushBelow? bound (n.filter (· < bound)) c = (push? n c).filter (· < bound) := by
  cases n with
  | none => rfl
  | some n =>
    rcases Nat.lt_or_ge n bound with h | h
    · rw [filter_some_of_lt h, pushBelow?]
    · rw [filter_some_of_le h]
      cases hd : digit? c with
      | none => simp [pushBelow?, push?, hd]
      | some d =>
        have hn : bound ≤ 10 * n + d := by omega
        simp [pushBelow?, push?, hd, Option.filter, Nat.not_lt.mpr hn]

theorem foldl_pushBelow? (bound : Nat) (cs : List Char) (n : Option Nat) :
    cs.foldl (pushBelow? bound) (n.filter (· < bound))
      = (cs.foldl push? n).filter (· < bound) := by
  induction cs generalizing n with
  | nil => rfl
  | cons c cs ih => rw [List.foldl_cons, List.foldl_cons, pushBelow?_filter, ih]

/-- A number below a bound is a number that is below it. -/
theorem below?_eq_filter {bound : Nat} (h : 0 < bound) (cs : List Char) :
    below? bound cs = (value? cs).filter (· < bound) := by
  unfold below? value?
  split
  · rfl
  · rw [← foldl_pushBelow?, filter_some_of_lt h]

/-! ## Reading back -/

theorem digit?_digitChar {d : Nat} (h : d < 10) : digit? (digitChar d) = some d := by
  revert d; decide

theorem digits_ne_nil (n : Nat) : digits n ≠ [] := by
  rw [digits]; split <;> simp

theorem foldl_push?_digits (n : Nat) : (digits n).foldl push? (some 0) = some n := by
  induction n using Nat.strongRecOn with
  | _ n ih =>
    rw [digits]
    split
    · rename_i h
      simp [push?, digit?_digitChar h]
    · rename_i h
      rw [List.foldl_append, ih (n / 10) (by omega)]
      simp [push?, digit?_digitChar (Nat.mod_lt n (by decide : 0 < 10))]
      omega

theorem value?_digits (n : Nat) : value? (digits n) = some n := by
  have h : (digits n).isEmpty = false := by simp [digits_ne_nil]
  simp [value?, h, foldl_push?_digits]

end Decimal

end Progression
