-- Lengths of time. A span has nanoseconds, and no more of them than
-- 64 bits of seconds can hold; sums and multiples that would be longer
-- are the longest span instead.

namespace Progression

/-- The nanoseconds of one second. -/
def nanosPerSecond : Nat := 1000000000

/-- The nanoseconds of the longest span, which is one nanosecond short of `UInt64.size` seconds. -/
def longestNanos : Nat := UInt64.size * nanosPerSecond - 1

/-- A length of time of at most `longestNanos`. -/
structure Span where
  nanos : Nat
  le_longest : nanos ≤ longestNanos
deriving DecidableEq

namespace Span

/-- The span of `n` nanoseconds, or the longest one if that is shorter. -/
def ofNanos (n : Nat) : Span := ⟨min n longestNanos, Nat.min_le_right ..⟩

def ofMillis (n : Nat) : Span := ofNanos (n * 1000000)

def ofSeconds (s : UInt64) : Span := ofNanos (s.toNat * nanosPerSecond)

/-- The longest span. -/
def longest : Span := ⟨longestNanos, Nat.le_refl _⟩

/-- The whole seconds of a span. -/
def wholeSeconds (d : Span) : Nat := d.nanos / nanosPerSecond

/-- What a span has beyond its whole seconds. -/
def subsecondNanos (d : Span) : Nat := d.nanos % nanosPerSecond

/-- The whole milliseconds of a span. -/
def wholeMillis (d : Span) : Nat := d.nanos / 1000000

instance : Add Span := ⟨fun a b => ofNanos (a.nanos + b.nanos)⟩

/-- `n` times a span. -/
def times (d : Span) (n : Nat) : Span := ofNanos (d.nanos * n)

instance : LE Span := ⟨fun a b => a.nanos ≤ b.nanos⟩

instance (a b : Span) : Decidable (a ≤ b) := inferInstanceAs (Decidable (a.nanos ≤ b.nanos))

instance : Min Span := ⟨fun a b => if a ≤ b then a else b⟩

instance : Max Span := ⟨fun a b => if a ≤ b then b else a⟩

/-! ## What each operation does to the nanoseconds -/

@[ext]
theorem ext {a b : Span} (h : a.nanos = b.nanos) : a = b := by
  cases a; cases b; cases h; rfl

theorem le_def {a b : Span} : a ≤ b ↔ a.nanos ≤ b.nanos := Iff.rfl

@[simp]
theorem nanos_ofNanos (n : Nat) : (ofNanos n).nanos = min n longestNanos := rfl

@[simp]
theorem nanos_add (a b : Span) : (a + b).nanos = min (a.nanos + b.nanos) longestNanos := rfl

@[simp]
theorem nanos_times (d : Span) (n : Nat) : (d.times n).nanos = min (d.nanos * n) longestNanos := rfl

@[simp]
theorem nanos_min (a b : Span) : (min a b).nanos = min a.nanos b.nanos := by
  show (if a ≤ b then a else b).nanos = _
  by_cases h : a ≤ b
  · rw [if_pos h, Nat.min_eq_left (le_def.1 h)]
  · rw [if_neg h, Nat.min_eq_right (Nat.le_of_lt (Nat.not_le.1 h))]

@[simp]
theorem nanos_max (a b : Span) : (max a b).nanos = max a.nanos b.nanos := by
  show (if a ≤ b then b else a).nanos = _
  by_cases h : a ≤ b
  · rw [if_pos h, Nat.max_eq_right (le_def.1 h)]
  · rw [if_neg h, Nat.max_eq_left (Nat.le_of_lt (Nat.not_le.1 h))]

end Span

end Progression
