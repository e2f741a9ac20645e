/-!
# Powers

Powers of two and of ten, and the limits of signed words.
-/

namespace MetricsAgent

/-- A power of two. -/
def twoTo (n : Nat) : Nat :=
  Nat.pow 2 n

theorem twoTo_succ (n : Nat) : twoTo (n + 1) = twoTo n * 2 := by
  rfl

theorem twoTo_pos (n : Nat) : 0 < twoTo n := by
  induction n with
  | zero => decide
  | succ n ih => rw [twoTo_succ]; omega

/-- A power of ten. -/
def tenTo (n : Nat) : Nat :=
  Nat.pow 10 n

theorem tenTo_succ (n : Nat) : tenTo (n + 1) = tenTo n * 10 := by
  rfl

theorem tenTo_pos (n : Nat) : 0 < tenTo n := by
  induction n with
  | zero => decide
  | succ n ih => rw [tenTo_succ]; omega

/-- The least number that is too large for a signed word of so many bits. -/
def wordLimit (bits : Nat) : Int :=
  twoTo (bits - 1)

end MetricsAgent
