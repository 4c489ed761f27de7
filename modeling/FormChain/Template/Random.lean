/-!
# Random texts

Texts of letters and digits drawn from a seed. A draw takes the high bits of a linear
congruence, whose low bits run in short circles.

Main statement: a drawn text has the length asked for (`length_alphanumerics`).
-/

namespace FormChain.Random

/-- The letters and digits that are drawn. -/
def alphabet : List Char :=
  "ABCDEFGHIJKLMNOPQRSTUVWXYZabcdefghijklmnopqrstuvwxyz0123456789".toList

/-- The seed after a draw. -/
def next (seed : Nat) : Nat :=
  (seed * 6364136223846793005 + 1442695040888963407) % 0x10000000000000000

/-- The character drawn with a seed. -/
def pick (seed : Nat) : Char :=
  alphabet.getD (seed / 0x200000000 % alphabet.length) 'A'

/-- **A text of `n` random letters and digits**, and the seed behind it. -/
def alphanumerics (seed : Nat) : (n : Nat) → List Char × Nat
  | 0 => ([], seed)
  | n + 1 =>
    let seed := next seed
    let (more, behind) := alphanumerics seed n
    (pick seed :: more, behind)

/-- A drawn text has the length asked for. -/
theorem length_alphanumerics (seed n : Nat) : (alphanumerics seed n).1.length = n := by
  induction n generalizing seed with
  | zero => rfl
  | succ n ih => simp [alphanumerics, ih]

end FormChain.Random
