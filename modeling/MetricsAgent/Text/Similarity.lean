/-!
# Similarity of texts

Two texts are as similar as the share of their characters that lies in common blocks: the longest
common block first, then the longest ones to its left and to its right.
-/

namespace MetricsAgent.Similarity

/-- How many characters two texts have in common at their beginnings. -/
def commonStart : List Char → List Char → Nat
  | a :: as, b :: bs => if a == b then commonStart as bs + 1 else 0
  | _, _ => 0

/-- A block that occurs in two texts: where it begins in each, and its length. -/
structure Block where
  left : Nat
  right : Nat
  length : Nat
  deriving DecidableEq, Repr

/-- The longer of two blocks, the first if they are equally long. -/
def Block.longer (x y : Block) : Block :=
  if x.length < y.length then y else x

/-- The longest block at the beginning of `as` and anywhere in `bs`. -/
def blockFrom (i : Nat) (as : List Char) : Nat → List Char → Block
  | j, [] => ⟨i, j, 0⟩
  | j, b :: bs => Block.longer ⟨i, j, commonStart as (b :: bs)⟩ (blockFrom i as (j + 1) bs)

/-- The longest common block; the first in `as` among equals, and then the first in `bs`. -/
def longestBlock (bs : List Char) : Nat → List Char → Block
  | i, [] => ⟨i, 0, 0⟩
  | i, a :: as => Block.longer (blockFrom i (a :: as) 0 bs) (longestBlock bs (i + 1) as)

/-- The number of characters in common blocks; a block has at least one character, so as many rounds
suffice as the first text has characters. -/
def matchedWithin : Nat → List Char → List Char → Nat
  | 0, _, _ => 0
  | rounds + 1, as, bs =>
    let block := longestBlock bs 0 as
    if block.length = 0 then 0
    else block.length + matchedWithin rounds (as.take block.left) (bs.take block.right)
      + matchedWithin rounds (as.drop (block.left + block.length)) (bs.drop (block.right + block.length))

/-- The number of characters in common blocks. -/
def matched (as bs : List Char) : Nat :=
  matchedWithin as.length as bs

/-- Of several candidates the one most similar to a word, if at least three fifths of the characters
agree; of equally similar ones the last in the order of characters. -/
def closest? (word : String) (candidates : List String) : Option String :=
  let total (c : String) := c.length + word.length
  let score (c : String) := matched c.toList word.toList
  let near := candidates.filter fun c => 3 * total c ≤ 10 * score c
  near.foldl (fun best c =>
    match best with
    | none => some c
    | some b =>
      let x := score c * total b
      let y := score b * total c
      if y < x || (x == y && b < c) then some c else some b) none

end MetricsAgent.Similarity
