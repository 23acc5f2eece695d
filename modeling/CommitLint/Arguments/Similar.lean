import CommitLint.Text.Blank

/-!
# Similar words

How alike two words are is measured by the characters that they share in the
same order: take the longest common block, the first one if there are several,
and go on with what lies before it in both words and with what lies after it
in both.  The ratio is twice the number of shared characters over the total
number of characters.

A word is suggested if the ratio is at least three fifths.  Of these words the
three best are kept, the later one in the alphabet where two are equally good,
and they are given in alphabetical order.
-/

namespace CommitLint.Arguments

/-- The length of the longest common beginning. -/
def commonStart : Text → Text → Nat
  | a :: as, b :: bs => if a = b then commonStart as bs + 1 else 0
  | _, _ => 0

/-- A block that two words share: where it begins in each, and its length. -/
structure Block where
  left : Nat
  right : Nat
  size : Nat
  deriving DecidableEq, Repr

/-- The longest block that begins at a place of the first word. -/
def bestAt (left : Nat) (a : Text) : Nat → Text → Block → Block
  | _, [], best => best
  | right, b :: bs, best =>
    let size := commonStart a (b :: bs)
    bestAt left a (right + 1) bs (if best.size < size then ⟨left, right, size⟩ else best)

/-- The longest block, the first one if there are several. -/
def longestBlock (b : Text) : Nat → Text → Block → Block
  | _, [], best => best
  | left, c :: cs, best => longestBlock b (left + 1) cs (bestAt left (c :: cs) 0 b best)

/-- The number of shared characters; the first argument bounds the depth. -/
def shared : Nat → Text → Text → Nat
  | 0, _, _ => 0
  | fuel + 1, a, b =>
    let block := longestBlock b 0 a ⟨0, 0, 0⟩
    if block.size = 0 then 0
    else
      shared fuel (a.take block.left) (b.take block.right) + block.size +
        shared fuel (a.drop (block.left + block.size)) (b.drop (block.right + block.size))

/-- A candidate with its ratio, as a fraction. -/
structure Candidate where
  num : Nat
  den : Nat
  word : Text
  deriving DecidableEq, Repr

/-- The first candidate comes before the second one. -/
def Candidate.before (x y : Candidate) : Bool :=
  if x.num * y.den = y.num * x.den then y.word < x.word
  else y.num * x.den < x.num * y.den

/-- Put a candidate in its place. -/
def insertCandidate (x : Candidate) : List Candidate → List Candidate
  | [] => [x]
  | y :: ys => if x.before y then x :: y :: ys else y :: insertCandidate x ys

/-- The words of a list that are most similar to a word, in alphabetical order. -/
def similar (words : List Text) (word : Text) : List Text :=
  let candidates := words.map fun w =>
    Candidate.mk (2 * shared (w.length + 1) w word) (w.length + word.length) w
  let good := candidates.filter fun c => 3 * c.den ≤ 5 * c.num && c.den != 0
  let best := ((good.foldr insertCandidate []).take 3).map Candidate.word
  best.mergeSort fun a b => !(b < a)

end CommitLint.Arguments
