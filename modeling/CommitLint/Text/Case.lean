import CommitLint.Text.CaseTable
import CommitLint.Text.Blank

/-!
# Lower case and caseless comparison

`lower` is full lower-casing.  It differs from mapping each character on its
own in two places: the dotted capital I becomes two characters, and a capital
sigma at the end of a word becomes the final small sigma.

`sameLetter` compares two characters without regard to case.  Both are taken
to simple lower case, one character to one, and then to the representative of
their caseless class, so that the long s equals s and the Kelvin sign equals
k.
-/

namespace CommitLint.Text

/-- Whether a code point lies in one of the closed ranges. -/
def inRanges (ranges : List (Nat × Nat)) (n : Nat) : Bool :=
  ranges.any fun r => r.1 ≤ n && n ≤ r.2

/-- Whether a run of the lower-case table covers a code point. -/
def CaseRun.covers (r : CaseRun) (n : Nat) : Bool :=
  r.first ≤ n && n ≤ r.last && (n - r.first) % r.step == 0

/-- The simple lower case of a character. -/
def simpleLower (c : Char) : Char :=
  if c.toNat < 128 then c.toLower
  else
    match lowerRuns.find? fun r => r.covers c.toNat with
    | some r => Char.ofNat (c.toNat + r.shift).toNat
    | none => c

/-- The representative of a character's caseless class. -/
def caseless (c : Char) : Char :=
  let l := simpleLower c
  match foldPairs.lookup l.toNat with
  | some n => Char.ofNat n
  | none => l

/-- The two characters differ in case at most. -/
def sameLetter (c d : Char) : Bool := caseless c == caseless d

/-- The first text begins the second one, up to case. -/
def beginsCaseless : Text → Text → Bool
  | [], _ => true
  | _ :: _, [] => false
  | p :: ps, c :: cs => sameLetter p c && beginsCaseless ps cs

/-- A cased character that the search for the end of a word stops at. -/
def isCased (c : Char) : Bool := inRanges casedRanges c.toNat

/-- A character that the search for the end of a word looks past. -/
def isCaseIgnorable (c : Char) : Bool := inRanges ignorableRanges c.toNat

/-- The first character that is not case-ignorable exists and is cased. -/
def meetsCased (t : Text) : Bool :=
  match t.dropWhile isCaseIgnorable with
  | [] => false
  | c :: _ => isCased c

/-- A capital sigma is final when a cased character comes before it and none
after it, looking past case-ignorable ones; `before` is read backwards. -/
def isFinalSigma (before after : Text) : Bool :=
  meetsCased before && !meetsCased after

/-- The lower case of one character between two texts, the first of them
reversed. -/
def lowerAt (before : Text) (c : Char) (after : Text) : Text :=
  if c = '\u0130' then ['i', '\u0307']
  else if c = '\u03A3' then
    [if isFinalSigma before after then '\u03C2' else '\u03C3']
  else [simpleLower c]

/-- Full lower case of a text that follows another one, given reversed. -/
def lowerAfter (before : Text) : Text → Text
  | [] => []
  | c :: cs => lowerAt before c cs ++ lowerAfter (c :: before) cs

/-- Full lower case. -/
def lower (t : Text) : Text := lowerAfter [] t

end CommitLint.Text
