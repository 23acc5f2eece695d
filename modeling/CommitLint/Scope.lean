import CommitLint.Text.Blank

/-!
# Scope names

A well-formed scope name is a sequence of non-empty groups with a separator
between any two: a hyphen or an underscore, either with one space before it or
without.  A group holds ASCII letters of either case, ASCII digits, and the
four characters that caseless comparison identifies with an ASCII letter: the
dotted capital I, the dotless i, the long s and the Kelvin sign.

`wellFormed` reads a name from left to right with one state; `Name` is the same
language taken apart, as a first group and further groups with the joint before
each of them.
-/

namespace CommitLint.Scope

/-- The characters of a group. -/
def isGroupChar (c : Char) : Bool :=
  c.isAlphanum || c == '\u0130' || c == '\u0131' || c == '\u017F' || c == '\u212A'

/-- The characters that separate two groups. -/
def isSeparator (c : Char) : Bool := c == '-' || c == '_'

/-- What may come next while a name is read from left to right. -/
inductive Expect where
  /-- A group has to begin. -/
  | group
  /-- A group is running: it may go on, stop, or meet a separator. -/
  | more
  /-- A space has been read: only a separator may follow. -/
  | separator
  deriving DecidableEq, Repr

/-- Read the rest of a name. -/
def accepts : Expect → Text → Bool
  | .more, [] => true
  | _, [] => false
  | .group, c :: cs => isGroupChar c && accepts .more cs
  | .separator, c :: cs => isSeparator c && accepts .group cs
  | .more, c :: cs =>
    if isGroupChar c then accepts .more cs
    else if isSeparator c then accepts .group cs
    else c == ' ' && accepts .separator cs

/-- Whether a text is a well-formed scope name. -/
def wellFormed (t : Text) : Bool := accepts .group t

/-! ## Names taken apart -/

/-- What stands between two groups. -/
structure Joint where
  /-- A space comes first. -/
  spaced : Bool
  /-- The separator is an underscore and not a hyphen. -/
  underscore : Bool
  deriving DecidableEq, Repr

/-- A joint in characters. -/
def Joint.toText (j : Joint) : Text :=
  (if j.spaced then [' '] else []) ++ [if j.underscore then '_' else '-']

/-- A first group, and further groups with the joint before each. -/
structure Name where
  first : Text
  rest : List (Joint × Text)
  deriving DecidableEq, Repr

namespace Name

/-- A name in characters. -/
def toText (n : Name) : Text := n.first ++ n.rest.flatMap fun p => p.1.toText ++ p.2

/-- The groups, in order. -/
def groups (n : Name) : List Text := n.first :: n.rest.map Prod.snd

/-- No group is empty, and all hold the characters of a group. -/
def Proper (n : Name) : Prop := ∀ g ∈ n.groups, g ≠ [] ∧ ∀ c ∈ g, isGroupChar c = true

end Name

end CommitLint.Scope
