import CommitLint.Text.Quoted

/-!
# Encodings

Texts leave the program as bytes, in an encoding that writes some code points and
refuses all others.  A text that holds one of these is refused as a whole.  The
complaint names the first code point that is refused and its position; if those next
to it are refused as well, it says how far that goes.

Bytes that are no UTF-8 come in as lone surrogates, one for each byte.  These are code
points that UTF-8 refuses, and `Char` does not have them: a program that meets them has
other characters stand for them, so that encodings are about code points and not about
characters.
-/

namespace CommitLint

open Text

/-- An encoding of texts as bytes. -/
structure Encoding where
  name : Text
  /-- Whether a code point can be written. -/
  writes : Nat → Bool
  /-- Why the others cannot. -/
  reason : Text

namespace Encoding

/-- UTF-8, which refuses surrogates. -/
def utf8 : Encoding :=
  ⟨"utf-8".toList, fun n => n < 0xD800 || 0xDFFF < n, "surrogates not allowed".toList⟩

/-- ASCII. -/
def ascii : Encoding :=
  ⟨"ascii".toList, fun n => n < 128, "ordinal not in range(128)".toList⟩

/-- Which code points of a text are refused: one of them, where it stands, and the number
of those that follow it and are refused too. -/
def culprit (n start more : Nat) : Text :=
  if more = 0 then "character '".toList ++ numbered n ++ "' in position ".toList ++ decimal start
  else "characters in position ".toList ++ decimal start ++ '-' :: decimal (start + more)

/-- Why a text, given by its code points, cannot be written; nothing if it can. -/
def refusal? (e : Encoding) (points : List Nat) : Option Text :=
  let refuses (n : Nat) : Bool := !e.writes n
  (points.find? refuses).map fun n =>
    let start := points.findIdx refuses
    let more := ((points.drop (start + 1)).takeWhile refuses).length
    '\x27' :: e.name ++ "' codec can't encode ".toList ++ culprit n start more ++
      ": ".toList ++ e.reason

/-! ## Small facts -/

/-- A text can be written if all its code points can. -/
theorem refusal?_eq_none_iff {e : Encoding} {points : List Nat} :
    e.refusal? points = none ↔ ∀ n ∈ points, e.writes n = true := by
  simp [refusal?]

/-- What a character stands for by itself can always be written in UTF-8. -/
theorem utf8_writes_toNat (c : Char) : utf8.writes c.toNat = true := by
  have hValid : c.toNat < 0xD800 ∨ 0xDFFF < c.toNat ∧ c.toNat < 0x110000 := c.valid
  simp only [utf8, Bool.or_eq_true, decide_eq_true_eq]
  omega

end Encoding

end CommitLint
