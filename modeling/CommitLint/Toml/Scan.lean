import CommitLint.Text.Numeral

/-!
# Keys and strings of TOML

Scanners for blanks, comments, strings and keys.  A scanner gets the rest of a
document and gives what it has read together with what is left, or nothing if
the form is not there.

Controls other than the tab may stand neither in comments nor in strings, and
line feeds only in strings with three quotes.  An escape can stand for any of
them.
-/

namespace CommitLint.Toml

open Text

/-- The outcome of a scanner. -/
abbrev Scanned (α : Type) := Option (α × Text)

/-- The controls of ASCII. -/
def isControl (c : Char) : Bool := c.toNat < 32 || c.toNat == 127

/-- A control that may not stand in a comment or a string on one line. -/
def isForbidden (c : Char) : Bool := isControl c && c != '\t'

/-- A control that may not stand in a string over several lines. -/
def isForbiddenInBlock (c : Char) : Bool := isForbidden c && c != '\n'

/-- A space or a tab. -/
def isSpace (c : Char) : Bool := c == ' ' || c == '\t'

/-- Skip spaces and tabs. -/
def skipSpaces (s : Text) : Text := s.dropWhile isSpace

/-- Skip a comment, if one begins here. -/
def skipComment : Text → Option Text
  | '#' :: s =>
    if (s.takeWhile (· != '\n')).any isForbidden then none
    else some (s.dropWhile (· != '\n'))
  | s => some s

/-- Skip blanks, line feeds and comments, as between the items of a list. -/
def skipLayout : Nat → Text → Option Text
  | 0, _ => none
  | fuel + 1, s =>
    match s.dropWhile fun c => isSpace c || c == '\n' with
    | '#' :: r =>
      match skipComment ('#' :: r) with
      | none => none
      | some rest => skipLayout fuel rest
    | rest => some rest

/-! ## Strings -/

/-- The number that so many hexadecimal digits denote. -/
def hexNumber (count : Nat) (s : Text) : Scanned Nat :=
  let ds := (s.take count).filterMap hexDigit?
  if ds.length = count then some (ofDigits 16 ds, s.drop count) else none

/-- A character by its number; surrogates are no characters. -/
def charOfNumber? (n : Nat) : Option Char :=
  if n < 0xD800 || 0xDFFF < n && n < 0x110000 then some (Char.ofNat n) else none

/-- The character that so many hexadecimal digits denote. -/
def hexCharacter (count : Nat) (s : Text) : Scanned Char :=
  (hexNumber count s).bind fun (n, rest) => (charOfNumber? n).map fun c => (c, rest)

/-- The character of an escape after the backslash. -/
def escaped : Text → Scanned Char
  | 'b' :: s => some ('\x08', s)
  | 't' :: s => some ('\t', s)
  | 'n' :: s => some ('\n', s)
  | 'f' :: s => some ('\x0c', s)
  | 'r' :: s => some ('\r', s)
  | '\x22' :: s => some ('\x22', s)
  | '\x5c' :: s => some ('\x5c', s)
  | 'e' :: s => some ('\x1b', s)
  | 'x' :: s => hexCharacter 2 s
  | 'u' :: s => hexCharacter 4 s
  | 'U' :: s => hexCharacter 8 s
  | _ => none

/-- A string in double quotes, after the opening one. -/
def basicString : Nat → Text → Scanned Text
  | 0, _ => none
  | _ + 1, [] => none
  | fuel + 1, c :: s =>
    if c = '\x22' then some ([], s)
    else if c = '\x5c' then
      (escaped s).bind fun (e, rest) =>
        (basicString fuel rest).map fun (t, rest) => (e :: t, rest)
    else if isForbidden c then none
    else (basicString fuel s).map fun (t, rest) => (c :: t, rest)

/-- A string in single quotes, after the opening one. -/
def literalString (s : Text) : Scanned Text :=
  let t := s.takeWhile (· != '\x27')
  match s.dropWhile (· != '\x27') with
  | [] => none
  | _ :: rest => if t.any isForbidden then none else some (t, rest)

/-- Three quotes in a row begin the text. -/
def threeQuotes (quote : Char) : Text → Option Text
  | a :: b :: c :: s => if a = quote && b = quote && c = quote then some s else none
  | _ => none

/-- Up to two more quotes that belong to a string before its closing three. -/
def extraQuotes (quote : Char) (t : Text) : Text → Text × Text
  | a :: b :: s =>
    if a = quote then
      if b = quote then (t ++ [quote, quote], s) else (t ++ [quote], b :: s)
    else (t, a :: b :: s)
  | [a] => if a = quote then (t ++ [quote], []) else (t, [a])
  | [] => (t, [])

/-- A backslash at the end of a line, which joins it to the next text. -/
def lineJoin? (s : Text) : Option Text :=
  match s with
  | c :: _ =>
    if isSpace c || c = '\n' then
      match skipSpaces s with
      | [] => some []
      | '\n' :: rest => some (rest.dropWhile fun c => isSpace c || c == '\n')
      | _ => none
    else none
  | [] => none

/-- A string in three double quotes, after the opening ones and the line feed
that may follow them. -/
def basicBlock : Nat → Text → Scanned Text
  | 0, _ => none
  | _ + 1, [] => none
  | fuel + 1, c :: s =>
    match threeQuotes '\x22' (c :: s) with
    | some rest => some (extraQuotes '\x22' [] rest)
    | none =>
      if c = '\x5c' then
        if s.head?.any fun d => isSpace d || d == '\n' then
          (lineJoin? s).bind (basicBlock fuel)
        else
          (escaped s).bind fun (e, rest) =>
            (basicBlock fuel rest).map fun (t, rest) => (e :: t, rest)
      else if isForbiddenInBlock c then none
      else (basicBlock fuel s).map fun (t, rest) => (c :: t, rest)

/-- A string in three single quotes, after the opening ones and the line feed
that may follow them. -/
def literalBlock : Text → Scanned Text
  | [] => none
  | c :: s =>
    match threeQuotes '\x27' (c :: s) with
    | some rest => some (extraQuotes '\x27' [] rest)
    | none =>
      if isForbiddenInBlock c then none
      else (literalBlock s).map fun (t, rest) => (c :: t, rest)

/-- Drop one line feed at the head. -/
def dropLineFeed : Text → Text
  | '\n' :: s => s
  | s => s

/-- A string of any of the four forms. -/
def string (s : Text) : Scanned Text :=
  match threeQuotes '\x22' s with
  | some rest => basicBlock (rest.length + 1) (dropLineFeed rest)
  | none =>
    match threeQuotes '\x27' s with
    | some rest => literalBlock (dropLineFeed rest)
    | none =>
      match s with
      | '\x22' :: rest => basicString (rest.length + 1) rest
      | '\x27' :: rest => literalString rest
      | _ => none

/-! ## Keys -/

/-- The characters of a key without quotes. -/
def isBare (c : Char) : Bool := c.isAlphanum || c == '-' || c == '_'

/-- One part of a key. -/
def keyPart (s : Text) : Scanned Text :=
  match s with
  | [] => none
  | c :: rest =>
    if isBare c then some (s.takeWhile isBare, s.dropWhile isBare)
    else if c = '\x27' then literalString rest
    else if c = '\x22' then basicString (rest.length + 1) rest
    else none

/-- Parts with periods between them, and blanks around the parts. -/
def keyParts : Nat → Text → Scanned (List Text)
  | 0, _ => none
  | fuel + 1, s =>
    (keyPart s).bind fun (part, rest) =>
      match skipSpaces rest with
      | '.' :: more =>
        (keyParts fuel (skipSpaces more)).map fun (parts, rest) => (part :: parts, rest)
      | rest => some ([part], rest)

/-- The most parts of a key. -/
def maxKeyParts : Nat := 1000

/-- A key, with the blanks behind it. -/
def key (s : Text) : Scanned (List Text) :=
  (keyParts (s.length + 1) s).bind fun (parts, rest) =>
    if parts.length ≤ maxKeyParts then some (parts, rest) else none

end CommitLint.Toml
