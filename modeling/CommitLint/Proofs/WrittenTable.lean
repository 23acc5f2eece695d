import CommitLint.Toml.Reader
import CommitLint.Toml.Writer

/-!
# Reading back a written table

A table is written in two forms of value only, one entry on a line.  The reader
knows many more forms, but of a written table it takes just one path: the header
declares the table, each line gives one key of it a value, and nothing else is
in the document.  The scanners are followed along this path, from the character
after a backslash to the whole document, and each is stated for any text behind
what it reads.

The loops of the reader are bounded by numbers that are taken from the length of
the document.  What they need here is one round for each character of a text and
one for each line, so every statement asks for that much.

Main result: `read?_writeTable`.
-/

namespace CommitLint.Toml

open Text

/-! ## Texts in double quotes -/

/-- Every control has a number of four hexadecimal digits that reads back. -/
theorem hexDigits_hex {n : Nat} (hSmall : n < 128) :
    (hex 4 n).length = 4 ∧ (hex 4 n).filterMap hexDigit? = [0, 0, n / 16, n % 16] := by
  have hAll : ∀ k < 128, (hex 4 k).length = 4 ∧
      (hex 4 k).filterMap hexDigit? = [0, 0, k / 16, k % 16] := by decide +kernel
  exact hAll n hSmall

theorem isForbidden_lt {c : Char} (hForbidden : isForbidden c = true) : c.toNat < 128 := by
  simp only [isForbidden, isControl, Bool.and_eq_true, Bool.or_eq_true, decide_eq_true_eq,
    beq_iff_eq] at hForbidden
  omega

/-- A control that is written by its number is read as itself. -/
theorem hexCharacter_hex {c : Char} (hForbidden : isForbidden c = true) (rest : Text) :
    hexCharacter 4 (hex 4 c.toNat ++ rest) = some (c, rest) := by
  have hSmall := isForbidden_lt hForbidden
  obtain ⟨hLength, hDigits⟩ := hexDigits_hex hSmall
  have hTake : (hex 4 c.toNat ++ rest).take 4 = hex 4 c.toNat := List.take_left' hLength
  have hDrop : (hex 4 c.toNat ++ rest).drop 4 = rest := List.drop_left' hLength
  have hValue : ofDigits 16 [0, 0, c.toNat / 16, c.toNat % 16] = c.toNat := by
    simp only [ofDigits, List.foldl_cons, List.foldl_nil]
    omega
  have hChar : charOfNumber? c.toNat = some c := by
    have hBelow : c.toNat < 0xD800 := by omega
    simp [charOfNumber?, hBelow]
  simp [hexCharacter, hexNumber, hTake, hDrop, hDigits, hValue, hChar]

/-- What is written for one character takes one round of reading, whatever form it
has. -/
theorem basicString_escapeChar (fuel : Nat) (c : Char) (s : Text) :
    basicString (fuel + 1) (escapeChar c ++ s) =
      (basicString fuel s).map fun (t, rest) => (c :: t, rest) := by
  unfold escapeChar
  split
  · rename_i hSlashed
    have hCases : c = '\x22' ∨ c = '\x5c' := by simpa using hSlashed
    rcases hCases with rfl | rfl
    · simp [basicString, slashed, escaped]
    · simp [basicString, slashed, escaped]
  split
  · rename_i hBack
    simp [basicString, slashed, escaped, hBack]
  split
  · rename_i hFeed
    simp [basicString, slashed, escaped, hFeed]
  split
  · rename_i hForm
    simp [basicString, slashed, escaped, hForm]
  split
  · rename_i hReturn
    simp [basicString, slashed, escaped, hReturn]
  split
  · rename_i hForbidden
    have hRead := hexCharacter_hex hForbidden s
    simp [basicString, slashed, escaped, hRead]
  · rename_i hPlain _ _ _ _ hAllowed
    have hNeither : c ≠ '\x22' ∧ c ≠ '\x5c' := by simpa using hPlain
    simp [basicString, hNeither.1, hNeither.2, hAllowed]

theorem basicString_flatMap {fuel : Nat} {t : Text} (hFuel : t.length < fuel) (rest : Text) :
    basicString fuel (t.flatMap escapeChar ++ '\x22' :: rest) = some (t, rest) := by
  induction t generalizing fuel with
  | nil =>
      obtain ⟨n, rfl⟩ := Nat.exists_eq_succ_of_ne_zero (Nat.ne_of_gt hFuel)
      simp [basicString]
  | cons c cs ih =>
      rw [List.length_cons] at hFuel
      obtain ⟨n, rfl⟩ := Nat.exists_eq_succ_of_ne_zero (Nat.ne_of_gt (Nat.zero_lt_of_lt hFuel))
      rw [List.flatMap_cons, List.append_assoc, basicString_escapeChar, ih (by omega)]
      rfl

theorem escapeChar_ne_nil (c : Char) : escapeChar c ≠ [] := by
  unfold escapeChar slashed
  repeat' split
  all_goals simp

theorem length_le_length_flatMap (t : Text) : t.length ≤ (t.flatMap escapeChar).length := by
  induction t with
  | nil => exact Nat.le_refl 0
  | cons c cs ih =>
      have hOne := List.length_pos_iff.2 (escapeChar_ne_nil c)
      rw [List.flatMap_cons, List.length_append, List.length_cons]
      omega

theorem threeQuotes_cons_of_ne {quote c : Char} (hNe : c ≠ quote) (s : Text) :
    threeQuotes quote (c :: s) = none := by
  match s with
  | [] => rfl
  | [_] => rfl
  | _ :: _ :: _ => simp [threeQuotes, hNe]

/-- A written text does not look like one in three quotes, also if it is empty, as
long as no quote stands behind it. -/
theorem threeQuotes_writeText (t : Text) {rest : Text} (hBehind : rest.head? ≠ some '\x22') :
    threeQuotes '\x22' (writeText t ++ rest) = none := by
  cases t with
  | nil =>
      cases rest with
      | nil => rfl
      | cons d ds =>
          have hd : d ≠ '\x22' := by simpa using hBehind
          simp [writeText, threeQuotes, hd]
  | cons c cs =>
      -- the first character of an escape is a backslash, and a quote is escaped
      obtain ⟨d, ds, hEscape⟩ := List.exists_cons_of_ne_nil (escapeChar_ne_nil c)
      have hd : d ≠ '\x22' := by
        intro hQuote
        subst hQuote
        unfold escapeChar slashed at hEscape
        repeat' split at hEscape
        all_goals simp_all
      obtain ⟨e, es, hMore⟩ : ∃ e es, ds ++ (cs.flatMap escapeChar ++ '\x22' :: rest) = e :: es :=
        List.exists_cons_of_ne_nil (by simp)
      have hForm : writeText (c :: cs) ++ rest = '\x22' :: d :: e :: es := by
        rw [← hMore]
        simp [writeText, hEscape]
      simp [hForm, threeQuotes, hd]

theorem string_writeText (t rest : Text) (hBehind : rest.head? ≠ some '\x22') :
    string (writeText t ++ rest) = some (t, rest) := by
  have hThree := threeQuotes_writeText t hBehind
  have hForm : writeText t ++ rest = '\x22' :: (t.flatMap escapeChar ++ '\x22' :: rest) := by
    simp [writeText]
  have hLength := length_le_length_flatMap t
  rw [hForm] at hThree ⊢
  rw [string, hThree, threeQuotes_cons_of_ne (by decide)]
  apply basicString_flatMap
  simp only [List.length_append, List.length_cons]
  omega

/-! ## Values and keys -/

/-- A written value lies in no list and no inline table, and is read up to the end
of its line. -/
theorem valueWithin_write (levels : Nat) (v : Scalar) (rest : Text) :
    valueWithin (levels + 1) (v.write ++ '\n' :: rest) = some (v.toValue, '\n' :: rest) := by
  cases v with
  | bool b =>
      cases b with
      | false => rfl
      | true => rfl
  | text t =>
      have hRead := string_writeText t ('\n' :: rest) (by simp)
      have hForm : writeText t ++ '\n' :: rest =
          '\x22' :: (t.flatMap escapeChar ++ '\x22' :: '\n' :: rest) := by
        simp [writeText]
      rw [hForm] at hRead
      rw [Scalar.write, hForm]
      simp [valueWithin, hRead, Scalar.toValue]

theorem value_write (v : Scalar) (rest : Text) :
    value (v.write ++ '\n' :: rest) = some (v.toValue, '\n' :: rest) :=
  valueWithin_write maxNesting v rest

/-- A key that needs no quotes. -/
def Bare (k : Text) : Prop := k ≠ [] ∧ ∀ c ∈ k, isBare c = true

instance (k : Text) : Decidable (Bare k) :=
  decidable_of_iff (k ≠ [] ∧ k.all isBare = true) (by simp [Bare])

/-- A character of a bare key is none of those that stand for something else. -/
theorem ne_of_isBare {c d : Char} (hBare : isBare c = true) (hOther : isBare d = false) :
    c ≠ d := by
  rintro rfl
  rw [hBare] at hOther
  contradiction

theorem isSpace_eq_false_of_isBare {c : Char} (hBare : isBare c = true) : isSpace c = false := by
  have hBlank : c ≠ ' ' := ne_of_isBare hBare (by decide)
  have hTab : c ≠ '\t' := ne_of_isBare hBare (by decide)
  simp [isSpace, hBlank, hTab]

/-- A bare key is read up to the character that ends it. -/
theorem key_bare {k : Text} (hBare : Bare k) (rest : Text)
    (hEnds : ∀ c ∈ rest.head?, isBare c = false) (hAlone : (skipSpaces rest).head? ≠ some '.') :
    key (k ++ rest) = some ([k], skipSpaces rest) := by
  obtain ⟨hNe, hAll⟩ := hBare
  have hTake : (k ++ rest).takeWhile isBare = k ∧ (k ++ rest).dropWhile isBare = rest := by
    rw [List.takeWhile_append_of_pos hAll, List.dropWhile_append_of_pos hAll]
    cases rest with
    | nil => simp
    | cons c cs =>
        have hc := hEnds c (by simp)
        simp [hc]
  obtain ⟨c, cs, rfl⟩ := List.exists_cons_of_ne_nil hNe
  have hPart : keyPart (c :: cs ++ rest) = some (c :: cs, rest) := by
    have hc := hAll c (by simp)
    rw [List.cons_append] at hTake ⊢
    rw [keyPart, if_pos hc, hTake.1, hTake.2]
  have hParts : keyParts ((c :: cs ++ rest).length + 1) (c :: cs ++ rest) =
      some ([c :: cs], skipSpaces rest) := by
    rw [keyParts, hPart, Option.bind_some]
    dsimp only
    split
    · rename_i hDot
      simp [hDot] at hAlone
    · rfl
  rw [key, hParts]
  rfl

/-! ## Entries -/

theorem isBare_eq_false_of_head? {t rest : Text} {c : Char} (hHead : t.head? = some c)
    (hEnds : isBare c = false) : ∀ d ∈ (t ++ rest).head?, isBare d = false := by
  intro d hd
  rw [List.head?_append, hHead] at hd
  rw [← Option.some.inj hd]
  exact hEnds

/-- A written line is read as its key and its value. -/
theorem pair_writeEntry {k : Text} (hBare : Bare k) (v : Scalar) (rest : Text) :
    pair value (writeEntry (k, v) ++ rest) = some (([k], v.toValue), '\n' :: rest) := by
  have hForm : writeEntry (k, v) ++ rest = k ++ (" = ".toList ++ (v.write ++ '\n' :: rest)) := by
    simp [writeEntry]
  have hKey := key_bare hBare (" = ".toList ++ (v.write ++ '\n' :: rest))
    (isBare_eq_false_of_head? rfl (by decide)) (by simp [skipSpaces, isSpace])
  have hSkip : skipSpaces (" = ".toList ++ (v.write ++ '\n' :: rest)) =
      '=' :: ' ' :: (v.write ++ '\n' :: rest) := rfl
  have hValue : skipSpaces (' ' :: (v.write ++ '\n' :: rest)) = v.write ++ '\n' :: rest := by
    cases v with
    | bool b =>
        cases b with
        | false => rfl
        | true => rfl
    | text t => rfl
  rw [hForm, pair, hKey, hSkip]
  simp only [Option.bind_some, symbol, if_true, hValue, value_write, Option.map_some]

/-- The node of a written entry. -/
def nodeOf (e : Text × Scalar) : Text × Node := (e.1, .value e.2.toValue)

/-- The document while the entries of a written table are read. -/
def underHeader (name : Text) (entries : Entries) (sections : Nat) : Progress :=
  ⟨[(name, .table .declared entries)], [name], sections⟩

/-- A new key of the open table goes behind the others. -/
theorem within_assign {k : Text} {entries : Entries} (hNew : k ∉ entries.map Prod.fst)
    (name : Text) (sections : Nat) (v : Value) :
    Node.within (Node.assign sections v [k]) [name] [(name, .table .declared entries)] =
      some [(name, .table .declared (entries ++ [(k, .value v)]))] := by
  have hAbsent : entries.lookup k = none := by
    rw [List.lookup_eq_none_iff]
    intro e he
    rw [bne_iff_ne]
    rintro rfl
    exact hNew (List.mem_map_of_mem he)
  simp [Node.within, Node.through, Node.find?, Node.assign, Node.set, hAbsent]

/-- **One line**: a written entry is one statement, and the entry goes behind those
read before it. -/
theorem statement_writeEntry {k : Text} (hBare : Bare k) {entries : Entries}
    (hNew : k ∉ entries.map Prod.fst) (v : Scalar) (name : Text) (sections : Nat) (rest : Text) :
    statement (underHeader name entries sections) (writeEntry (k, v) ++ rest) =
      some (underHeader name (entries ++ [nodeOf (k, v)]) sections, '\n' :: rest) := by
  have hPair := pair_writeEntry hBare v rest
  obtain ⟨c, cs, rfl⟩ := List.exists_cons_of_ne_nil hBare.1
  have hc : isBare c = true := hBare.2 c (by simp)
  have hForm : writeEntry (c :: cs, v) ++ rest =
      c :: (cs ++ (" = ".toList ++ (v.write ++ '\n' :: rest))) := by
    simp [writeEntry]
  have hBracket : c ≠ '[' := ne_of_isBare hc (by decide)
  have hFeed : c ≠ '\n' := ne_of_isBare hc (by decide)
  have hHash : c ≠ '#' := ne_of_isBare hc (by decide)
  have hAssign : statement (underHeader name entries sections) (writeEntry (c :: cs, v) ++ rest) =
      assignment (underHeader name entries sections) (writeEntry (c :: cs, v) ++ rest) := by
    rw [hForm]
    simp [statement, hBracket, hFeed, hHash, hc]
  rw [hAssign, assignment, hPair, Option.bind_some]
  simp only [underHeader, within_assign hNew, Option.map_some, nodeOf]

/-! ## The document -/

theorem endLine_newline (rest : Text) : endLine ('\n' :: rest) = some rest := rfl

/-- A statement that begins its line with a character that is no space, and ends it,
is one round. -/
theorem statements_step {fuel : Nat} {p p' : Progress} {s rest : Text}
    (hHead : ∃ c ∈ s.head?, isSpace c = false)
    (hStatement : statement p s = some (p', '\n' :: rest)) :
    statements (fuel + 1) p s = statements fuel p' rest := by
  obtain ⟨c, hc, hSpace⟩ := hHead
  cases s with
  | nil => simp at hc
  | cons d ds =>
      have hEq : d = c := by simpa using hc
      have hSkip : skipSpaces (d :: ds) = d :: ds := by simp [skipSpaces, hEq, hSpace]
      rw [statements, hSkip]
      simp only [hStatement, Option.bind_some, endLine_newline]

theorem head?_writeEntry {k : Text} (hBare : Bare k) (v : Scalar) (rest : Text) :
    ∃ c ∈ (writeEntry (k, v) ++ rest).head?, isSpace c = false := by
  obtain ⟨c, cs, rfl⟩ := List.exists_cons_of_ne_nil hBare.1
  have hc : isBare c = true := hBare.2 c (by simp)
  exact ⟨c, by simp [writeEntry], isSpace_eq_false_of_isBare hc⟩

/-- **All lines**: written entries are read one after another, as long as each has a
key of its own. -/
theorem statements_entries {es : List (Text × Scalar)} (hBare : ∀ e ∈ es, Bare e.1)
    (entries : Entries) (hOwn : (entries.map Prod.fst ++ es.map Prod.fst).Nodup)
    {fuel : Nat} (hFuel : es.length < fuel) (name : Text) (sections : Nat) :
    statements fuel (underHeader name entries sections) (es.flatMap writeEntry) =
      some (underHeader name (entries ++ es.map nodeOf) sections) := by
  induction es generalizing entries fuel with
  | nil =>
      obtain ⟨n, rfl⟩ := Nat.exists_eq_succ_of_ne_zero (Nat.ne_of_gt hFuel)
      simp [statements, skipSpaces]
  | cons e es ih =>
      obtain ⟨k, v⟩ := e
      rw [List.length_cons] at hFuel
      obtain ⟨n, rfl⟩ := Nat.exists_eq_succ_of_ne_zero (Nat.ne_of_gt (Nat.zero_lt_of_lt hFuel))
      have hKey : Bare k := hBare (k, v) (by simp)
      have hNew : k ∉ entries.map Prod.fst := by
        intro hMem
        exact (List.nodup_append.1 hOwn).2.2 k hMem k (by simp) rfl
      have hRest : ((entries ++ [nodeOf (k, v)]).map Prod.fst ++ es.map Prod.fst).Nodup := by
        simpa [nodeOf] using hOwn
      rw [List.flatMap_cons, statements_step (head?_writeEntry hKey v _)
        (statement_writeEntry hKey hNew v name sections _),
        ih (fun e he => hBare e (by simp [he])) _ hRest (by omega)]
      simp

/-- The header of a table opens it. -/
theorem statement_header {name : Text} (hBare : Bare name) (rest : Text) :
    statement ⟨[], [], 0⟩ ('[' :: name ++ "]\n".toList ++ rest) =
      some (underHeader name [] 1, '\n' :: rest) := by
  have hKey := key_bare hBare (']' :: '\n' :: rest)
    (by intro c hc; rw [List.head?_cons, Option.mem_some] at hc; rw [← hc]; decide)
    (by simp [skipSpaces, isSpace])
  obtain ⟨c, cs, rfl⟩ := List.exists_cons_of_ne_nil hBare.1
  have hc : isBare c = true := hBare.2 c (by simp)
  have hBracket : c ≠ '[' := ne_of_isBare hc (by decide)
  have hSpace := isSpace_eq_false_of_isBare hc
  have hForm : '[' :: (c :: cs) ++ "]\n".toList ++ rest =
      '[' :: c :: (cs ++ ']' :: '\n' :: rest) := by simp
  have hSkip : skipSpaces (c :: (cs ++ ']' :: '\n' :: rest)) = c :: cs ++ ']' :: '\n' :: rest := by
    simp [skipSpaces, hSpace]
  have hEnd : skipSpaces (']' :: '\n' :: rest) = ']' :: '\n' :: rest := rfl
  have hOpen : statement ⟨[], [], 0⟩ ('[' :: c :: (cs ++ ']' :: '\n' :: rest)) =
      tableHeader ⟨[], [], 0⟩ (c :: (cs ++ ']' :: '\n' :: rest)) := by
    simp [statement, hBracket]
  rw [hForm, hOpen, tableHeader, hSkip, hKey, hEnd]
  simp [symbol, Node.declare, Node.find?, Node.set, underHeader]

theorem toEntries_map_nodeOf (es : List (Text × Scalar)) :
    Node.toEntries (es.map nodeOf) = es.map fun e => (e.1, e.2.toValue) := by
  induction es with
  | nil => simp [Node.toEntries]
  | cons e es ih => simp [Node.toEntries, Node.toValue, nodeOf, ih]

/-! ### Line ends -/

theorem foldCarriageReturns_of_not_mem {t : Text} (hNone : '\r' ∉ t) :
    foldCarriageReturns t = t := by
  induction t with
  | nil => rfl
  | cons c cs ih =>
      rw [List.mem_cons, not_or] at hNone
      have hc : c ≠ '\r' := Ne.symm hNone.1
      rw [foldCarriageReturns, ih hNone.2]
      intro ds hReturn
      exact absurd hReturn hc

theorem return_not_mem_escapeChar (c : Char) : '\r' ∉ escapeChar c := by
  have hDigits : ∀ k < 128, '\r' ∉ hex 4 k := by decide +kernel
  unfold escapeChar
  split
  · rename_i hSlashed
    have hCases : c = '\x22' ∨ c = '\x5c' := by simpa using hSlashed
    rcases hCases with rfl | rfl
    · decide
    · decide
  repeat' split
  · decide
  · decide
  · decide
  · decide
  · rename_i hForbidden
    have hHex := hDigits c.toNat (isForbidden_lt hForbidden)
    simpa [slashed] using hHex
  · rename_i hReturn _
    simpa using Ne.symm hReturn

theorem return_not_mem_of_bare {k : Text} (hBare : Bare k) : '\r' ∉ k := fun hMem =>
  absurd (hBare.2 _ hMem) (by decide)

theorem return_not_mem_writeTable {name : Text} (hName : Bare name)
    {es : List (Text × Scalar)} (hBare : ∀ e ∈ es, Bare e.1) : '\r' ∉ writeTable name es := by
  have hValue : ∀ v : Scalar, '\r' ∉ v.write := by
    intro v
    cases v with
    | bool b =>
        cases b with
        | false => decide
        | true => decide
    | text t => simp [Scalar.write, writeText, return_not_mem_escapeChar]
  have hLines : '\r' ∉ es.flatMap writeEntry := by
    intro hMem
    obtain ⟨e, he, hLine⟩ := List.mem_flatMap.1 hMem
    simp [writeEntry, hValue, return_not_mem_of_bare (hBare e he)] at hLine
  simp [writeTable, writeHeader, return_not_mem_of_bare hName, hLines]

/--
**A written table is read back**: if its name and its keys need no quotes, and no
key stands twice, the document that is written for a table holds this table alone,
with the same entries in the same order.
-/
theorem read?_writeTable {name : Text} (hName : Bare name) {es : List (Text × Scalar)}
    (hBare : ∀ e ∈ es, Bare e.1) (hOwn : (es.map Prod.fst).Nodup) :
    read? (writeTable name es) =
      some [(name, .table (es.map fun e => (e.1, e.2.toValue)))] := by
  have hHead : ∃ c ∈ ('[' :: name ++ "]\n".toList ++ es.flatMap writeEntry).head?,
      isSpace c = false := ⟨'[', by simp, by decide⟩
  have hEnough : es.length < (writeTable name es).length := by
    have hEach : es.length ≤ (es.flatMap writeEntry).length := by
      clear hBare hOwn hHead
      induction es with
      | nil => exact Nat.le_refl 0
      | cons e es ih =>
          have hFeed : 0 < (writeEntry e).length := by
            simp only [writeEntry, List.length_append, List.length_cons]
            omega
          rw [List.flatMap_cons, List.length_append, List.length_cons]
          omega
    simp only [writeTable, writeHeader, List.length_append, List.length_cons]
    omega
  rw [read?, foldCarriageReturns_of_not_mem (return_not_mem_writeTable hName hBare)]
  rw [writeTable, writeHeader] at hEnough ⊢
  rw [statements_step hHead (statement_header hName _),
    statements_entries hBare [] (by simpa using hOwn) hEnough]
  simp [underHeader, Node.toEntries, Node.toValue, toEntries_map_nodeOf]

end CommitLint.Toml
