import CommitLint.Text.Case
import CommitLint.Proofs.Opening

/-!
# Caseless comparison and ASCII

Two characters are compared without regard to case by the representatives of their
classes.  Very few characters beyond ASCII share a class with an ASCII character: the
dotted capital I and the dotless i do with i, the long s with s and the Kelvin sign with
k.  So a question about the characters that equal a given ASCII character up to case is
decided by looking at ASCII and at these four.

Main result: `mem_caselessStrays`.
-/

namespace CommitLint

namespace Text

/-! ## Characters that caseless comparison takes for ASCII -/

/-- The characters beyond ASCII whose caseless class is that of an ASCII character. -/
def caselessStrays : List Char := ['\u0130', '\u0131', '\u017F', '\u212A']

/-- What holds of the first 128 code points holds of every ASCII character. -/
theorem forall_ascii {p : Char → Prop} (h : ∀ n < 128, p (Char.ofNat n)) {c : Char}
    (hCode : c.toNat < 128) : p c := by
  have hOwn := h c.toNat hCode
  rw [Char.ofNat_toNat] at hOwn
  exact hOwn

theorem toNat_ofNat_of_isValidChar {n : Nat} (h : n.isValidChar) : (Char.ofNat n).toNat = n := by
  rw [Char.ofNat, dif_pos h]
  rfl

/-- A run of the lower-case table stays beyond ASCII, unless it is that of the dotted
capital I or of the Kelvin sign; and the dotless i and the long s are the lower case of
no other character. -/
theorem lowerRuns_beyond_ascii : ∀ r ∈ lowerRuns,
    (128 ≤ r.first + r.shift ∧
        (r.last + r.shift < 0xD800 ∨ 0xDFFF < r.first + r.shift ∧ r.last + r.shift < 0x110000) ∨
      r.first = r.last ∧ (r.first = 0x130 ∨ r.first = 0x212A)) ∧
    ∀ m ∈ [0x131, 0x17F], r.covers ((m : Nat) - r.shift).toNat = false := by decide +kernel

/-- Only characters beyond ASCII have another representative than their lower case; it
is beyond ASCII too, unless they are the dotless i or the long s. -/
theorem foldPairs_beyond_ascii : ∀ p ∈ foldPairs,
    128 ≤ p.1 ∧ (128 ≤ p.2 ∧ p.2.isValidChar ∨ p.1 ∈ [0x131, 0x17F]) := by decide +kernel

theorem mem_foldPairs {l n : Nat} (h : foldPairs.lookup l = some n) : (l, n) ∈ foldPairs := by
  obtain ⟨before, after, hPairs, -⟩ := List.lookup_eq_some_iff.1 h
  rw [hPairs]
  simp

/-- Any other character beyond ASCII has a lower case beyond ASCII that is no stray. -/
theorem simpleLower_beyond_ascii {c : Char} (h : 128 ≤ c.toNat) (hStray : c ∉ caselessStrays) :
    128 ≤ (simpleLower c).toNat ∧ (simpleLower c).toNat ∉ [0x131, 0x17F] := by
  have hCode : ∀ n ∈ [0x130, 0x131, 0x17F, 0x212A], c.toNat ≠ n := by
    intro n hn hEq
    have hAll : ∀ n ∈ [0x130, 0x131, 0x17F, 0x212A], Char.ofNat n ∈ caselessStrays := by decide
    exact hStray (Char.ofNat_toNat c ▸ hEq ▸ hAll n hn)
  simp only [List.forall_mem_cons] at hCode
  obtain ⟨hDotted, hDotless, hLong, hKelvin, -⟩ := hCode
  unfold simpleLower
  rw [if_neg (by omega)]
  split
  · rename_i r hFound
    have hMem := List.mem_of_find?_eq_some hFound
    have hCovers := List.find?_some hFound
    obtain ⟨hRun, hNot⟩ := lowerRuns_beyond_ascii r hMem
    have hRange := hCovers
    simp only [CaseRun.covers, Bool.and_eq_true, decide_eq_true_eq] at hRange
    rcases hRun with hBeyond | hSingle
    · have hValid : ((c.toNat : Int) + r.shift).toNat.isValidChar := by
        unfold Nat.isValidChar
        omega
      rw [toNat_ofNat_of_isValidChar hValid]
      refine ⟨by omega, fun hTarget => ?_⟩
      have hSource : (((c.toNat + r.shift).toNat : Int) - r.shift).toNat = c.toNat := by omega
      have hOff := hNot _ hTarget
      rw [hSource, hCovers] at hOff
      contradiction
    · omega
  · exact ⟨h, by simp [hDotless, hLong]⟩

/-- **Strays**: only four characters beyond ASCII are taken for ASCII characters. -/
theorem mem_caselessStrays {c : Char} (h : (caseless c).toNat < 128) :
    c.toNat < 128 ∨ c ∈ caselessStrays := by
  by_contra hBeyond
  obtain ⟨hCode, hStray⟩ := not_or.1 hBeyond
  obtain ⟨hLower, hLowerStray⟩ := simpleLower_beyond_ascii (by omega) hStray
  unfold caseless at h
  dsimp only at h
  split at h
  · rename_i n hFold
    obtain ⟨-, hPair⟩ := foldPairs_beyond_ascii _ (mem_foldPairs hFold)
    rcases hPair with ⟨hOut, hValid⟩ | hMem
    · rw [toNat_ofNat_of_isValidChar hValid] at h
      omega
    · exact hLowerStray hMem
  · omega

theorem map_caseless_strays : caselessStrays.map caseless = ['i', 'i', 's', 'k'] := by
  decide +kernel

/-! ## ASCII -/

theorem toNat_toLower (c : Char) :
    c.toLower.toNat = if 65 ≤ c.toNat ∧ c.toNat ≤ 90 then c.toNat + 32 else c.toNat := by
  unfold Char.toLower
  split
  · rename_i hCapital
    have hRange : 65 ≤ c.toNat ∧ c.toNat ≤ 90 := hCapital
    rw [if_pos hRange]
    show (c.val + 32).toNat = c.toNat + 32
    rw [UInt32.toNat_add]
    show (c.toNat + 32) % 2 ^ 32 = c.toNat + 32
    omega
  · rename_i hOther
    have hRange : ¬ (65 ≤ c.toNat ∧ c.toNat ≤ 90) := hOther
    rw [if_neg hRange]

/-- In ASCII the representative of a class is the small letter. -/
theorem caseless_of_ascii {c : Char} (hCode : c.toNat < 128) : caseless c = c.toLower := by
  have hLower : simpleLower c = c.toLower := if_pos hCode
  have hSmall : c.toLower.toNat < 128 := by
    rw [toNat_toLower]
    split <;> omega
  unfold caseless
  rw [hLower]
  dsimp only
  split
  · rename_i n hFold
    have hBeyond : 128 ≤ c.toLower.toNat := (foldPairs_beyond_ascii _ (mem_foldPairs hFold)).1
    omega
  · rfl

/-! ## Letters and blank characters -/

theorem isLetter_toLower (c : Char) : isLetter c.toLower = isLetter c := by
  rw [Bool.eq_iff_iff, Header.isLetter_iff, Header.isLetter_iff, toNat_toLower]
  split <;> omega

/-- Only letters have another small letter. -/
theorem toLower_eq_iff {c d : Char} (hOther : isLetter d = false) : c.toLower = d ↔ c = d := by
  have hSelf : ∀ x : Char, isLetter x = false → x.toLower = x := by
    intro x hx
    have hNot : ¬ (65 ≤ x.toNat ∧ x.toNat ≤ 90) := by
      intro hCapital
      rw [Header.isLetter_iff.2 (Or.inl hCapital)] at hx
      contradiction
    rw [← Char.ofNat_toNat x.toLower, toNat_toLower, if_neg hNot, Char.ofNat_toNat]
  constructor
  · intro hEq
    have hLetter : isLetter c = false := by rw [← isLetter_toLower, hEq, hOther]
    rw [← hSelf c hLetter, hEq]
  · rintro rfl
    exact hSelf c hOther

theorem isLetter_caseless {c : Char} (h : isLetter c = true) : isLetter (caseless c) = true := by
  have hRange := Header.isLetter_iff.1 h
  rw [caseless_of_ascii (by omega), isLetter_toLower, h]

theorem isLetter_caseless_of_isBlank {c : Char} (h : isBlank c = true) :
    isLetter (caseless c) = false := by
  have hStrays : caselessStrays.all (fun d => !isBlank d) = true := by decide
  by_contra hLetter
  rw [Bool.not_eq_false] at hLetter
  have hRange := Header.isLetter_iff.1 hLetter
  rcases mem_caselessStrays (c := c) (by omega) with hCode | hStray
  · rw [caseless_of_ascii hCode, isLetter_toLower,
      Header.isLetter_eq_false_of_isBlank h] at hLetter
    contradiction
  · have hInk := List.all_eq_true.1 hStrays c hStray
    rw [h] at hInk
    contradiction

/-- No blank character is a letter in another case. -/
theorem sameLetter_eq_false {c d : Char} (hLetter : isLetter c = true) (hBlank : isBlank d = true) :
    sameLetter c d = false := by
  have hOne := isLetter_caseless hLetter
  have hOther := isLetter_caseless_of_isBlank hBlank
  rw [sameLetter, beq_eq_false_iff_ne]
  intro hSame
  rw [hSame, hOther] at hOne
  contradiction

end Text

end CommitLint
