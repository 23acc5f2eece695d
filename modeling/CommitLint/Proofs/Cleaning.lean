import CommitLint.Config.Basic
import CommitLint.Proofs.Trimming

/-!
# Clean texts

A text that comes from the environment or from the configuration file is cleaned: the
unwanted controls are taken out, what is left is cut to the greatest length, and the cut
text is trimmed.  The order matters.  Taking out controls can bring blank characters to
the ends and shortens the text, so it comes first; cutting can leave a blank character at
the end, so trimming comes last.  No filter undoes what an earlier one has done, because
cutting and trimming only leave characters away: the result is a contiguous part of the
wanted characters (`exists_sanitize`).

The texts that are not changed are the clean ones (`sanitize_eq_self_iff`).

Main result: `sanitize_cleans`.
-/

namespace CommitLint.Config

open Text

/-- A clean text: it holds no unwanted control, is not too long, and is trimmed. -/
structure IsClean (t : Text) : Prop where
  controls : ∀ c ∈ t, isUnwanted c = false
  length : t.length ≤ maxLength
  trimmed : trim t = t

/-- The characters of a text that are no unwanted controls. -/
def wanted (t : Text) : Text := t.filter fun c => !isUnwanted c

theorem wanted_eq_self {t : Text} (h : ∀ c ∈ t, isUnwanted c = false) : wanted t = t := by
  rw [wanted, List.filter_eq_self]
  intro c hc
  simp [h c hc]

theorem isUnwanted_of_mem_wanted {t : Text} {c : Char} (h : c ∈ wanted t) :
    isUnwanted c = false := by
  simpa using (List.mem_filter.1 h).2

theorem sanitize_eq (t : Text) : sanitize t = trim ((wanted t).take maxLength) := rfl

/-- **What is kept**: of the wanted characters as many as a text may have, but for blank
characters at their ends. -/
theorem exists_sanitize (t : Text) :
    ∃ front back rest, blank front = true ∧ blank back = true ∧
      wanted t = front ++ sanitize t ++ back ++ rest ∧
      (front ++ sanitize t ++ back).length = min maxLength (wanted t).length := by
  obtain ⟨front, back, hFront, hBack, hCut⟩ := exists_trim ((wanted t).take maxLength)
  rw [← sanitize_eq] at hCut
  refine ⟨front, back, (wanted t).drop maxLength, hFront, hBack, ?_, ?_⟩
  · rw [← hCut, List.take_append_drop]
  · rw [← hCut, List.length_take]

theorem sanitize_isInfix (t : Text) : sanitize t <:+: wanted t := by
  obtain ⟨front, back, rest, -, -, hSplit, -⟩ := exists_sanitize t
  exact ⟨front, back ++ rest, by rw [hSplit]; simp⟩

theorem length_sanitize_le (t : Text) : (sanitize t).length ≤ maxLength := by
  obtain ⟨front, back, rest, -, -, -, hLength⟩ := exists_sanitize t
  simp only [List.length_append] at hLength
  omega

theorem isClean_sanitize (t : Text) : IsClean (sanitize t) where
  controls _ hc := isUnwanted_of_mem_wanted ((sanitize_isInfix t).subset hc)
  length := length_sanitize_le t
  trimmed := trim_trim _

/-- The clean texts are those that cleaning does not change. -/
theorem sanitize_eq_self_iff {t : Text} : sanitize t = t ↔ IsClean t := by
  constructor
  · intro hSame
    exact hSame ▸ isClean_sanitize t
  · intro hClean
    rw [sanitize_eq, wanted_eq_self hClean.controls, List.take_of_length_le hClean.length,
      hClean.trimmed]

/-- Cleaning again changes nothing. -/
theorem sanitize_sanitize (t : Text) : sanitize (sanitize t) = sanitize t :=
  sanitize_eq_self_iff.2 (isClean_sanitize t)

/--
**Cleaning** a text takes out the controls U+0000 to U+0008, U+000B, U+000C, U+000E to
U+001F and U+007F, keeps at most 1000 characters, and trims.  The result has all three
properties, cleaning it again changes nothing, and a text that has the three properties
is not changed.  The result is a contiguous part of the text without its controls; of the
first 1000 of these characters only blank ones at the ends are missing.
-/
theorem sanitize_cleans (t : Text) :
    IsClean (sanitize t) ∧
    sanitize (sanitize t) = sanitize t ∧
    (sanitize t = t ↔ IsClean t) ∧
    sanitize t <:+: wanted t ∧
    ∃ front back rest, blank front = true ∧ blank back = true ∧
      wanted t = front ++ sanitize t ++ back ++ rest ∧
      (front ++ sanitize t ++ back).length = min maxLength (wanted t).length :=
  ⟨isClean_sanitize t, sanitize_sanitize t, sanitize_eq_self_iff, sanitize_isInfix t,
    exists_sanitize t⟩

/-- A control hides a blank character at the end, and taking it out leaves one for
trimming. -/
example : sanitize " logs/a.log \u0000".toList = "logs/a.log".toList := by decide

end CommitLint.Config
