import CommitLint.Scope
import CommitLint.Proofs.Caseless
import Mathlib.Computability.Language
import Mathlib.Data.List.Chain

/-!
# The language of scope names

A scope name can be described in three ways.  It is what a recognizer with three
states accepts (`wellFormed`).  It is what a pattern matches, in which a separator, with
or without a space before it, and a group may be repeated, and which is read without
regard to case (`pattern`).  And it is a first group with further groups behind it, each
after a joint (`Name`).  The three agree.  A name can be taken apart in one way only,
because no character of a group begins a joint and no joint begins another one.

Reading the pattern without regard to case lets in four characters that are no ASCII
letters.  That there are no more is a fact about the case tables
(`mem_caselessStrays`).

Main result: `wellFormed_iff_name`.
-/

namespace CommitLint

open Computability

namespace Scope

open Text

/-! ## The pattern -/

/-- One of some characters, without regard to case. -/
def oneOf (cs : List Char) : Language Char :=
  {t | ∃ c, ∃ d ∈ cs, sameLetter c d = true ∧ t = [c]}

/-- The small letters and the digits. -/
def plainChars : List Char := "abcdefghijklmnopqrstuvwxyz0123456789".toList

/-- A letter or a digit, and any number of further ones. -/
def groupPattern : Language Char := oneOf plainChars * (oneOf plainChars)∗

/-- A space or none, and a separator. -/
def jointPattern : Language Char := (1 + oneOf [' ']) * oneOf ['-', '_']

/-- A group, and any number of times a joint and a group. -/
def pattern : Language Char := groupPattern * (jointPattern * groupPattern)∗

/-- Which characters are one of some, is seen from ASCII and from the strays. -/
theorem mem_oneOf_iff {cs : List Char} {p : Char → Bool}
    (hSmall : (cs.all fun d => d.toLower == d && d.toNat < 128) = true)
    (hAscii : ∀ c, c.toNat < 128 → p c = cs.contains c.toLower)
    (hStrays : caselessStrays.map p = ['i', 'i', 's', 'k'].map cs.contains)
    (hClass : ∀ c, p c = true → c.toNat < 128 ∨ c ∈ caselessStrays) (t : Text) :
    t ∈ oneOf cs ↔ ∃ c, p c = true ∧ t = [c] := by
  have hOwn : ∀ d ∈ cs, caseless d = d ∧ d.toNat < 128 := by
    intro d hd
    have hBoth := List.all_eq_true.1 hSmall d hd
    rw [Bool.and_eq_true, beq_iff_eq, decide_eq_true_eq] at hBoth
    exact ⟨(caseless_of_ascii hBoth.2).trans hBoth.1, hBoth.2⟩
  have hNear : ∀ c, c.toNat < 128 ∨ c ∈ caselessStrays → p c = cs.contains (caseless c) := by
    rintro c (hCode | hStray)
    · rw [caseless_of_ascii hCode, hAscii c hCode]
    · rw [← map_caseless_strays, List.map_map] at hStrays
      exact List.map_inj_left.1 hStrays c hStray
  have hSame : ∀ c, (∃ d ∈ cs, sameLetter c d = true) ↔ p c = true := by
    intro c
    constructor
    · rintro ⟨d, hd, hSame⟩
      obtain ⟨hFixed, hCode⟩ := hOwn d hd
      have hEq : caseless c = d := (beq_iff_eq.1 hSame).trans hFixed
      rw [hNear c (mem_caselessStrays (hEq ▸ hCode)), hEq]
      simpa using hd
    · intro hp
      have hMem : caseless c ∈ cs := by simpa [hNear c (hClass c hp)] using hp
      exact ⟨caseless c, hMem, beq_iff_eq.2 (hOwn _ hMem).1.symm⟩
  constructor
  · rintro ⟨c, d, hd, hLetter, rfl⟩
    exact ⟨c, (hSame c).1 ⟨d, hd, hLetter⟩, rfl⟩
  · rintro ⟨c, hp, rfl⟩
    obtain ⟨d, hd, hLetter⟩ := (hSame c).2 hp
    exact ⟨c, d, hd, hLetter, rfl⟩

theorem mem_oneOf_plainChars (t : Text) :
    t ∈ oneOf plainChars ↔ ∃ c, isGroupChar c = true ∧ t = [c] := by
  have hAscii : ∀ c, c.toNat < 128 → isGroupChar c = plainChars.contains c.toLower := by
    have hCodes : ∀ n < 128,
        isGroupChar (Char.ofNat n) = plainChars.contains (Char.ofNat n).toLower := by decide +kernel
    exact fun c => forall_ascii (p := fun c => isGroupChar c = plainChars.contains c.toLower) hCodes
  refine mem_oneOf_iff (by decide) hAscii (by decide) ?_ t
  intro c hc
  have hClass : (isLetter c = true ∨ c.isDigit = true) ∨ c ∈ caselessStrays := by
    simpa [isGroupChar, isLetter, Char.isAlphanum, caselessStrays, or_assoc] using hc
  rcases hClass with (hLetter | hDigit) | hStray
  · have hRange := Header.isLetter_iff.1 hLetter
    exact Or.inl (by omega)
  · have hRange := Char.isDigit_iff_toNat.1 hDigit
    exact Or.inl (Nat.lt_of_le_of_lt hRange.2 (by decide))
  · exact Or.inr hStray

theorem mem_oneOf_separators (t : Text) :
    t ∈ oneOf ['-', '_'] ↔ ∃ c, isSeparator c = true ∧ t = [c] := by
  refine mem_oneOf_iff (by decide) (fun c _ => ?_) (by decide) (fun c hc => ?_) t
  · rw [Bool.eq_iff_iff]
    simp [isSeparator, toLower_eq_iff (d := '-') rfl, toLower_eq_iff (d := '_') rfl]
  · rcases by simpa [isSeparator] using hc with rfl | rfl <;> exact Or.inl (by decide)

theorem mem_oneOf_space (t : Text) : t ∈ oneOf [' '] ↔ t = [' '] := by
  rw [mem_oneOf_iff (p := (· == ' ')) (by decide) (fun c _ => ?_) (by decide) fun c hc => ?_]
  · simp
  · rw [Bool.eq_iff_iff]
    simp [toLower_eq_iff (d := ' ') rfl]
  · rw [beq_iff_eq.1 hc]
    exact Or.inl (by decide)

/-! ## Groups and joints -/

/-- A text that can be a group. -/
def IsGroup (g : Text) : Prop := g ≠ [] ∧ ∀ c ∈ g, isGroupChar c = true

/-- What stands behind the first group. -/
def behind (ps : List (Joint × Text)) : Text := ps.flatMap fun p => p.1.toText ++ p.2

@[simp] theorem behind_nil : behind [] = [] := rfl

@[simp] theorem behind_cons (p : Joint × Text) (ps : List (Joint × Text)) :
    behind (p :: ps) = p.1.toText ++ (p.2 ++ behind ps) := by
  simp [behind]

theorem Name.toText_eq (n : Name) : n.toText = n.first ++ behind n.rest := rfl

theorem Name.proper_iff {n : Name} :
    n.Proper ↔ IsGroup n.first ∧ ∀ p ∈ n.rest, IsGroup p.2 := by
  rw [Proper, groups, List.forall_mem_cons, List.forall_mem_map]
  rfl

theorem isGroupChar_of_isSeparator {c : Char} (h : isSeparator c = true) :
    isGroupChar c = false := by
  rcases by simpa [isSeparator] using h with rfl | rfl <;> decide

/-- No group begins as a joint does. -/
theorem Joint.exists_head (j : Joint) : ∃ c t, j.toText = c :: t ∧ isGroupChar c = false := by
  obtain ⟨spaced, underscore⟩ := j
  cases spaced <;> cases underscore <;> exact ⟨_, _, rfl, by decide⟩

/-- A separator is a joint, and with a space before it, it is another one. -/
theorem exists_joint {c : Char} (h : isSeparator c = true) (spaced : Bool) :
    ∃ j : Joint, j.toText = (if spaced then [' '] else []) ++ [c] := by
  rcases by simpa [isSeparator] using h with rfl | rfl
  · exact ⟨⟨spaced, false⟩, rfl⟩
  · exact ⟨⟨spaced, true⟩, rfl⟩

/-! ## What the recognizer accepts -/

theorem accepts_more_append {g : Text} (h : ∀ c ∈ g, isGroupChar c = true) (t : Text) :
    accepts .more (g ++ t) = accepts .more t := by
  induction g with
  | nil => rfl
  | cons c cs ih =>
      rw [List.cons_append, accepts, if_pos (h c (by simp)), ih fun d hd => h d (by simp [hd])]

theorem accepts_group_append {g : Text} (h : IsGroup g) (t : Text) :
    accepts .group (g ++ t) = accepts .more t := by
  obtain ⟨hNe, hAll⟩ := h
  obtain ⟨c, cs, rfl⟩ := List.exists_cons_of_ne_nil hNe
  rw [List.cons_append, accepts, hAll c (by simp), Bool.true_and,
    accepts_more_append fun d hd => hAll d (by simp [hd])]

theorem accepts_joint (j : Joint) (t : Text) :
    accepts .more (j.toText ++ t) = accepts .group t := by
  obtain ⟨spaced, underscore⟩ := j
  cases spaced <;> cases underscore <;> rfl

/-- A first group with further groups behind it is accepted. -/
theorem wellFormed_toText {n : Name} (h : n.Proper) : wellFormed n.toText = true := by
  obtain ⟨hFirst, hRest⟩ := Name.proper_iff.1 h
  rw [wellFormed, Name.toText_eq, accepts_group_append hFirst]
  generalize n.rest = ps at hRest
  induction ps with
  | nil => rfl
  | cons p ps ih =>
      rw [behind_cons, accepts_joint, accepts_group_append (hRest p (by simp))]
      exact ih fun q hq => hRest q (by simp [hq])

/-- What is left of a name while it is read: a whole name where a group has to begin, the
rest of a group with what stands behind it where one is running, and a separator with a
name behind it after a space. -/
def Remains : Expect → Text → Prop
  | .group, t => ∃ n : Name, n.Proper ∧ n.toText = t
  | .more, t => ∃ g ps, (∀ c ∈ g, isGroupChar c = true) ∧ (∀ p ∈ ps, IsGroup p.2) ∧
      g ++ behind ps = t
  | .separator, t => ∃ c, ∃ n : Name, isSeparator c = true ∧ n.Proper ∧ c :: n.toText = t

/-- A separator, with or without a space before it, begins what stands behind a group. -/
theorem remains_of_joint {c : Char} (hSep : isSeparator c = true) (spaced : Bool) {n : Name}
    (hProper : n.Proper) :
    Remains .more ((if spaced then [' '] else []) ++ [c] ++ n.toText) := by
  obtain ⟨j, hJoint⟩ := exists_joint hSep spaced
  obtain ⟨hFirst, hRest⟩ := Name.proper_iff.1 hProper
  refine ⟨[], (j, n.first) :: n.rest, by simp, ?_, ?_⟩
  · simpa using ⟨hFirst, fun j g hMem => hRest (j, g) hMem⟩
  · rw [← hJoint, List.nil_append, behind_cons, Name.toText_eq]

theorem remains_of_accepts {e : Expect} {t : Text} (h : accepts e t = true) : Remains e t := by
  fun_induction accepts e t with
  | case1 => exact ⟨[], [], by simp, by simp, rfl⟩
  | case2 => contradiction
  | case3 c cs ih =>
      rw [Bool.and_eq_true] at h
      obtain ⟨g, ps, hGroup, hRest, rfl⟩ := ih h.2
      refine ⟨⟨c :: g, ps⟩, Name.proper_iff.2 ⟨⟨by simp, ?_⟩, hRest⟩, rfl⟩
      exact List.forall_mem_cons.2 ⟨h.1, hGroup⟩
  | case4 c cs ih =>
      rw [Bool.and_eq_true] at h
      obtain ⟨n, hProper, rfl⟩ := ih h.2
      exact ⟨c, n, h.1, hProper, rfl⟩
  | case5 c cs hChar ih =>
      obtain ⟨g, ps, hGroup, hRest, rfl⟩ := ih h
      exact ⟨c :: g, ps, List.forall_mem_cons.2 ⟨hChar, hGroup⟩, hRest, rfl⟩
  | case6 c cs hChar hSep ih =>
      obtain ⟨n, hProper, rfl⟩ := ih h
      exact remains_of_joint hSep false hProper
  | case7 c cs hChar hSep ih =>
      rw [Bool.and_eq_true, beq_iff_eq] at h
      obtain ⟨d, n, hSep, hProper, rfl⟩ := ih h.2
      rw [h.1]
      exact remains_of_joint hSep true hProper

/-! ## One reading -/

theorem head?_behind (ps : List (Joint × Text)) {c : Char} (h : c ∈ (behind ps).head?) :
    isGroupChar c = false := by
  cases ps with
  | nil => simp at h
  | cons p ps =>
      obtain ⟨d, t, hJoint, hHead⟩ := p.1.exists_head
      have hSame : d = c := by simpa [hJoint] using h
      exact hSame ▸ hHead

/-- A group reaches as far as its characters do. -/
theorem group_append_inj {g g' : Text} {ps ps' : List (Joint × Text)} (hg : IsGroup g)
    (hg' : IsGroup g') (h : g ++ behind ps = g' ++ behind ps') : g = g' ∧ behind ps = behind ps' := by
  have hStop (ps : List (Joint × Text)) : (behind ps).takeWhile isGroupChar = [] := by
    cases hBehind : behind ps with
    | nil => rfl
    | cons c cs => simp [head?_behind ps (c := c) (by simp [hBehind])]
  have hTaken := congrArg (List.takeWhile isGroupChar) h
  rw [List.takeWhile_append_of_pos hg.2, List.takeWhile_append_of_pos hg'.2, hStop, hStop,
    List.append_nil, List.append_nil] at hTaken
  refine ⟨hTaken, ?_⟩
  rw [hTaken] at h
  exact List.append_cancel_left h

/-- No joint begins another one. -/
theorem Joint.append_inj {j j' : Joint} {t t' : Text} (h : j.toText ++ t = j'.toText ++ t') :
    j = j' ∧ t = t' := by
  obtain ⟨spaced, underscore⟩ := j
  obtain ⟨spaced', underscore'⟩ := j'
  cases spaced <;> cases underscore <;> cases spaced' <;> cases underscore' <;>
    simp_all [Joint.toText]

theorem behind_injective {ps ps' : List (Joint × Text)} (hps : ∀ p ∈ ps, IsGroup p.2)
    (hps' : ∀ p ∈ ps', IsGroup p.2) (h : behind ps = behind ps') : ps = ps' := by
  have hNe (p : Joint × Text) (qs : List (Joint × Text)) : behind (p :: qs) ≠ [] := by
    obtain ⟨d, t, hJoint, -⟩ := p.1.exists_head
    simp [hJoint]
  induction ps generalizing ps' with
  | nil =>
      cases ps' with
      | nil => rfl
      | cons p' ps' => exact absurd h.symm (hNe p' ps')
  | cons p ps ih =>
      cases ps' with
      | nil => exact absurd h (hNe p ps)
      | cons p' ps' =>
          rw [behind_cons, behind_cons] at h
          obtain ⟨hJoint, hBehind⟩ := Joint.append_inj h
          obtain ⟨hGroup, hRest⟩ := group_append_inj (hps p (by simp)) (hps' p' (by simp)) hBehind
          rw [Prod.ext hJoint hGroup, ih (fun q hq => hps q (by simp [hq]))
            (fun q hq => hps' q (by simp [hq])) hRest]

/-- **One reading**: two names that are written alike are the same. -/
theorem Name.toText_injective {n n' : Name} (h : n.Proper) (h' : n'.Proper)
    (hText : n.toText = n'.toText) : n = n' := by
  obtain ⟨hFirst, hRest⟩ := Name.proper_iff.1 h
  obtain ⟨hFirst', hRest'⟩ := Name.proper_iff.1 h'
  obtain ⟨hSame, hBehind⟩ := group_append_inj hFirst hFirst' hText
  have hSameRest := behind_injective hRest hRest' hBehind
  cases n
  cases n'
  exact congrArg₂ Name.mk hSame hSameRest

/-- **Recognizer and names**: what is accepted is what can be taken apart. -/
theorem wellFormed_iff {t : Text} :
    wellFormed t = true ↔ ∃ n : Name, n.Proper ∧ n.toText = t := by
  constructor
  · exact remains_of_accepts (e := .group)
  · rintro ⟨n, hProper, rfl⟩
    exact wellFormed_toText hProper

/-! ## Pattern and names -/

theorem mem_groupPattern_iff {t : Text} : t ∈ groupPattern ↔ IsGroup t := by
  constructor
  · intro h
    obtain ⟨a, ha, b, ⟨parts, rfl, hParts⟩, rfl⟩ := Language.mem_mul.1 h
    obtain ⟨c, hc, rfl⟩ := (mem_oneOf_plainChars a).1 ha
    refine ⟨List.cons_ne_nil _ _, List.forall_mem_cons.2 ⟨hc, fun d hd => ?_⟩⟩
    obtain ⟨part, hPart, hd⟩ := List.mem_flatten.1 hd
    obtain ⟨e, he, rfl⟩ := (mem_oneOf_plainChars part).1 (hParts part hPart)
    rw [List.mem_singleton.1 hd]
    exact he
  · rintro ⟨hNe, hAll⟩
    obtain ⟨c, cs, rfl⟩ := List.exists_cons_of_ne_nil hNe
    obtain ⟨hc, hcs⟩ := List.forall_mem_cons.1 hAll
    have hRest : cs ∈ (oneOf plainChars)∗ := by
      have hParts : cs = (cs.map fun d => [d]).flatten := (List.flatMap_singleton' cs).symm
      refine Language.mem_kstar.2 ⟨_, hParts, fun part hPart => ?_⟩
      obtain ⟨d, hd, rfl⟩ := List.mem_map.1 hPart
      exact (mem_oneOf_plainChars [d]).2 ⟨d, hcs d hd, rfl⟩
    exact Language.append_mem_mul ((mem_oneOf_plainChars [c]).2 ⟨c, hc, rfl⟩) hRest

theorem mem_jointPattern_iff {t : Text} :
    t ∈ jointPattern ↔ ∃ j : Joint, j.toText = t := by
  constructor
  · intro h
    obtain ⟨a, ha, b, hb, rfl⟩ := Language.mem_mul.1 h
    obtain ⟨c, hSep, rfl⟩ := (mem_oneOf_separators b).1 hb
    rcases (Language.mem_add _ _ _).1 ha with hNone | hSpace
    · rw [(Language.mem_one a).1 hNone]
      exact exists_joint hSep false
    · rw [(mem_oneOf_space a).1 hSpace]
      exact exists_joint hSep true
  · rintro ⟨⟨spaced, underscore⟩, rfl⟩
    refine Language.append_mem_mul ((Language.mem_add _ _ _).2 ?_)
      ((mem_oneOf_separators _).2 ⟨_, ?_, rfl⟩)
    · cases spaced with
      | true => exact Or.inr ((mem_oneOf_space _).2 rfl)
      | false => exact Or.inl ((Language.mem_one _).2 rfl)
    · cases underscore <;> rfl

/-- Repeating a joint and a group gives what can stand behind a first group. -/
theorem mem_repeated_iff {t : Text} :
    t ∈ (jointPattern * groupPattern)∗ ↔
      ∃ ps : List (Joint × Text), (∀ p ∈ ps, IsGroup p.2) ∧ behind ps = t := by
  constructor
  · rintro ⟨parts, rfl, hParts⟩
    induction parts with
    | nil => exact ⟨[], by simp, rfl⟩
    | cons part parts ih =>
        obtain ⟨hPart, hRest⟩ := List.forall_mem_cons.1 hParts
        obtain ⟨a, ha, g, hg, rfl⟩ := Language.mem_mul.1 hPart
        obtain ⟨j, rfl⟩ := mem_jointPattern_iff.1 ha
        obtain ⟨ps, hGroups, hBehind⟩ := ih hRest
        refine ⟨(j, g) :: ps, List.forall_mem_cons.2 ⟨mem_groupPattern_iff.1 hg, hGroups⟩, ?_⟩
        rw [behind_cons, hBehind, List.flatten_cons, List.append_assoc]
  · rintro ⟨ps, hGroups, rfl⟩
    have hParts : behind ps = (ps.map fun p => p.1.toText ++ p.2).flatten := List.flatMap_def
    refine Language.mem_kstar.2 ⟨_, hParts, fun part hPart => ?_⟩
    obtain ⟨p, hp, rfl⟩ := List.mem_map.1 hPart
    exact Language.append_mem_mul (mem_jointPattern_iff.2 ⟨p.1, rfl⟩)
      (mem_groupPattern_iff.2 (hGroups p hp))

/-- **Pattern and names**: what the pattern matches is what can be taken apart. -/
theorem mem_pattern_iff {t : Text} :
    t ∈ pattern ↔ ∃ n : Name, n.Proper ∧ n.toText = t := by
  constructor
  · intro h
    obtain ⟨g, hg, b, hb, rfl⟩ := Language.mem_mul.1 h
    obtain ⟨ps, hGroups, rfl⟩ := mem_repeated_iff.1 hb
    exact ⟨⟨g, ps⟩, Name.proper_iff.2 ⟨mem_groupPattern_iff.1 hg, hGroups⟩, rfl⟩
  · rintro ⟨n, hProper, rfl⟩
    obtain ⟨hFirst, hRest⟩ := Name.proper_iff.1 hProper
    exact Language.append_mem_mul (mem_groupPattern_iff.2 hFirst)
      (mem_repeated_iff.2 ⟨n.rest, hRest, rfl⟩)

/-! ## Neighbours -/

/-- How a name looks around its characters: it begins and ends within a group, no two
separators stand side by side, and a separator follows directly on every space. -/
structure WellSpaced (t : Text) : Prop where
  first : ∃ c ∈ t.head?, isGroupChar c = true
  last : ∃ c ∈ t.getLast?, isGroupChar c = true
  apart : ∀ s c d u, t = s ++ c :: d :: u → ¬ (isSeparator c = true ∧ isSeparator d = true)
  spaced : ∀ s u, t = s ++ ' ' :: u → ∃ c ∈ u.head?, isSeparator c = true

/-- What a character asks of the next one. -/
def Precedes (c d : Char) : Prop :=
  (isSeparator c = true → isGroupChar d = true) ∧ (c = ' ' → isSeparator d = true)

theorem precedes_of_isGroupChar {c : Char} (h : isGroupChar c = true) (d : Char) :
    Precedes c d := by
  refine ⟨fun hSep => ?_, fun hSpace => ?_⟩
  · rw [isGroupChar_of_isSeparator hSep] at h
    contradiction
  · rw [hSpace] at h
    exact absurd h (by decide)

theorem head?_of_accepts_group {t : Text} (h : accepts .group t = true) :
    ∃ c ∈ t.head?, isGroupChar c = true := by
  cases t with
  | nil => contradiction
  | cons c cs =>
      rw [accepts, Bool.and_eq_true] at h
      exact ⟨c, rfl, h.1⟩

theorem head?_of_accepts_separator {t : Text} (h : accepts .separator t = true) :
    ∃ c ∈ t.head?, isSeparator c = true := by
  cases t with
  | nil => contradiction
  | cons c cs =>
      rw [accepts, Bool.and_eq_true] at h
      exact ⟨c, rfl, h.1⟩

theorem isChain_of_accepts {e : Expect} {t : Text} (h : accepts e t = true) :
    t.IsChain Precedes := by
  have hSeparated {c : Char} {cs : Text} (hSep : isSeparator c = true)
      (hRest : accepts .group cs = true) : ∀ d ∈ cs.head?, Precedes c d := by
    intro d hd
    obtain ⟨d', hd', hGroup⟩ := head?_of_accepts_group hRest
    obtain rfl := Option.some.inj (hd.symm.trans hd')
    refine ⟨fun _ => hGroup, fun hSpace => ?_⟩
    rw [hSpace] at hSep
    exact absurd hSep (by decide)
  fun_induction accepts e t with
  | case1 => exact .nil
  | case2 => contradiction
  | case3 c cs ih =>
      rw [Bool.and_eq_true] at h
      exact List.isChain_cons.2 ⟨fun d _ => precedes_of_isGroupChar h.1 d, ih h.2⟩
  | case4 c cs ih =>
      rw [Bool.and_eq_true] at h
      exact List.isChain_cons.2 ⟨hSeparated h.1 h.2, ih h.2⟩
  | case5 c cs hChar ih =>
      exact List.isChain_cons.2 ⟨fun d _ => precedes_of_isGroupChar hChar d, ih h⟩
  | case6 c cs hChar hSep ih => exact List.isChain_cons.2 ⟨hSeparated hSep h, ih h⟩
  | case7 c cs hChar hSep ih =>
      rw [Bool.and_eq_true, beq_iff_eq] at h
      refine List.isChain_cons.2 ⟨fun d hd => ?_, ih h.2⟩
      obtain ⟨d', hd', hNext⟩ := head?_of_accepts_separator h.2
      obtain rfl := Option.some.inj (hd.symm.trans hd')
      exact ⟨fun hNow => absurd hNow hSep, fun _ => hNext⟩

/-- A name ends within a group: nothing else may be the last thing read. -/
theorem getLast?_of_accepts {e : Expect} {t : Text} (h : accepts e t = true) {c : Char}
    (hLast : c ∈ t.getLast?) : isGroupChar c = true := by
  have hLater {d : Char} {ds : Text} (hLast : c ∈ (d :: ds).getLast?) :
      ds = [] ∧ d = c ∨ c ∈ ds.getLast? := by
    cases ds with
    | nil => exact Or.inl ⟨rfl, by simpa using hLast⟩
    | cons e es => exact Or.inr (by simpa using hLast)
  fun_induction accepts e t with
  | case1 => simp at hLast
  | case2 => contradiction
  | case3 d ds ih =>
      rw [Bool.and_eq_true] at h
      rcases hLater hLast with ⟨-, rfl⟩ | hLast
      · exact h.1
      · exact ih h.2 hLast
  | case4 d ds ih =>
      rw [Bool.and_eq_true] at h
      rcases hLater hLast with ⟨rfl, -⟩ | hLast
      · exact absurd h.2 (by decide)
      · exact ih h.2 hLast
  | case5 d ds hChar ih =>
      rcases hLater hLast with ⟨-, rfl⟩ | hLast
      · exact hChar
      · exact ih h hLast
  | case6 d ds hChar hSep ih =>
      rcases hLater hLast with ⟨rfl, -⟩ | hLast
      · exact absurd h (by decide)
      · exact ih h hLast
  | case7 d ds hChar hSep ih =>
      rw [Bool.and_eq_true] at h
      rcases hLater hLast with ⟨rfl, -⟩ | hLast
      · exact absurd h.2 (by decide)
      · exact ih h.2 hLast

theorem wellSpaced_of_wellFormed {t : Text} (h : wellFormed t = true) : WellSpaced t := by
  have hFirst := head?_of_accepts_group h
  have hChain := isChain_of_accepts h
  have hLast : ∀ c ∈ t.getLast?, isGroupChar c = true := fun c hc => getLast?_of_accepts h hc
  refine ⟨hFirst, ?_, ?_, ?_⟩
  · obtain ⟨c, hc, -⟩ := hFirst
    have hNe : t ≠ [] := List.ne_nil_of_mem (List.mem_of_mem_head? hc)
    have hEnd := List.getLast?_eq_some_getLast hNe
    exact ⟨t.getLast hNe, hEnd, hLast _ hEnd⟩
  · rintro s c d u rfl ⟨hSep, hNext⟩
    have hPair := (List.isChain_cons_cons.1 hChain.right_of_append).1
    have hGroup := hPair.1 hSep
    rw [isGroupChar_of_isSeparator hNext] at hGroup
    contradiction
  · rintro s u rfl
    cases u with
    | nil => exact absurd (hLast ' ' (by simp)) (by decide)
    | cons d u =>
        have hPair := (List.isChain_cons_cons.1 hChain.right_of_append).1
        exact ⟨d, rfl, hPair.2 rfl⟩

/--
**The language of scope names**: a text is well formed exactly if the pattern matches it,
and exactly if it is a group with further groups behind it, where a joint stands between
any two: a hyphen or an underscore, either with a space before it or without.  It can be
taken apart in one way only.  Therefore it begins and ends within a group, no two
separators stand side by side, and every space is directly followed by a separator.
-/
theorem wellFormed_iff_name (t : Text) :
    (wellFormed t = true ↔ t ∈ pattern) ∧
    (wellFormed t = true ↔ ∃ n : Name, n.Proper ∧ n.toText = t) ∧
    (∀ n n' : Name, n.Proper → n'.Proper → n.toText = t → n'.toText = t → n = n') ∧
    (wellFormed t = true → WellSpaced t) := by
  refine ⟨wellFormed_iff.trans mem_pattern_iff.symm, wellFormed_iff, ?_, wellSpaced_of_wellFormed⟩
  intro n n' hProper hProper' hText hText'
  exact Name.toText_injective hProper hProper' (hText.trans hText'.symm)

end Scope

end CommitLint
