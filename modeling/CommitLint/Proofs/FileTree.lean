import CommitLint.Files.Tree

/-!
# What file operations keep

Where a path leads to is decided by the path alone: `placeOf` follows its steps
without looking at any file.  A tree only tells whether the steps can be taken and
what is found at the end.  So two paths are about one file exactly if they lead to
one place, and an operation on one path leaves the files at all other places alone.

No operation takes a directory away (`KeepsDirectories`).  Therefore a path that
could be followed once can be followed for good, and what was done successfully
once can be done again: a directory that has been made need not be made, and a
file that has been written can be written.

Main results: `Tree.modify_eq_ok_iff`, `Tree.read_modify`, `Tree.append_spec`,
`Tree.makeDirectories_spec`.
A series of operations is described by the places whose files it may change
(`Tree.ChangedAt`).
-/

namespace CommitLint.Files

/-- The place that a path leads to, whatever is there. -/
def placeOf (path : Text) : Place := (Text.pieces '/' path).foldl Place.step (.start path)

namespace Tree

variable {t t' : Tree}

/-! ## Following a path -/

/-- Every directory of one tree is a directory of the other. -/
def KeepsDirectories (t t' : Tree) : Prop :=
  ∀ p, t.get? p = some .directory → t'.get? p = some .directory

theorem KeepsDirectories.refl (t : Tree) : KeepsDirectories t t := fun _ h => h

theorem KeepsDirectories.trans {t'' : Tree} (h : KeepsDirectories t t')
    (h' : KeepsDirectories t' t'') : KeepsDirectories t t'' := fun p hp => h' p (h p hp)

theorem follow_eq_ok {p q : Place} {steps : List Text} {e : Option Entry}
    (h : t.follow p steps = .ok (q, e)) : q = steps.foldl Place.step p ∧ e = t.get? q := by
  induction steps generalizing p with
  | nil =>
      rw [follow, Except.ok.injEq, Prod.mk.injEq] at h
      exact ⟨h.1.symm, by rw [← h.1, ← h.2]⟩
  | cons step steps ih =>
      rw [follow] at h
      split at h
      · contradiction
      · contradiction
      · split at h
        · contradiction
        · exact ih h

/-- A path that can be followed can be followed where the directories are still
there. -/
theorem KeepsDirectories.follow (hKeeps : KeepsDirectories t t') {p q : Place}
    {steps : List Text} {e : Option Entry} (h : t.follow p steps = .ok (q, e)) :
    t'.follow p steps = .ok (q, t'.get? q) := by
  induction steps generalizing p with
  | nil =>
      rw [Tree.follow, Except.ok.injEq, Prod.mk.injEq] at h
      rw [Tree.follow, h.1]
  | cons step steps ih =>
      rw [Tree.follow] at h
      split at h
      · contradiction
      · contradiction
      · rename_i hDirectory
        split at h
        · contradiction
        · rename_i hShort
          rw [Tree.follow, hKeeps p hDirectory]
          simp only [hShort, if_false]
          exact ih h

theorem find_eq_ok {path : Text} {q : Place} {e : Option Entry} (h : t.find path = .ok (q, e)) :
    q = placeOf path ∧ e = t.get? (placeOf path) := by
  unfold find at h
  split at h
  · contradiction
  split at h
  · contradiction
  split at h
  · contradiction
  · obtain ⟨hPlace, hEntry⟩ := follow_eq_ok h
    have hSame : q = placeOf path := hPlace
    exact ⟨hSame, hSame ▸ hEntry⟩

theorem KeepsDirectories.find (hKeeps : KeepsDirectories t t') {path : Text} {q : Place}
    {e : Option Entry} (h : t.find path = .ok (q, e)) :
    t'.find path = .ok (placeOf path, t'.get? (placeOf path)) := by
  have hPlace := (find_eq_ok h).1
  unfold Tree.find at h ⊢
  split at h
  · contradiction
  split at h
  · contradiction
  split at h
  · contradiction
  · rename_i hSome hUsable hShort
    rw [if_neg hSome, if_neg hUsable, if_neg hShort, hKeeps.follow h, hPlace]

theorem get?_eq_file_iff {p : Place} {content : Text} :
    t.get? p = some (.file content) ↔ t.files.lookup p = some content := by
  unfold get?
  split
  · rename_i c hFile
    simp [hFile]
  · rename_i hNone
    split
    · simp [hNone]
    · simp [hNone]

theorem lookup_eq_none {p : Place} (hNone : ∀ content, t.get? p ≠ some (.file content)) :
    t.files.lookup p = none := by
  cases hFile : t.files.lookup p with
  | none => rfl
  | some content => exact absurd (get?_eq_file_iff.2 hFile) (hNone content)

/-! ## Changing a file -/

/-- Replacing the content of a file in a list of files. -/
theorem lookup_replaced {fs : List (Place × Text)} {p : Place} {old : Text}
    (hThere : fs.lookup p = some old) (content : Text) :
    (fs.map fun f => if f.1 = p then (p, content) else f).lookup p = some content := by
  induction fs with
  | nil => contradiction
  | cons f fs ih =>
      obtain ⟨k, c⟩ := f
      by_cases hk : k = p
      · simp [hk]
      · have hb : (p == k) = false := beq_false_of_ne (Ne.symm hk)
        have hRest : fs.lookup p = some old := by
          rw [List.lookup_cons, hb] at hThere
          exact hThere
        rw [List.map_cons, if_neg hk, List.lookup_cons, hb]
        exact ih hRest

theorem lookup_replaced_of_ne {p q : Place} (hNe : q ≠ p) (fs : List (Place × Text))
    (content : Text) :
    (fs.map fun f => if f.1 = p then (p, content) else f).lookup q = fs.lookup q := by
  induction fs with
  | nil => rfl
  | cons f fs ih =>
      obtain ⟨k, c⟩ := f
      by_cases hk : k = p
      · have hb : (q == p) = false := beq_false_of_ne hNe
        subst hk
        rw [List.map_cons, if_pos rfl, List.lookup_cons, List.lookup_cons, hb]
        exact ih
      · rw [List.map_cons, if_neg hk, List.lookup_cons, List.lookup_cons, ih]

theorem lookup_put_self (t : Tree) (p : Place) (content : Text) :
    (t.put p content).files.lookup p = some content := by
  unfold put
  split
  · rename_i hThere
    obtain ⟨old, hOld⟩ := Option.isSome_iff_exists.1 hThere
    exact lookup_replaced hOld content
  · rename_i hAbsent
    have hNone : t.files.lookup p = none := Option.not_isSome_iff_eq_none.1 hAbsent
    simp only [List.lookup_append, hNone, List.lookup_cons, beq_self_eq_true, Option.none_or]

theorem lookup_put_of_ne (t : Tree) {p q : Place} (hNe : q ≠ p) (content : Text) :
    (t.put p content).files.lookup q = t.files.lookup q := by
  unfold put
  split
  · exact lookup_replaced_of_ne hNe t.files content
  · have hb : (q == p) = false := beq_false_of_ne hNe
    simp [List.lookup_append, List.lookup_cons, hb]

/-- Only the last of several contents is left. -/
theorem put_put (t : Tree) (p : Place) (content more : Text) :
    (t.put p content).put p more = t.put p more := by
  have hThere : ((t.put p content).files.lookup p).isSome := by
    rw [lookup_put_self]
    rfl
  rw [put, if_pos hThere]
  unfold put
  split
  · rw [List.map_map]
    congr 2
    funext f
    by_cases hf : f.1 = p <;> simp [hf]
  · rename_i hAbsent
    have hOthers : (t.files.map fun f => if f.1 = p then (p, more) else f) = t.files := by
      rw [Option.not_isSome_iff_eq_none, List.lookup_eq_none_iff] at hAbsent
      refine (List.map_congr_left fun f hf => ?_).trans (List.map_id t.files)
      exact if_neg fun hEq => by simpa [hEq] using hAbsent f hf
    rw [List.map_append, hOthers]
    simp

/-- The places of the files do not get fewer. -/
theorem any_files_put {p : Place} {content : Text} {f : Place → Bool}
    (h : (t.files.any fun e => f e.1) = true) :
    ((t.put p content).files.any fun e => f e.1) = true := by
  rw [List.any_eq_true] at h ⊢
  obtain ⟨e, he, hf⟩ := h
  unfold put
  split
  · by_cases hk : e.1 = p
    · exact ⟨(p, content), List.mem_map.2 ⟨e, he, by simp [hk]⟩, hk ▸ hf⟩
    · exact ⟨e, List.mem_map.2 ⟨e, he, by simp [hk]⟩, hf⟩
  · exact ⟨e, by simp [he], hf⟩

theorem directories_put (t : Tree) (p : Place) (content : Text) :
    (t.put p content).directories = t.directories := by
  unfold put
  split <;> rfl

/-- A place without a file is a directory for one of four reasons. -/
theorem get?_eq_directory_iff {p : Place} :
    t.get? p = some .directory ↔ t.files.lookup p = none ∧
      (p.names.isEmpty = true ∨ t.directories.contains p = true ∨
        (t.files.any fun f => isOnWay p f.1) = true ∨ t.directories.any (isOnWay p) = true) := by
  unfold get?
  split
  · rename_i c hFile
    simp [hFile]
  · rename_i hNone
    simp only [Bool.or_eq_true, or_assoc]
    split
    · rename_i hDirectory
      exact iff_of_true rfl ⟨hNone, hDirectory⟩
    · rename_i hNothing
      exact iff_of_false (by simp) fun h => hNothing h.2

theorem keepsDirectories_put {p : Place} (hNot : t.get? p ≠ some .directory) (content : Text) :
    KeepsDirectories t (t.put p content) := by
  intro q hq
  have hNe : q ≠ p := fun hEq => hNot (hEq ▸ hq)
  obtain ⟨hNone, hWhy⟩ := get?_eq_directory_iff.1 hq
  rw [get?_eq_directory_iff, lookup_put_of_ne t hNe, directories_put]
  refine ⟨hNone, ?_⟩
  rcases hWhy with hBase | hMade | hFile | hBelow
  · exact Or.inl hBase
  · exact Or.inr (Or.inl hMade)
  · exact Or.inr (Or.inr (Or.inl (any_files_put hFile)))
  · exact Or.inr (Or.inr (Or.inr hBelow))

/-- **What changing a file does**: it works where the path can be followed to
something that is no directory, and sets the content there. -/
theorem modify_eq_ok_iff {path : Text} {f : Text → Text} :
    t.modify path f = .ok t' ↔
      ∃ e, t.find path = .ok (placeOf path, e) ∧ e ≠ some .directory ∧
        t' = t.put (placeOf path) (f ((t.files.lookup (placeOf path)).getD [])) := by
  cases hFind : t.find path with
  | error e => simp [modify, hFind]
  | ok found =>
      obtain ⟨q, e⟩ := found
      obtain ⟨rfl, hEntry⟩ := find_eq_ok hFind
      cases e with
      | none =>
          have hNone : t.files.lookup (placeOf path) = none :=
            lookup_eq_none fun c hc => by simp [← hEntry] at hc
          simp [modify, hFind, hNone, eq_comm]
      | some entry =>
          cases entry with
          | directory => simp [modify, hFind]
          | file content =>
              have hFile := get?_eq_file_iff.1 hEntry.symm
              simp [modify, hFind, hFile, eq_comm]

/-- Other files stay as they are. -/
theorem lookup_modify {path : Text} {f : Text → Text} (h : t.modify path f = .ok t') {q : Place}
    (hNe : q ≠ placeOf path) : t'.files.lookup q = t.files.lookup q := by
  obtain ⟨e, -, -, rfl⟩ := modify_eq_ok_iff.1 h
  exact lookup_put_of_ne t hNe _

theorem keepsDirectories_modify {path : Text} {f : Text → Text} (h : t.modify path f = .ok t') :
    KeepsDirectories t t' := by
  obtain ⟨e, hFind, hNot, rfl⟩ := modify_eq_ok_iff.1 h
  apply keepsDirectories_put
  rw [← (find_eq_ok hFind).2]
  exact hNot

theorem read_eq_ok_iff {path content : Text} :
    t.read path = .ok content ↔ t.find path = .ok (placeOf path, some (.file content)) := by
  cases hFind : t.find path with
  | error e => simp [read, hFind]
  | ok found =>
      obtain ⟨q, e⟩ := found
      obtain ⟨rfl, -⟩ := find_eq_ok hFind
      cases e with
      | none => simp [read, hFind]
      | some entry =>
          cases entry with
          | directory => simp [read, hFind]
          | file c => simp [read, hFind]

theorem lookup_of_read {path content : Text} (h : t.read path = .ok content) :
    t.files.lookup (placeOf path) = some content :=
  get?_eq_file_iff.1 (find_eq_ok (read_eq_ok_iff.1 h)).2.symm

/-- A file is read as it was left, wherever directories have been kept. -/
theorem KeepsDirectories.read (hKeeps : KeepsDirectories t t') {path : Text} {q : Place}
    {e : Option Entry} (hFind : t.find path = .ok (q, e)) {content : Text}
    (hFile : t'.files.lookup (placeOf path) = some content) : t'.read path = .ok content := by
  rw [read_eq_ok_iff, hKeeps.find hFind, get?_eq_file_iff.2 hFile]

/-- What has been written is read. -/
theorem read_modify {path : Text} {f : Text → Text} (h : t.modify path f = .ok t') :
    t'.read path = .ok (f ((t.files.lookup (placeOf path)).getD [])) := by
  obtain ⟨e, hFind, -, hTree⟩ := modify_eq_ok_iff.1 h
  apply (keepsDirectories_modify h).read hFind
  rw [hTree]
  exact lookup_put_self t _ _

/-! ## Adding to a file -/

/-- The content of the file at a place; where no file is, there is nothing. -/
def contentAt (t : Tree) (q : Place) : Text := (t.files.lookup q).getD []

/-- A path that can be written to: it leads to a file, or to where one can be made. -/
def IsWritable (t : Tree) (path : Text) : Prop :=
  ∃ e, t.find path = .ok (placeOf path, e) ∧ e ≠ some .directory

theorem append_eq_ok_iff {path content : Text} :
    t.append path content = .ok t' ↔
      t.IsWritable path ∧ t' = t.put (placeOf path) (t.contentAt (placeOf path) ++ content) := by
  rw [append, modify_eq_ok_iff]
  constructor
  · rintro ⟨e, hFind, hFile, hPut⟩
    exact ⟨⟨e, hFind, hFile⟩, hPut⟩
  · rintro ⟨⟨e, hFind, hFile⟩, hPut⟩
    exact ⟨e, hFind, hFile, hPut⟩

theorem IsWritable.append {path : Text} (h : t.IsWritable path) (content : Text) :
    t.append path content = .ok (t.put (placeOf path) (t.contentAt (placeOf path) ++ content)) :=
  append_eq_ok_iff.2 ⟨h, rfl⟩

/-- What has been written can be written to. -/
theorem isWritable_of_write {path content : Text} (h : t.write path content = .ok t') :
    t'.IsWritable path := ⟨_, read_eq_ok_iff.1 (read_modify h), by simp⟩

/-- Whether a file can be written does not depend on the content. -/
theorem write_cases (t : Tree) (path : Text) :
    (∃ f, ∀ content, t.write path content = .error f) ∨
      ∀ content, t.write path content = .ok (t.put (placeOf path) content) := by
  cases hFind : t.find path with
  | error f => exact Or.inl ⟨f, fun content => by rw [write, modify, hFind]⟩
  | ok found =>
      obtain ⟨q, e⟩ := found
      obtain ⟨rfl, -⟩ := find_eq_ok hFind
      by_cases hFile : e = some .directory
      · subst hFile
        exact Or.inl ⟨.isDirectory, fun content => by rw [write, modify, hFind]⟩
      · exact Or.inr fun content => modify_eq_ok_iff.2 ⟨e, hFind, hFile, rfl⟩

/-- A tree after something has been added to the file that a path leads to. -/
structure Extended (path added : Text) (t t' : Tree) : Prop where
  content : t'.contentAt (placeOf path) = t.contentAt (placeOf path) ++ added
  others : ∀ q ≠ placeOf path, t'.files.lookup q = t.files.lookup q

theorem Extended.of_files (path : Text) (h : t'.files = t.files) : Extended path [] t t' where
  content := by rw [contentAt, contentAt, h, List.append_nil]
  others q _ := by rw [h]

theorem Extended.trans {t'' : Tree} {path added more : Text} (h : Extended path added t t')
    (h' : Extended path more t' t'') : Extended path (added ++ more) t t'' where
  content := by rw [h'.content, h.content, List.append_assoc]
  others q hq := (h'.others q hq).trans (h.others q hq)

/-- **What adding does**: the file holds what is added after all that it held before, it
can be read, and it can be added to again. -/
theorem append_spec {path added : Text} (h : t.append path added = .ok t') :
    Extended path added t t' ∧ t'.IsWritable path ∧
      t'.read path = .ok (t'.contentAt (placeOf path)) := by
  have hPut := (append_eq_ok_iff.1 h).2
  have hContent : t'.files.lookup (placeOf path) =
      some (t.contentAt (placeOf path) ++ added) := by
    rw [hPut]
    exact lookup_put_self t _ _
  have hAfter : t'.contentAt (placeOf path) = t.contentAt (placeOf path) ++ added := by
    rw [contentAt, hContent]
    rfl
  have hRead : t'.read path = .ok (t'.contentAt (placeOf path)) := by
    rw [hAfter]
    exact read_modify h
  refine ⟨⟨hAfter, fun q hq => lookup_modify h hq⟩, ⟨_, read_eq_ok_iff.1 hRead, ?_⟩, hRead⟩
  simp

/-! ## Making directories -/

theorem makeDirectory_eq_ok {path : Text} (h : t.makeDirectory path = .ok t') :
    t.find path = .ok (placeOf path, none) ∧
      t' = { t with directories := t.directories ++ [placeOf path] } := by
  unfold makeDirectory at h
  split at h
  · contradiction
  · contradiction
  · rename_i p hFind
    obtain ⟨rfl, -⟩ := find_eq_ok hFind
    exact ⟨hFind, (Except.ok.inj h).symm⟩

/-- A place that is looked at through a path. -/
theorem look_eq_some_iff {path : Text} {entry : Entry} :
    t.look path = some entry ↔ t.find path = .ok (placeOf path, some entry) := by
  cases hFind : t.find path with
  | error e => simp [look, hFind]
  | ok found =>
      obtain ⟨q, e⟩ := found
      obtain ⟨rfl, -⟩ := find_eq_ok hFind
      simp [look, hFind]

/-- What has been changed is found. -/
theorem look_modify {path : Text} {f : Text → Text} (h : t.modify path f = .ok t') :
    t'.look path = some (.file (f ((t.files.lookup (placeOf path)).getD []))) :=
  look_eq_some_iff.2 (read_eq_ok_iff.1 (read_modify h))

/-- What has been written is found. -/
theorem look_write {path content : Text} (h : t.write path content = .ok t') :
    t'.look path = some (.file content) := look_modify h

theorem KeepsDirectories.look (hKeeps : KeepsDirectories t t') {path : Text}
    (h : t.look path = some .directory) : t'.look path = some .directory := by
  have hFind := look_eq_some_iff.1 h
  rw [look_eq_some_iff, hKeeps.find hFind, hKeeps _ (find_eq_ok hFind).2.symm]

theorem keepsDirectories_append (t : Tree) (p : Place) :
    KeepsDirectories t { t with directories := t.directories ++ [p] } := by
  intro q hq
  obtain ⟨hNone, hWhy⟩ := get?_eq_directory_iff.1 hq
  rw [get?_eq_directory_iff]
  refine ⟨hNone, ?_⟩
  rcases hWhy with hBase | hMade | hFile | hBelow
  · exact Or.inl hBase
  · exact Or.inr (Or.inl (by simp at hMade ⊢; exact Or.inl hMade))
  · exact Or.inr (Or.inr (Or.inl hFile))
  · exact Or.inr (Or.inr (Or.inr (by rw [List.any_append, hBelow, Bool.true_or])))

/-- Making a directory changes no file and leads to a directory. -/
theorem makeDirectory_spec {path : Text} (h : t.makeDirectory path = .ok t') :
    t'.files = t.files ∧ KeepsDirectories t t' ∧ t'.look path = some .directory := by
  obtain ⟨hFind, rfl⟩ := makeDirectory_eq_ok h
  have hKeeps := keepsDirectories_append t (placeOf path)
  refine ⟨rfl, hKeeps, ?_⟩
  have hNone : t.files.lookup (placeOf path) = none :=
    lookup_eq_none fun c hc => by simp [← (find_eq_ok hFind).2] at hc
  have hMade : ({ t with directories := t.directories ++ [placeOf path] } : Tree).get?
      (placeOf path) = some .directory :=
    get?_eq_directory_iff.2 ⟨hNone, Or.inr (Or.inl (by simp))⟩
  rw [look_eq_some_iff, hKeeps.find hFind, hMade]

/-! ### A directory and those above it -/

/-- The path of the directory that parts lead to, given in reverse. -/
def pathOfParts (absolute : Bool) (parts : List Text) : Text :=
  (Path.mk absolute parts.reverse).toText

/-- Directories that are there need not be made. -/
theorem makeDirectories_of_look {absolute : Bool} {last : Text} {before : List Text}
    (h : t.look (pathOfParts absolute (last :: before)) = some .directory) :
    t.makeDirectories absolute (last :: before) = .ok t := by
  have hFind := look_eq_some_iff.1 h
  rw [pathOfParts] at h hFind
  have hMake : t.makeDirectory (Path.mk absolute (last :: before).reverse).toText =
      .error .alreadyThere := by
    rw [makeDirectory, hFind]
  rw [makeDirectories]
  simp only [hMake, h, if_true]

/-- The last directory of a path is made, or it is there, once those above it have been
made where they were missing. -/
theorem makeDirectories_cons_eq_ok {absolute : Bool} {last : Text} {before : List Text}
    (h : t.makeDirectories absolute (last :: before) = .ok t') :
    ∃ s, (s = t ∨ t.makeDirectories absolute before = .ok s) ∧
      (s.makeDirectory (pathOfParts absolute (last :: before)) = .ok t' ∨
        t' = s ∧ s.look (pathOfParts absolute (last :: before)) = some .directory) := by
  rw [makeDirectories] at h
  dsimp only at h
  split at h
  · split at h
    · contradiction
    · rename_i s hAbove
      refine ⟨s, Or.inr hAbove, ?_⟩
      split at h
      · rename_i u hNew
        exact Or.inl (Except.ok.inj h ▸ hNew)
      · split at h
        · rename_i hThere
          exact Or.inr ⟨(Except.ok.inj h).symm, hThere⟩
        · contradiction
  · refine ⟨t, Or.inl rfl, ?_⟩
    split at h
    · rename_i u hNew
      exact Or.inl (Except.ok.inj h ▸ hNew)
    · split at h
      · rename_i hThere
        exact Or.inr ⟨(Except.ok.inj h).symm, hThere⟩
      · contradiction

/-- **Making directories** changes no file, keeps the directories, and leads to the
directory that was asked for. -/
theorem makeDirectories_spec {absolute : Bool} {parts : List Text}
    (h : t.makeDirectories absolute parts = .ok t') :
    t'.files = t.files ∧ KeepsDirectories t t' ∧
      (parts ≠ [] → t'.look (pathOfParts absolute parts) = some .directory) := by
  induction parts generalizing t t' with
  | nil =>
      rw [makeDirectories, Except.ok.injEq] at h
      subst h
      exact ⟨rfl, .refl t, fun hNe => absurd rfl hNe⟩
  | cons last before ih =>
      obtain ⟨s, hAbove, hLast⟩ := makeDirectories_cons_eq_ok h
      have hBefore : s.files = t.files ∧ KeepsDirectories t s := by
        rcases hAbove with rfl | hMade
        · exact ⟨rfl, .refl s⟩
        · obtain ⟨hFiles, hKeeps, -⟩ := ih hMade
          exact ⟨hFiles, hKeeps⟩
      rcases hLast with hNew | ⟨rfl, hThere⟩
      · obtain ⟨hFiles, hKeeps, hLook⟩ := makeDirectory_spec hNew
        exact ⟨hFiles.trans hBefore.1, hBefore.2.trans hKeeps, fun _ => hLook⟩
      · exact ⟨hBefore.1, hBefore.2, fun _ => hThere⟩

/-- What has been made once need not be made again. -/
theorem KeepsDirectories.makeDirectories {t'' : Tree} (hKeeps : KeepsDirectories t' t'')
    {absolute : Bool} {parts : List Text} (h : t.makeDirectories absolute parts = .ok t') :
    t''.makeDirectories absolute parts = .ok t'' := by
  cases parts with
  | nil => rfl
  | cons last before =>
      apply makeDirectories_of_look
      exact hKeeps.look ((makeDirectories_spec h).2.2 (by simp))

/-! ## Series of operations -/

/-- A tree after some operations: files have changed at some places only, and no
file and no directory is gone. -/
structure ChangedAt (places : Place → Prop) (t t' : Tree) : Prop where
  files : ∀ q, ¬ places q → t'.files.lookup q = t.files.lookup q
  kept : ∀ q, (t.files.lookup q).isSome → (t'.files.lookup q).isSome
  directories : KeepsDirectories t t'

namespace ChangedAt

variable {places : Place → Prop}

theorem refl (places : Place → Prop) (t : Tree) : ChangedAt places t t :=
  ⟨fun _ _ => rfl, fun _ h => h, .refl t⟩

theorem trans {t'' : Tree} (h : ChangedAt places t t') (h' : ChangedAt places t' t'') :
    ChangedAt places t t'' where
  files q hq := (h'.files q hq).trans (h.files q hq)
  kept q hq := h'.kept q (h.kept q hq)
  directories := h.directories.trans h'.directories

theorem mono {more : Place → Prop} (h : ChangedAt places t t') (hMore : ∀ q, places q → more q) :
    ChangedAt more t t' where
  files q hq := h.files q fun hp => hq (hMore q hp)
  kept := h.kept
  directories := h.directories

theorem modify {path : Text} {f : Text → Text} (h : t.modify path f = .ok t') :
    ChangedAt (· = placeOf path) t t' where
  files _ hq := lookup_modify h hq
  kept q hq := by
    obtain ⟨e, -, -, rfl⟩ := modify_eq_ok_iff.1 h
    by_cases hPlace : q = placeOf path
    · rw [hPlace, lookup_put_self]
      rfl
    · rw [lookup_put_of_ne t hPlace]
      exact hq
  directories := keepsDirectories_modify h

theorem makeDirectories {absolute : Bool} {parts : List Text}
    (h : t.makeDirectories absolute parts = .ok t') : ChangedAt places t t' where
  files q _ := by rw [(makeDirectories_spec h).1]
  kept q hq := by
    rw [(makeDirectories_spec h).1]
    exact hq
  directories := (makeDirectories_spec h).2.1

end ChangedAt

end Tree

end CommitLint.Files
