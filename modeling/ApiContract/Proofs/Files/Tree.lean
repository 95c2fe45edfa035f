import ApiContract.Files.Tree
import ApiContract.Proofs.Fields

/-!
What changes in a tree. Making directories leaves every file as it is, whether all of them can be made
or not (`sameFiles_prepare`), and writing a file changes that file and no other one
(`writes_setFile`).
-/

namespace ApiContract.Files.Tree

variable {t t' t'' : Tree} {p : Path} {place other : Place} {content : List UInt8}

/-! ### Files at places -/

/-- The content of the file at a place, if there is one. -/
def fileAt? (t : Tree) (place : Place) : Option (List UInt8) :=
  match t.entry? place with
  | some (.file bs) => some bs
  | _ => none

/-- The same files are in both trees, with the same contents. -/
def SameFiles (t t' : Tree) : Prop := ∀ place, t'.fileAt? place = t.fileAt? place

/-- The second tree has a file of this content at the path, and everywhere else the files of the
first. -/
def Writes (t t' : Tree) (p : Path) (content : List UInt8) : Prop :=
  ∃ place, t'.locate p = .ok place ∧
    ∀ other, t'.fileAt? other = if other = place then some content else t.fileAt? other

lemma SameFiles.refl (t : Tree) : t.SameFiles t := fun _ => rfl

lemma SameFiles.trans (h : t.SameFiles t') (h' : t'.SameFiles t'') : t.SameFiles t'' :=
  fun place => (h' place).trans (h place)

lemma SameFiles.writes (h : t.SameFiles t') (hw : t'.Writes t'' p content) :
    t.Writes t'' p content := by
  obtain ⟨place, hp, hfiles⟩ := hw
  refine ⟨place, hp, fun other => ?_⟩
  rw [hfiles, h other]

/-! ### One entry -/

lemma entry?_set (t : Tree) (place other : Place) (e : Entry) :
    entry? (t.set place e) other =
      if other = place ∧ place.isPrefixOf t.home = false then some e else t.entry? other := by
  unfold entry? set
  simp only [List.lookup_cons, lookup_filter_bne, beq_iff_eq]
  by_cases ho : other = place
  · subst ho
    cases hp : other.isPrefixOf t.home <;> simp
  · rw [beq_false_of_ne ho]
    simp [ho]

lemma fileAt?_eq_of_entry? (h : t'.entry? place = t.entry? place) :
    t'.fileAt? place = t.fileAt? place := by
  rw [fileAt?, h, fileAt?]

/-- A directory in an empty place changes no file. -/
lemma sameFiles_set_directory (h : t.entry? place = none) :
    t.SameFiles (t.set place .directory) := by
  intro other
  by_cases hc : other = place ∧ place.isPrefixOf t.home = false
  · have hset := entry?_set t place other .directory
    rw [if_pos hc] at hset
    rw [fileAt?, hset, fileAt?, hc.1, h]
  · exact fileAt?_eq_of_entry? (by rw [entry?_set, if_neg hc])

/-! ### Directories -/

lemma sameFiles_addDirectory (h : t.addDirectory p = .ok t') : t.SameFiles t' := by
  unfold addDirectory at h
  split at h
  · cases h
  · split at h
    · cases h
    · rename_i hnone
      cases h
      exact sameFiles_set_directory hnone

lemma sameFiles_ensureDirectory (t : Tree) (p : Path) : t.SameFiles (t.ensureDirectory p).1 := by
  unfold ensureDirectory
  split
  · exact sameFiles_addDirectory ‹_›
  · exact .refl t

/-- Every step on the way to a directory leaves the files as they are, also if the way is blocked
further on. -/
lemma sameFiles_addDirectories (t : Tree) (p : Path) (n : ℕ) :
    t.SameFiles (t.addDirectories p n).1 := by
  induction n generalizing t p with
  | zero => exact sameFiles_ensureDirectory t p
  | succ n ih =>
    unfold addDirectories
    split
    · have hparent := ih t p.parent
      split
      · rename_i t₁ _ heq
        rw [heq] at hparent
        exact hparent.trans (sameFiles_ensureDirectory t₁ p)
      · rename_i heq
        rw [heq] at hparent
        exact hparent
    · exact sameFiles_ensureDirectory t p

theorem sameFiles_prepare (t : Tree) (p : Path) : t.SameFiles (t.prepare p).1 :=
  sameFiles_addDirectories t p.parent p.parts.length

/-! ### Files -/

/-- A way leads to the same place after something is put at a place that is no directory: no way goes
through such a place. -/
lemma walk_set {e : Entry} {start : Place} {parts : List String}
    (h : t.entry? place ≠ some .directory) (hw : t.walk start parts = .ok other) :
    (t.set place e).walk start parts = .ok other := by
  induction parts generalizing start with
  | nil => exact hw
  | cons part parts ih =>
    unfold walk at hw ⊢
    split at hw
    · cases hw
    · rename_i q hq
      have hstart : entry? (t.set place e) start = t.entry? start := by
        rw [entry?_set, if_neg]
        rintro ⟨rfl, -⟩
        unfold next at hq
        split at hq
        · cases hq
        · cases hq
        · exact h ‹_›
      have hnext : (t.set place e).next start part = .ok q := by
        rw [next, hstart]
        exact hq
      rw [hnext]
      exact ih hw

theorem writes_setFile (h : t.target p = .ok place) (content : List UInt8) :
    t.Writes (t.setFile place content) p content := by
  unfold setFile
  unfold target at h
  split at h
  · cases h
  · rename_i place hplace
    split at h
    · cases h
    · rename_i hentry
      cases h
      have hfree : place.isPrefixOf t.home = false := by
        refine Bool.eq_false_iff.2 fun hp => hentry ?_
        simp only [Tree.entry?, if_pos hp]
      refine ⟨place, ?_, fun other => ?_⟩
      · unfold locate at hplace ⊢
        split_ifs at hplace ⊢ with h₁ h₂ h₃
        · exact walk_set hentry hplace
        · exact walk_set hentry hplace
      · rw [fileAt?, entry?_set]
        by_cases ho : other = place
        · rw [if_pos ⟨ho, hfree⟩, if_pos ho]
        · rw [if_neg fun hc => ho hc.1, if_neg ho, fileAt?]

end ApiContract.Files.Tree
