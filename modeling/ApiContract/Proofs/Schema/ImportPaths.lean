import ApiContract.Proofs.Files.Path
import ApiContract.Schema.Imports

/-!
Where the file of an import is looked for. However the location and the path of the root's file are spelled, the
path is the one that the location names when it is written in the place of the root's file name; so it does not
change with that name, it ends as the names of schema files do, and it leads to itself when it is taken for a
location again (`resolvesStably`).
-/

namespace ApiContract.Schema

open ApiContract.Files ApiContract.Files.Path

variable {s n here : String}

/-- A location with the end of the names of schema files. -/
def schemaFileName (location : String) : String :=
  if fileSuffix.toList.isSuffixOf location.toList then location else location ++ fileSuffix

lemma suffix_schemaFileName (location : String) :
    fileSuffix.toList <:+ (schemaFileName location).toList := by
  unfold schemaFileName
  split_ifs with h
  · exact List.isSuffixOf_iff_suffix.1 h
  · rw [String.toList_append]
    exact List.suffix_append _ _

lemma schemaFileName_of_suffix (h : fileSuffix.toList <:+ s.toList) : schemaFileName s = s :=
  if_pos (List.isSuffixOf_iff_suffix.2 h)

lemma isAbsolute_schemaFileName (h : isAbsolute s = true) : isAbsolute (schemaFileName s) = true := by
  unfold schemaFileName
  split_ifs
  · exact h
  · rw [isAbsolute, beq_iff_eq] at h ⊢
    rw [String.toList_append, List.head?_append, h, Option.some_or]

/-! ### Paths of imports -/

lemma importPath_eq (location root : String) :
    importPath location root = (ofText root).parent.join (ofText (schemaFileName location)) := rfl

/-- The location stands in the place of the name of the root's file. -/
lemma importPath_joinText (location dir : String) (h : IsFileName n) :
    importPath location (joinText dir n) = ofText (joinText dir (schemaFileName location)) := by
  rw [importPath_eq, parent_ofText_joinText dir h, ofText_joinText]

lemma importPath_of_isAbsolute (h : isAbsolute s = true) (root : String) :
    importPath s root = ofText (schemaFileName s) := by
  rw [importPath_eq, join, if_neg (isAbsolute_iff.1 (isAbsolute_schemaFileName h))]

lemma isNormal_importPath (location root : String) : (importPath location root).IsNormal :=
  (isNormal_ofText root).parent.join (isNormal_ofText _)

/-- The end of a location is not lost when its slashes and dots are put in order, for it is in the last part. -/
lemma exists_parts_importPath (location root : String) :
    ∃ ns n, (importPath location root).parts = ns ++ [n] ∧ fileSuffix.toList <:+ n.toList := by
  obtain ⟨a, ha⟩ := suffix_schemaFileName location
  obtain ⟨ns, n, hparts, hn⟩ := exists_partsOf_append a (b := fileSuffix.toList) (by decide) (by decide)
  rw [ha] at hparts
  rw [importPath_eq, join]
  split_ifs
  · refine ⟨(ofText root).parent.parts ++ ns, n, ?_, hn⟩
    rw [List.append_assoc, ← hparts]
    rfl
  · exact ⟨ns, n, hparts, hn⟩

lemma suffix_text_importPath (location root : String) :
    fileSuffix.toList <:+ (importPath location root).text.toList := by
  obtain ⟨ns, n, hparts, hn⟩ := exists_parts_importPath location root
  exact hn.trans (suffix_text hparts)

/-- A path of an import leads to itself from the current directory. -/
lemma importPath_text (location root : String) (h : (ofText here).parent = ofText ".") :
    importPath (importPath location root).text here = importPath location root := by
  have hname : schemaFileName (importPath location root).text = (importPath location root).text :=
    schemaFileName_of_suffix (suffix_text_importPath location root)
  rw [importPath_eq, h, hname, ofText_text (isNormal_importPath location root), join]
  split_ifs with hzero
  · -- the current directory has no slashes in front and no parts
    exact congrArg₂ Files.Path.mk hzero.symm rfl
  · rfl

/-- **How locations are resolved**, from a root file of any name in any directory. -/
structure ResolvesStably (location : String) : Prop where
  named : ∀ dir n, IsFileName n →
    importPath location (joinText dir n) = ofText (joinText dir (schemaFileName location))
  sameDirectory : ∀ dir n n', IsFileName n → IsFileName n' →
    importPath location (joinText dir n) = importPath location (joinText dir n')
  suffix : ∀ root, fileSuffix.toList <:+ (importPath location root).text.toList
  absolute : isAbsolute location = true → ∀ root root',
    importPath location root = importPath location root'
  again : ∀ root dir n, ofText dir = ofText "." → IsFileName n →
    importPath (importPath location root).text (joinText dir n) = importPath location root

/-- **Locations resolve stably, however they are spelled.** -/
theorem resolvesStably (location : String) : ResolvesStably location where
  named _ _ h := importPath_joinText location _ h
  sameDirectory dir n n' h h' := by rw [importPath_joinText location dir h, importPath_joinText location dir h']
  suffix := suffix_text_importPath location
  absolute h root root' := by rw [importPath_of_isAbsolute h, importPath_of_isAbsolute h]
  again root dir n hdir h := importPath_text location root ((parent_ofText_joinText dir h).trans hdir)

/-- A location that begins with a dot and has two slashes, from two files of a directory with two slashes in
front; and a location from the root on that ends in a slash. -/
theorem resolvesStably_spelled :
    IsFileName "m.xsd" ∧ IsFileName ".." ∧ ofText ".//." = ofText "." ∧ isAbsolute "///a/" = true ∧
    importPath "./x//t" (joinText "//s/." "m.xsd") = importPath "./x//t" (joinText "//s/." "..") ∧
    importPath "//s/x/t.xsd" (joinText ".//." "m.xsd") = ofText "//s/x/t.xsd" ∧
    importPath "///a/" "m.xsd" = importPath "///a/" "//s/n.xsd" := by
  have hm : IsFileName "m.xsd" := by decide
  have hdots : IsFileName ".." := by decide
  have hhere : ofText ".//." = ofText "." := by decide +kernel
  have habsolute : isAbsolute "///a/" = true := by decide
  have hpath : importPath "./x//t" (joinText "//s/." "m.xsd") = ofText "//s/x/t.xsd" := by decide +kernel
  have hagain := (resolvesStably "./x//t").again (joinText "//s/." "m.xsd") ".//." "m.xsd" hhere hm
  rw [hpath] at hagain
  exact ⟨hm, hdots, hhere, habsolute, (resolvesStably "./x//t").sameDirectory _ _ _ hm hdots, hagain,
    (resolvesStably "///a/").absolute habsolute _ _⟩

end ApiContract.Schema
