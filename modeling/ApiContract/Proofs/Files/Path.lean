import ApiContract.Files.Path
import Mathlib.Tactic.Common

/-!
Paths and the texts that name them. A path that a text names has parts that are names of files, and it is
named by its own text (`ofText_text`): all spellings of a path lead to one text. Writing a text behind that
of a directory names the path that leads on from the directory (`ofText_joinText`), however many slashes and
single dots are in either of them.
-/

namespace ApiContract.Files

variable {a b cs : List Char} {n : String} {ns : List String}

lemma splitAt_eq_splitOn (sep : Char) (cs : List Char) : splitAt sep cs = cs.splitOn sep := by
  induction cs with
  | nil => rfl
  | cons c cs ih =>
    rw [splitAt, ih, List.splitOn_cons_eq_if_modifyHead]
    by_cases hc : c = sep
    · rw [if_pos hc, if_pos (beq_iff_eq.2 hc)]
    · rw [if_neg hc, if_neg (mt beq_iff_eq.1 hc)]
      cases h : cs.splitOn sep with
      | nil => exact absurd h (List.splitOn_ne_nil _ _)
      | cons piece pieces => rfl

lemma not_mem_of_mem_splitAt {sep : Char} {piece : List Char} (h : piece ∈ splitAt sep cs) : sep ∉ piece := by
  induction cs generalizing piece with
  | nil =>
    rw [splitAt, List.mem_singleton] at h
    rw [h]
    exact List.not_mem_nil
  | cons c cs ih =>
    rw [splitAt] at h
    split_ifs at h with hc
    · rcases List.mem_cons.1 h with rfl | h
      · exact List.not_mem_nil
      · exact ih h
    · split at h
      · rename_i first pieces heq
        rcases List.mem_cons.1 h with rfl | h
        · rw [List.mem_cons, not_or]
          exact ⟨Ne.symm hc, ih (heq ▸ List.mem_cons_self)⟩
        · exact ih (heq ▸ List.mem_cons_of_mem _ h)
      · rw [List.mem_singleton] at h
        rw [h, List.mem_singleton]
        exact Ne.symm hc

/-! ### Names of files -/

/-- A text that can be the last part of a path: it has no slash, and is neither empty nor a single dot. -/
def IsFileName (n : String) : Prop := n ≠ "" ∧ n ≠ "." ∧ '/' ∉ n.toList

instance (n : String) : Decidable (IsFileName n) := inferInstanceAs (Decidable (_ ∧ _ ∧ _))

namespace Path

lemma isPart_toList_iff : isPart n.toList = true ↔ n ≠ "" ∧ n ≠ "." := by
  have hdot : n.toList = ['.'] ↔ n = "." := by
    rw [← String.toList_inj]
    rfl
  simp [isPart, hdot]

lemma partsOf_nil : partsOf [] = [] := rfl

lemma partsOf_append_slash (a b : List Char) : partsOf (a ++ '/' :: b) = partsOf a ++ partsOf b := by
  simp only [partsOf, splitAt_eq_splitOn, List.splitOn_append_cons_self, List.filter_append, List.map_append]

lemma partsOf_slash_cons (b : List Char) : partsOf ('/' :: b) = partsOf b := partsOf_append_slash [] b

lemma partsOf_fileName (h : IsFileName n) : partsOf n.toList = [n] := by
  have hpart : isPart n.toList = true := isPart_toList_iff.2 ⟨h.1, h.2.1⟩
  rw [partsOf, splitAt_eq_splitOn, List.splitOn_eq_singleton h.2.2, List.filter_cons_of_pos hpart,
    List.filter_nil, List.map_singleton, String.ofList_toList]

lemma isFileName_of_mem_partsOf (h : n ∈ partsOf cs) : IsFileName n := by
  obtain ⟨piece, hpiece, rfl⟩ := List.mem_map.1 h
  obtain ⟨hmem, hpart⟩ := List.mem_filter.1 hpiece
  rw [← String.toList_ofList (l := piece)] at hpart
  obtain ⟨hempty, hdot⟩ := isPart_toList_iff.1 hpart
  refine ⟨hempty, hdot, ?_⟩
  rw [String.toList_ofList]
  exact not_mem_of_mem_splitAt hmem

/-- The parts between slashes are read one by one. -/
lemma partsOf_intercalate (h : ∀ n ∈ ns, IsFileName n) : partsOf ("/".intercalate ns).toList = ns := by
  induction ns with
  | nil => rfl
  | cons n ns ih =>
    obtain ⟨hn, hns⟩ := List.forall_mem_cons.1 h
    rw [String.toList_intercalate, List.map_cons]
    cases ns with
    | nil => rw [List.map_nil, List.intercalate_singleton, partsOf_fileName hn]
    | cons m ns =>
      have htext : ['/'].intercalate (n.toList :: (m :: ns).map String.toList) =
          n.toList ++ '/' :: ("/".intercalate (m :: ns)).toList := by
        rw [List.intercalate_cons_of_ne_nil (by simp), String.toList_intercalate, List.append_assoc]
        rfl
      change partsOf (['/'].intercalate _) = _
      rw [htext, partsOf_append_slash, partsOf_fileName hn, ih hns]
      rfl

lemma isFileName_ofList (hcs : '/' ∉ cs) (hlength : 2 ≤ cs.length) : IsFileName (String.ofList cs) := by
  have hlong : 2 ≤ (String.ofList cs).toList.length := by rwa [String.toList_ofList]
  refine ⟨?_, ?_, ?_⟩
  · intro h
    rw [h] at hlong
    exact absurd hlong (by decide)
  · intro h
    rw [h] at hlong
    exact absurd hlong (by decide)
  · rwa [String.toList_ofList]

/-- What stands behind the last slash of a text. -/
lemma exists_lastSlash (h : '/' ∈ cs) : ∃ a b, cs = a ++ '/' :: b ∧ '/' ∉ b := by
  obtain ⟨b, a, hcs, hb⟩ := List.eq_append_cons_of_mem (List.mem_reverse.2 h)
  refine ⟨a.reverse, b.reverse, ?_, mt List.mem_reverse.1 hb⟩
  rw [← List.reverse_reverse cs, hcs, List.reverse_append, List.reverse_cons, List.append_assoc]
  rfl

/-- A text that ends in two or more characters other than slashes has them at the end of its last part. -/
lemma exists_partsOf_append (a : List Char) (hb : '/' ∉ b) (hlength : 2 ≤ b.length) :
    ∃ ns n, partsOf (a ++ b) = ns ++ [n] ∧ b <:+ n.toList := by
  have hlast (e : List Char) (he : '/' ∉ e) :
      ∃ n, partsOf (e ++ b) = [n] ∧ b <:+ n.toList := by
    have hmem : '/' ∉ e ++ b := by simp [he, hb]
    have hlong : 2 ≤ (e ++ b).length := by
      rw [List.length_append]
      omega
    refine ⟨String.ofList (e ++ b), ?_, ?_⟩
    · have hparts := partsOf_fileName (isFileName_ofList hmem hlong)
      rwa [String.toList_ofList] at hparts
    · rw [String.toList_ofList]
      exact List.suffix_append e b
  by_cases ha : '/' ∈ a
  · obtain ⟨a, e, rfl, he⟩ := exists_lastSlash ha
    obtain ⟨n, hparts, hn⟩ := hlast e he
    refine ⟨partsOf a, n, ?_, hn⟩
    rw [List.append_assoc, List.cons_append, partsOf_append_slash, hparts]
  · obtain ⟨n, hparts, hn⟩ := hlast a ha
    exact ⟨[], n, hparts, hn⟩

/-! ### Slashes in front -/

/-- A text has some slashes in front. -/
lemma exists_slashes (cs : List Char) : ∃ k r, cs = List.replicate k '/' ++ r ∧ r.head? ≠ some '/' := by
  induction cs with
  | nil => exact ⟨0, [], rfl, by simp⟩
  | cons c cs ih =>
    by_cases hc : c = '/'
    · obtain ⟨k, r, rfl, hr⟩ := ih
      exact ⟨k + 1, r, by rw [hc, List.replicate_succ, List.cons_append], hr⟩
    · exact ⟨0, c :: cs, rfl, by simpa using hc⟩

/-- Three slashes or more count as one. -/
lemma slashesOf_replicate (k : ℕ) (h : cs.head? ≠ some '/') :
    slashesOf (List.replicate k '/' ++ cs) = if k ≤ 2 then k else 1 := by
  have hhead (c : Char) (r : List Char) (hcs : cs = c :: r) : c ≠ '/' := by
    rintro rfl
    exact h (by rw [hcs]; rfl)
  rcases k with _ | _ | _ | k
  iterate 3
    · cases cs with
      | nil => rfl
      | cons c r => simp [slashesOf, List.replicate_succ, hhead c r rfl]
  · rfl

lemma slashesOf_le (cs : List Char) : slashesOf cs ≤ 2 := by
  obtain ⟨k, r, rfl, hr⟩ := exists_slashes cs
  rw [slashesOf_replicate k hr]
  split_ifs <;> omega

lemma slashesOf_eq_zero_iff : slashesOf cs = 0 ↔ cs.head? ≠ some '/' := by
  obtain ⟨k, r, rfl, hr⟩ := exists_slashes cs
  rw [slashesOf_replicate k hr]
  cases k with
  | zero => simpa using hr
  | succ k => split_ifs <;> simp [List.replicate_succ]

/-- The slashes in front of a text are those of its beginning, unless only the two together have them. -/
lemma slashesOf_append (h : b.head? ≠ some '/' ∨ ∃ c ∈ a, c ≠ '/') : slashesOf (a ++ b) = slashesOf a := by
  obtain ⟨k, r, rfl, hr⟩ := exists_slashes a
  have hrest : (r ++ b).head? ≠ some '/' := by
    cases r with
    | nil =>
      rcases h with h | ⟨c, hc, hne⟩
      · exact h
      · rw [List.append_nil] at hc
        exact absurd (List.eq_of_mem_replicate hc) hne
    | cons c r => exact hr
  rw [List.append_assoc, slashesOf_replicate k hrest, slashesOf_replicate k hr]

/-! ### Paths as they are read -/

/-- A path as a text can name it: it begins with two slashes at most, and its parts are names of files. -/
structure IsNormal (p : Path) : Prop where
  slashes_le : p.slashes ≤ 2
  isFileName : ∀ n ∈ p.parts, IsFileName n

lemma isNormal_ofText (s : String) : (ofText s).IsNormal :=
  ⟨slashesOf_le _, fun _ h => isFileName_of_mem_partsOf h⟩

lemma IsNormal.parent {p : Path} (h : p.IsNormal) : p.parent.IsNormal :=
  ⟨h.slashes_le, fun n hn => h.isFileName n (List.dropLast_subset _ hn)⟩

lemma IsNormal.join {dir p : Path} (hdir : dir.IsNormal) (hp : p.IsNormal) : (dir.join p).IsNormal := by
  unfold Path.join
  split_ifs
  · refine ⟨hdir.slashes_le, fun n hn => ?_⟩
    rcases List.mem_append.1 hn with hn | hn
    · exact hdir.isFileName n hn
    · exact hp.isFileName n hn
  · exact hp

/-- Parts between slashes begin with no slash. -/
lemma head?_intercalate_ne (h : ∀ n ∈ ns, IsFileName n) : ("/".intercalate ns).toList.head? ≠ some '/' := by
  cases ns with
  | nil => simp
  | cons n ns =>
    obtain ⟨hempty, -, hslash⟩ := h n List.mem_cons_self
    obtain ⟨r, hr⟩ : ∃ r, ("/".intercalate (n :: ns)).toList = n.toList ++ r := by
      rw [String.toList_intercalate, List.map_cons]
      cases ns with
      | nil => exact ⟨[], by rw [List.map_nil, List.intercalate_singleton, List.append_nil]⟩
      | cons m ns => exact ⟨_, by rw [List.intercalate_cons_of_ne_nil (by simp), List.append_assoc]⟩
    rw [hr, List.head?_append, Option.or_of_isSome (by simpa [List.isSome_head?] using hempty)]
    exact fun hhead => hslash (List.mem_of_mem_head? hhead)

lemma partsOf_replicate (k : ℕ) (b : List Char) : partsOf (List.replicate k '/' ++ b) = partsOf b := by
  induction k with
  | zero => rfl
  | succ k ih => rw [List.replicate_succ, List.cons_append, partsOf_slash_cons, ih]

lemma text_of_ne {p : Path} (h : ¬(p.slashes = 0 ∧ p.parts = [])) :
    p.text.toList = List.replicate p.slashes '/' ++ ("/".intercalate p.parts).toList := by
  rw [text, if_neg (by simpa using h), String.toList_append, String.toList_ofList]

/-- **A path is named by its own text.** -/
theorem ofText_text {p : Path} (h : p.IsNormal) : ofText p.text = p := by
  by_cases hempty : p.slashes = 0 ∧ p.parts = []
  · obtain ⟨k, ns⟩ := p
    obtain ⟨rfl, rfl⟩ := hempty
    rfl
  · rw [ofText, text_of_ne hempty, slashesOf_replicate _ (head?_intercalate_ne h.isFileName),
      if_pos h.slashes_le, partsOf_replicate, partsOf_intercalate h.isFileName]

lemma suffix_intercalate (ns : List String) (n : String) :
    n.toList <:+ ("/".intercalate (ns ++ [n])).toList := by
  rw [String.toList_intercalate]
  induction ns with
  | nil => simp [List.intercalate_singleton]
  | cons m ns ih =>
    rw [List.cons_append, List.map_cons, List.intercalate_cons_of_ne_nil (by simp)]
    exact ih.trans (List.suffix_append _ _)

/-- The last part of a path stands at the end of its text. -/
lemma suffix_text {p : Path} (h : p.parts = ns ++ [n]) : n.toList <:+ p.text.toList := by
  rw [text_of_ne (by simp [h]), h]
  exact (suffix_intercalate ns n).trans (List.suffix_append _ _)

/-! ### Paths in directories -/

/-- Whether a text names a path from the root on. -/
def isAbsolute (s : String) : Bool := s.toList.head? == some '/'

/-- The text of a path that is followed from a directory on: one is written behind the other, with a slash in
between if there is none. Nothing comes before a path from the root on. -/
def joinText (dir s : String) : String :=
  if isAbsolute s then s
  else if dir = "" ∨ dir.toList.getLast? = some '/' then dir ++ s
  else dir ++ "/" ++ s

lemma isAbsolute_iff {s : String} : isAbsolute s = true ↔ (ofText s).slashes ≠ 0 := by
  rw [isAbsolute, beq_iff_eq, ofText, ne_eq, slashesOf_eq_zero_iff, not_not]

/-- **Writing texts behind each other is joining paths.** -/
theorem ofText_joinText (dir s : String) : ofText (joinText dir s) = (ofText dir).join (ofText s) := by
  by_cases habsolute : isAbsolute s = true
  · rw [joinText, if_pos habsolute, join, if_neg (isAbsolute_iff.1 habsolute)]
  have hzero : (ofText s).slashes = 0 := not_not.1 (mt isAbsolute_iff.2 habsolute)
  have hhead : s.toList.head? ≠ some '/' := slashesOf_eq_zero_iff.1 hzero
  rw [joinText, if_neg habsolute, join, if_pos hzero]
  split_ifs with hslash
  · rw [ofText, String.toList_append]
    refine congrArg₂ Path.mk (slashesOf_append (.inl hhead)) ?_
    rcases hslash with rfl | hslash
    · rfl
    · obtain ⟨d, hd⟩ := List.getLast?_eq_some_iff.1 hslash
      rw [ofText, hd, List.append_assoc, List.singleton_append, partsOf_append_slash, partsOf_append_slash,
        partsOf_nil, List.append_nil]
      rfl
  · obtain ⟨hempty, hlast⟩ := not_or.1 hslash
    have hne : dir.toList ≠ [] := by simpa using hempty
    have hother : ∃ c ∈ dir.toList, c ≠ '/' := by
      refine ⟨_, List.getLast_mem hne, fun h => hlast ?_⟩
      rw [List.getLast?_eq_some_getLast hne, h]
    rw [ofText, String.toList_append, String.toList_append, List.append_assoc]
    exact congrArg₂ Path.mk (slashesOf_append (.inr hother)) (partsOf_append_slash _ _)

lemma ofText_of_isFileName (h : IsFileName n) : ofText n = ⟨0, [n]⟩ := by
  have hzero : slashesOf n.toList = 0 :=
    slashesOf_eq_zero_iff.2 fun hhead => h.2.2 (List.mem_of_mem_head? hhead)
  rw [ofText, hzero, partsOf_fileName h]

/-- A file in a directory leads back to the directory, whatever it is called. -/
lemma parent_ofText_joinText (dir : String) (h : IsFileName n) :
    (ofText (joinText dir n)).parent = ofText dir := by
  rw [ofText_joinText, ofText_of_isFileName h, join, if_pos rfl, parent, List.dropLast_concat]

end Path

end ApiContract.Files
