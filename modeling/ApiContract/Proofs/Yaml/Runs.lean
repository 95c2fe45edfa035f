import ApiContract.Yaml.Cursor
import Mathlib.Data.List.Chain
import Mathlib.Tactic.Common

/-!
The runs that a text is made of. Words and gaps take turns in a text that has no spaces beside line breaks
(`isTidy_runs`).
-/

namespace ApiContract.Yaml

variable {c : Char} {cs : List Char} {r : Run} {rs : List Run}

/-- The characters of a run. -/
def Run.text : Run → List Char
  | spaces n => List.replicate n ' '
  | breaks cs => cs
  | word cs => cs

/-- Whether a run is a word. -/
def Run.isWord : Run → Bool
  | word _ => true
  | _ => false

/-- A run of its kind that is not empty. -/
def Run.IsProper : Run → Prop
  | spaces n => 0 < n
  | breaks cs => cs ≠ [] ∧ ∀ c ∈ cs, isBreak c = true
  | word cs => cs ≠ [] ∧ ∀ c ∈ cs, isSpacing c = false ∧ isLineEnd c = false

/-- Runs that are not empty, where words and gaps take turns. -/
def IsTidy (rs : List Run) : Prop :=
  (∀ r ∈ rs, r.IsProper) ∧ rs.IsChain fun a b => a.isWord ≠ b.isWord

lemma IsTidy.tail (h : IsTidy (r :: rs)) : IsTidy rs :=
  ⟨(List.forall_mem_cons.1 h.1).2, h.2.of_cons⟩

/-- What follows a gap is a word, and what follows a word is a gap. -/
lemma IsTidy.isWord_head (h : IsTidy (r :: rs)) : ∀ r' ∈ rs.head?, r'.isWord = !r.isWord := by
  cases rs with
  | nil => exact nofun
  | cons r' rs =>
    rintro _ ⟨⟩
    have hne := (List.isChain_cons_cons.1 h.2).1
    cases hr : r.isWord <;> cases hr' : r'.isWord <;> simp_all

/-- What a run of a character alone would be. -/
def Run.single (c : Char) : Run :=
  if c = ' ' then .spaces 1 else if isBreak c then .breaks [c] else .word [c]

/-- Whether a character could be in a run. -/
def Run.fits (c : Char) : Run → Bool
  | spaces _ => c == ' '
  | breaks _ => isBreak c
  | word _ => c != ' ' && !isBreak c

/-- The run with a character at its front. -/
def Run.cons (c : Char) : Run → Run
  | spaces n => .spaces (n + 1)
  | breaks cs => .breaks (c :: cs)
  | word cs => .word (c :: cs)

/-- A character is put into the first run if it fits there, and else is a run of its own. -/
lemma runs_cons (c : Char) (cs : List Char) :
    runs (c :: cs) = match runs cs with
      | r :: rs => if r.fits c then r.cons c :: rs else .single c :: r :: rs
      | [] => [.single c] := by
  rw [runs, Run.single]
  by_cases hspace : c = ' '
  · subst hspace
    cases runs cs with
    | nil => rfl
    | cons r rs => cases r <;> rfl
  · by_cases hbreak : isBreak c = true
    · cases runs cs with
      | nil => simp [hspace, hbreak]
      | cons r rs => cases r <;> simp [hspace, hbreak, Run.fits, Run.cons]
    · cases runs cs with
      | nil => simp [hspace, hbreak]
      | cons r rs => cases r <;> simp [hspace, hbreak, Run.fits, Run.cons]

lemma Run.text_single (c : Char) : (Run.single c).text = [c] := by
  rw [single]
  split_ifs with h
  · rw [h]; rfl
  · rfl
  · rfl

lemma Run.text_cons (h : r.fits c = true) : (r.cons c).text = c :: r.text := by
  cases r with
  | spaces n => rw [eq_of_beq h]; rfl
  | _ => rfl

/-- The runs of a text make up the text. -/
lemma text_runs (cs : List Char) : (runs cs).flatMap Run.text = cs := by
  induction cs with
  | nil => rfl
  | cons c cs ih =>
    rw [runs_cons]
    cases hruns : runs cs with
    | nil =>
      rw [hruns] at ih
      rw [← ih]
      exact congrArg (· ++ []) (Run.text_single c)
    | cons r rs =>
      rw [hruns] at ih
      simp only
      split_ifs with hfits
      · rw [List.flatMap_cons, Run.text_cons hfits, ← ih]
        rfl
      · rw [List.flatMap_cons, Run.text_single, ih]
        rfl

/-! ### Words and gaps in turn -/

lemma Run.fits_single (c : Char) : (Run.single c).fits c = true := by
  rw [single]
  split_ifs with hspace hbreak
  · rw [hspace]; rfl
  · exact hbreak
  · simp [fits, hspace, hbreak]

lemma Run.isWord_cons (c : Char) (r : Run) : (r.cons c).isWord = r.isWord := by
  cases r <;> rfl

/-- The first run of a text is one that its first character fits in. -/
lemma exists_runs_cons (c : Char) (cs : List Char) : ∃ r rs, runs (c :: cs) = r :: rs ∧ r.fits c = true := by
  rw [runs_cons]
  cases runs cs with
  | nil => exact ⟨_, _, rfl, Run.fits_single c⟩
  | cons r rs =>
    simp only
    split_ifs with hfits
    · refine ⟨_, _, rfl, ?_⟩
      cases r <;> exact hfits
    · exact ⟨_, _, rfl, Run.fits_single c⟩

/-- No tab and no carriage return is visible. -/
lemma isFirm_of_isVisible (h : isVisible c = true) (hspace : c ≠ ' ') (hbreak : isBreak c = false) :
    isSpacing c = false ∧ isLineEnd c = false := by
  have hne : ∀ x, isVisible x = false → c ≠ x := by
    rintro x hx rfl
    rw [h] at hx
    cases hx
  exact ⟨by simp [isSpacing, hspace, hne '\t' rfl], by simp [isLineEnd, hbreak, hne '\r' rfl]⟩

lemma Run.IsProper.single (h : isVisible c = true) : (Run.single c).IsProper := by
  rw [Run.single]
  split_ifs with hspace hbreak
  · exact Nat.one_pos
  · exact ⟨List.cons_ne_nil _ _, List.forall_mem_singleton.2 hbreak⟩
  · exact ⟨List.cons_ne_nil _ _,
      List.forall_mem_singleton.2 (isFirm_of_isVisible h hspace (Bool.eq_false_iff.2 hbreak))⟩

lemma Run.IsProper.cons (hr : r.IsProper) (h : isVisible c = true) (hfits : r.fits c = true) :
    (r.cons c).IsProper := by
  cases r with
  | spaces n => exact Nat.succ_pos n
  | breaks cs => exact ⟨List.cons_ne_nil _ _, List.forall_mem_cons.2 ⟨hfits, hr.2⟩⟩
  | word cs =>
    simp only [Run.fits, Bool.and_eq_true, bne_iff_ne, ne_eq, Bool.not_eq_true'] at hfits
    exact ⟨List.cons_ne_nil _ _, List.forall_mem_cons.2 ⟨isFirm_of_isVisible h hfits.1 hfits.2, hr.2⟩⟩

/-- A run and the one before it that a character does not fit in are a word and a gap, unless spaces are beside
line breaks. -/
lemma Run.isWord_single_ne {d : Char} (hd : r.fits d = true) (hc : r.fits c = false)
    (hspace : ¬(c = ' ' ∧ isBreak d = true)) (hbreak : ¬(isBreak c = true ∧ d = ' ')) :
    (Run.single c).isWord ≠ r.isWord := by
  rw [single]
  split_ifs with h₁ h₂
  · cases r with
    | spaces n => simp [fits, h₁] at hc
    | breaks cs => exact absurd ⟨h₁, hd⟩ hspace
    | word cs => exact Bool.false_ne_true
  · cases r with
    | spaces n => exact absurd ⟨h₂, eq_of_beq hd⟩ hbreak
    | breaks cs => simp [fits, h₂] at hc
    | word cs => exact Bool.false_ne_true
  · cases r with
    | spaces n => exact Bool.false_ne_true.symm
    | breaks cs => exact Bool.false_ne_true.symm
    | word cs => simp [fits, h₁, h₂] at hc

/-- **A visible text without spaces beside line breaks has words and gaps in turn.** -/
theorem isTidy_runs (hvisible : ∀ c ∈ cs, isVisible c = true) (hspace : hasPair isSpaceChar isBreak cs = false)
    (hbreak : hasPair isBreak isSpaceChar cs = false) : IsTidy (runs cs) := by
  induction cs with
  | nil => exact ⟨nofun, .nil⟩
  | cons c cs ih =>
    obtain ⟨hc, hcs⟩ := List.forall_mem_cons.1 hvisible
    cases cs with
    | nil =>
      rw [runs_cons]
      exact ⟨List.forall_mem_singleton.2 (.single hc), .singleton _⟩
    | cons d cs =>
      simp only [hasPair, Bool.or_eq_false_iff] at hspace hbreak
      obtain ⟨hproper, hchain⟩ := ih hcs hspace.2 hbreak.2
      obtain ⟨r, rs, hruns, hd⟩ := exists_runs_cons d cs
      rw [hruns] at hproper hchain
      obtain ⟨hr, hrs⟩ := List.forall_mem_cons.1 hproper
      rw [runs_cons, hruns]
      simp only
      split_ifs with hfits
      · refine ⟨List.forall_mem_cons.2 ⟨hr.cons hc hfits, hrs⟩, ?_⟩
        cases rs with
        | nil => exact .singleton _
        | cons r' rs =>
          rw [List.isChain_cons_cons] at hchain ⊢
          rwa [Run.isWord_cons]
      · refine ⟨List.forall_mem_cons.2 ⟨.single hc, hproper⟩, List.isChain_cons_cons.2 ⟨?_, hchain⟩⟩
        refine Run.isWord_single_ne hd (Bool.eq_false_iff.2 hfits) ?_ ?_
        · rintro ⟨rfl, h⟩
          rw [h] at hspace
          cases hspace.1
        · rintro ⟨h, rfl⟩
          rw [h] at hbreak
          cases hbreak.1

end ApiContract.Yaml
