import ApiContract.Proofs.Text.Ranges
import ApiContract.Proofs.Yaml.Blocks
import ApiContract.Yaml.Reader

/-!
A text that is written for a value has only characters that a text may have (`isAcceptable_of_mem_text`).
-/

namespace ApiContract.Yaml

variable {c : Char} {cs pending : List Char} {fold first : Bool} {n : ℕ} {p : Pen} {rs : List Run} {v : Value}

lemma isAcceptable_of_isVisible (h : isVisible c = true) : isAcceptable c = true := by
  by_cases hfeed : c = '\n'
  · rw [hfeed]
    rfl
  simp only [isVisible, Bool.or_eq_true, Bool.and_eq_true, decide_eq_true_eq, beq_iff_eq, hfeed, false_or] at h
  simp only [isAcceptable, Bool.or_eq_true, Bool.and_eq_true, decide_eq_true_eq, beq_iff_eq]
  omega

lemma isAcceptable_of_isDirect (h : isDirect c = true) : isAcceptable c = true := by
  simp only [isDirect, Bool.or_eq_true, Bool.and_eq_true, decide_eq_true_eq] at h
  simp only [isAcceptable, Bool.or_eq_true, Bool.and_eq_true, decide_eq_true_eq, beq_iff_eq]
  omega

lemma isAcceptable_of_isBasic (h : isBasic c = true) : isAcceptable c = true := by
  simp only [isBasic, Bool.and_eq_true, decide_eq_true_eq] at h
  simp only [isAcceptable, Bool.or_eq_true, Bool.and_eq_true, decide_eq_true_eq, beq_iff_eq]
  omega

lemma isAcceptable_of_isNameChar (h : isNameChar c = true) : isAcceptable c = true := by
  refine isAcceptable_of_isBasic ?_
  simp only [isNameChar, Bool.or_eq_true, beq_iff_eq] at h
  simp only [isBasic, Bool.and_eq_true, decide_eq_true_eq]
  rcases h with (h | rfl) | rfl
  · rcases Bool.or_eq_true_iff.1 h with h | h
    · obtain ⟨hlow, hhigh⟩ := Text.toNat_of_isAlpha h
      exact ⟨le_trans (by decide) hlow, le_trans hhigh (by decide)⟩
    · obtain ⟨hlow, hhigh⟩ := Char.isDigit_iff_toNat.1 h
      exact ⟨le_trans (by decide) hlow, le_trans hhigh (by decide)⟩
  · decide
  · decide

/-- Only characters that a text may have are written so far. -/
def Pen.IsAcceptable (p : Pen) : Prop := ∀ c ∈ p.written, isAcceptable c = true

namespace Pen.IsAcceptable

lemma start : Pen.start.IsAcceptable := nofun

lemma put (h : p.IsAcceptable) (hcs : ∀ c ∈ cs, isAcceptable c = true) : (p.put cs).IsAcceptable :=
  List.forall_mem_append.2 ⟨fun c hc => hcs c (List.mem_reverse.1 hc), h⟩

lemma spaces (h : p.IsAcceptable) (n : ℕ) : (p.put (List.replicate n ' ')).IsAcceptable :=
  h.put fun c hc => by rw [List.eq_of_mem_replicate hc]; rfl

lemma breakLine (h : p.IsAcceptable) (hc : isAcceptable c = true) : (p.breakLine c).IsAcceptable :=
  List.forall_mem_cons.2 ⟨hc, h⟩

lemma indent (h : p.IsAcceptable) (n : ℕ) : (p.indent n).IsAcceptable := by
  unfold Pen.indent
  have hline : (if ¬ p.fresh ∨ n < p.column ∨ (p.column = n ∧ ¬ p.apart) then p.breakLine '\n'
      else p).IsAcceptable := by
    split_ifs
    · exact h.breakLine rfl
    · exact h
  simp only
  split_ifs at hline ⊢ <;> first | exact hline | exact hline.spaces _

lemma mark (h : p.IsAcceptable) (hcs : ∀ c ∈ cs, isAcceptable c = true) (needsGap apart fresh : Bool) :
    (p.mark cs needsGap apart fresh).IsAcceptable := by
  refine h.put ?_
  split_ifs
  · exact hcs
  · exact List.forall_mem_cons.2 ⟨rfl, hcs⟩

lemma settle (h : p.IsAcceptable) : p.settle.IsAcceptable := h

/-- A mark of one character. -/
lemma sign (h : p.IsAcceptable) (hc : isAcceptable c = true) (needsGap apart fresh : Bool) :
    (p.mark [c] needsGap apart fresh).IsAcceptable :=
  h.mark (List.forall_mem_singleton.2 hc) _ _ _

/-! ### Texts -/

lemma writeSpaces (h : p.IsAcceptable) (i m : ℕ) (mayFold : Bool) :
    (writeSpaces i m mayFold p).1.IsAcceptable := by
  unfold Yaml.writeSpaces
  split_ifs
  · exact h.indent _
  · exact h.spaces _

lemma writeBreaks (h : p.IsAcceptable) (hcs : ∀ c ∈ cs, isAcceptable c = true) (i : ℕ) :
    (writeBreaks i cs p).IsAcceptable := by
  have hfold : ∀ q : Pen, q.IsAcceptable → (cs.foldl Pen.breakLine q).IsAcceptable := by
    induction cs with
    | nil => exact fun _ hq => hq
    | cons c cs ih =>
      obtain ⟨hc, hcs⟩ := List.forall_mem_cons.1 hcs
      exact fun q hq => ih hcs _ (hq.breakLine hc)
  refine Pen.IsAcceptable.indent (hfold _ ?_) _
  split_ifs
  · exact h.breakLine rfl
  · exact h

lemma writeSingleRuns (hrs : ∀ r ∈ rs, ∀ c ∈ r.text, isAcceptable c = true) (h : p.IsAcceptable) (i : ℕ)
    (fold first : Bool) : (writeSingleRuns i fold first rs p).IsAcceptable := by
  induction rs generalizing p first with
  | nil => exact h
  | cons r rs ih =>
    obtain ⟨hr, hrs⟩ := List.forall_mem_cons.1 hrs
    refine ih hrs ?_ false
    cases r with
    | spaces m => exact h.writeSpaces _ _ _
    | breaks cs => exact h.writeBreaks hr _
    | word cs =>
      refine h.put fun c hc => ?_
      obtain ⟨d, hd, hc⟩ := List.mem_flatMap.1 hc
      split_ifs at hc
      · rw [List.mem_pair, or_self] at hc
        rw [hc]
        rfl
      · rw [List.mem_singleton.1 hc]
        exact hr d hd

lemma writePlainRuns (hrs : ∀ r ∈ rs, ∀ c ∈ r.text, isAcceptable c = true) (h : p.IsAcceptable) (i : ℕ)
    (fold : Bool) : (writePlainRuns i fold rs p).IsAcceptable := by
  induction rs generalizing p with
  | nil => exact h
  | cons r rs ih =>
    obtain ⟨hr, hrs⟩ := List.forall_mem_cons.1 hrs
    refine ih hrs ?_
    cases r with
    | spaces m =>
      have hspaces := h.writeSpaces i m fold
      simp only
      split_ifs
      · exact hspaces
      · exact hspaces
    | breaks cs => exact h.writeBreaks hr _
    | word cs => exact h.put hr

lemma foldDouble (h : p.IsAcceptable) (i : ℕ) (next : Option Char) : (foldDouble i next p).IsAcceptable := by
  have hslash : ∀ c ∈ ['\\'], isAcceptable c = true := List.forall_mem_singleton.2 rfl
  have hline : ((p.put ['\\']).indent i).settle.IsAcceptable := ((h.put hslash).indent i).settle
  unfold Yaml.foldDouble
  simp only
  split_ifs
  · exact hline.put hslash
  · exact hline

lemma writeDoubleChars (hpending : ∀ c ∈ pending, isAcceptable c = true) (h : p.IsAcceptable) (i : ℕ)
    (fold first : Bool) (cs : List Char) :
    (writeDoubleChars i fold first pending cs p).IsAcceptable := by
  induction cs generalizing p first pending with
  | nil => exact h.put fun c hc => hpending c (List.mem_reverse.1 hc)
  | cons c cs ih =>
    have hput : (p.put pending.reverse).IsAcceptable := h.put fun c hc => hpending c (List.mem_reverse.1 hc)
    rw [Yaml.writeDoubleChars_cons]
    have hescape : ((p.put pending.reverse).put (escape c)).IsAcceptable :=
      hput.put fun d hd => isAcceptable_of_isBasic (isBasic_of_mem_escape hd)
    by_cases hc : isDirect c = true
    · have hdirect := isAcceptable_of_isDirect hc
      rw [if_pos hc]
      split_ifs
      · exact ih (List.forall_mem_singleton.2 hdirect) (hput.foldDouble _ _) false
      · exact ih (List.forall_mem_cons.2 ⟨hdirect, hpending⟩) h false
    · rw [if_neg hc]
      refine ih (List.forall_mem_nil _) ?_ false
      split_ifs
      · exact hescape.foldDouble _ _
      · exact hescape

lemma writePlain (hcs : allowsPlain cs = true) (h : p.IsAcceptable) (i : ℕ) (fold : Bool) :
    (writePlain i fold cs p).IsAcceptable := by
  have hruns : ∀ r ∈ runs cs, ∀ c ∈ r.text, isAcceptable c = true := fun r hr c hc =>
    isAcceptable_of_isVisible (isVisible_of_allowsPlain hcs (text_runs cs ▸ List.mem_flatMap.2 ⟨r, hr, hc⟩))
  have hline : (if p.apart then p else p.put [' ']).IsAcceptable := by
    split_ifs
    · exact h
    · exact h.spaces 1
  unfold Yaml.writePlain
  by_cases hempty : cs.isEmpty = true
  · rwa [if_pos hempty]
  · rw [if_neg hempty]
    exact writePlainRuns hruns hline.settle i fold

/-- A text in the way in which it is written. -/
lemma writeText (h : p.IsAcceptable) (inKey : Bool) (s : String) (i : ℕ) (fold : Bool) :
    (writeStyled (Style.ofText inKey s) i fold s.toList p).IsAcceptable := by
  obtain ⟨hstyle, -, hplain⟩ | ⟨hstyle, hsingle, -⟩ | hstyle := style_cases inKey s <;> rw [hstyle]
  · exact writePlain hplain h i fold
  · have hvisible : ∀ c ∈ s.toList, isVisible c = true := by
      simp only [allowsSingle, Bool.and_eq_true, List.all_eq_true] at hsingle
      exact hsingle.1.1
    have hruns : ∀ r ∈ runs s.toList, ∀ c ∈ r.text, isAcceptable c = true := fun r hr c hc =>
      isAcceptable_of_isVisible (hvisible c (text_runs s.toList ▸ List.mem_flatMap.2 ⟨r, hr, hc⟩))
    exact (writeSingleRuns hruns (h.sign rfl _ _ _) _ _ _).sign rfl _ _ _
  · exact (writeDoubleChars (List.forall_mem_nil _) (h.sign rfl _ _ _) _ _ _ _).sign rfl _ _ _

/-! ### Nodes -/

lemma writeName (h : p.IsAcceptable) {sign : Char} (hsign : isAcceptable sign = true) (id : Identity) :
    (writeName sign id p).IsAcceptable :=
  h.mark (List.forall_mem_cons.2
    ⟨hsign, fun c hc => isAcceptable_of_isNameChar (isNameChar_of_mem_nameOf id c hc)⟩) _ _ _

lemma writeWord (hv : isWord v = true) (h : p.IsAcceptable) (c : Context) :
    (writeScalar c v p).IsAcceptable := by
  have hword : writeScalar c v p = Yaml.writePlain c.scalarIndent (!c.inKey) ((plainText? v).getD []) p := by
    cases v <;> first | rfl | cases hv
  obtain ⟨cs, hcs⟩ : ∃ cs, plainText? v = some cs := by
    cases v with
    | bool b => cases b <;> exact ⟨_, rfl⟩
    | null | int => exact ⟨_, rfl⟩
    | _ => cases hv
  rw [hword, hcs]
  exact writePlain (allowsPlain_of_isWord hv hcs) h _ _

lemma writeDash (h : p.IsAcceptable) (i : ℕ) : (writeDash i p).IsAcceptable := (h.indent i).sign rfl _ _ _

lemma writeColon (h : p.IsAcceptable) (i : ℕ) (simple : Bool) : (writeColon i simple p).IsAcceptable := by
  cases simple with
  | false => exact (h.indent i).sign rfl _ _ _
  | true => exact h.sign rfl _ _ _

lemma writeKeyMark (h : p.IsAcceptable) (i : ℕ) (simple : Bool) : (writeKeyMark i simple p).IsAcceptable := by
  cases simple with
  | false => exact (h.indent i).sign rfl _ _ _
  | true => exact h.indent i

mutual

/-- **A node is written with characters that a text may have.** -/
theorem writeNode {f : ℤ → Bool} :
    (v : Value) → v.isNumbered f = true → ∀ (c : Context) (p : Pen), p.IsAcceptable →
    (writeNode c v p).IsAcceptable
  | .null, _, c, _, hp | .bool _, _, c, _, hp | .int _, _, c, _, hp => writeWord rfl hp c
  | .str s, _, c, _, hp => hp.writeText c.inKey s _ _
  | .list [], _, _, _, hp | .map [], _, _, _, hp => (hp.sign rfl _ _ _).sign rfl _ _ _
  | .list (v :: vs), h, c, p, hp => writeItems (v :: vs) h (writeNode.itemIndent c p) p hp
  | .map (q :: fs), h, c, p, hp => writeFields (q :: fs) (Bool.and_eq_true_iff.1 h).2 c.inner p hp
  | .shared id v, h, c, _, hp => writeNode v (Bool.and_eq_true_iff.1 h).2 c _ (hp.writeName rfl id)
  | .again id _, _, _, _, hp => hp.writeName rfl id

theorem writeItems {f : ℤ → Bool} :
    (vs : List Value) → Value.areNumbered f vs = true → ∀ (i : ℕ) (p : Pen), p.IsAcceptable →
    (writeItems i vs p).IsAcceptable
  | [], _, _, _, hp => hp
  | v :: vs, h, i, _, hp =>
    have hvs := Bool.and_eq_true_iff.1 h
    writeItems vs hvs.2 i _ (writeNode v hvs.1 _ _ (hp.writeDash i))

theorem writeFields {f : ℤ → Bool} :
    (fs : List (String × Value)) → Value.fieldsAreNumbered f fs = true → ∀ (i : ℕ) (p : Pen),
    p.IsAcceptable → (writeFields i fs p).IsAcceptable
  | [], _, _, _, hp => hp
  | (k, v) :: fs, h, i, _, hp =>
    have hfs := Bool.and_eq_true_iff.1 h
    have hkey := (hp.writeKeyMark i (isSimpleKey (.str k))).writeText (isSimpleKey (.str k)) k _ _
    writeFields fs hfs.2 i _ (writeNode v hfs.1 _ _ (hkey.writeColon i _))

end

end Pen.IsAcceptable

/-! ### Portions of a text -/

lemma flatten_helpings (ps : List (List Char)) : (helpings ps).flatten = ps.flatten := by
  match ps with
  | [] | [_] => rfl
  | _ :: _ :: _ => simp [helpings]

/-- Nothing is wrong with a text that has only characters that it may have. -/
lemma known_eq {ps : Files.Portions} (hfault : ps.fault = none)
    (hcs : ∀ c ∈ ps.list.flatten, isAcceptable c = true) :
    known ps = (ps.list.flatten, none) := by
  have hgood : (helpings ps.list).takeWhile (fun cs => cs.all isAcceptable) = helpings ps.list := by
    refine List.takeWhile_eq_self_iff.2 fun cs hcs' => List.all_eq_true.2 fun c hc => hcs c ?_
    rw [← flatten_helpings]
    exact List.mem_flatten.2 ⟨cs, hcs', hc⟩
  simp only [known, hfault, Option.isSome_none, Bool.false_and, Bool.false_eq_true, if_false, hgood, lt_irrefl,
    Option.map_none, flatten_helpings]

end ApiContract.Yaml
