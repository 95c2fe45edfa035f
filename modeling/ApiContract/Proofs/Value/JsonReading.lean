import ApiContract.Proofs.Value.JsonGrammar

/-!
Reading JSON by its grammar. What stands for a value is cut into tokens that make a reader receive this value
(`Spells.exists_tokens`). So every text in JSON is read as the value that it stands for
(`parse?_of_isText`), and no text stands for two values (`IsText.unique`).
-/

namespace ApiContract.Json

/-! ### Tokens -/

/-- The characters that are tokens. -/
def marks : List Char := ['\x7b', '\x7d', '[', ']', ',', ':']

lemma mem_marks {c : Char} {t : Token} (h : punctuation? c = some t) : c ∈ marks := by
  unfold punctuation? at h
  split at h
  all_goals first | (simp [marks]; done) | cases h

/-- No space, no quote and no mark is a character of words. -/
lemma isWordChar_cases {c : Char} (h : isWordChar c = true) :
    ¬(c = ' ' ∨ c = '\n' ∨ c = '\r' ∨ c = '\t') ∧ c ≠ '"' ∧ punctuation? c = none := by
  have hne : ∀ x, isWordChar x = false → c ≠ x := by
    rintro x hx rfl
    rw [h] at hx
    cases hx
  refine ⟨?_, hne _ rfl, ?_⟩
  · simp [hne ' ' rfl, hne '\n' rfl, hne '\r' rfl, hne '\t' rfl]
  · cases hp : punctuation? c with
    | none => rfl
    | some t =>
      have hmarks : ∀ x ∈ marks, (!isWordChar x) = true := List.all_eq_true.1 (by decide)
      exact absurd rfl (hne c (by simpa using hmarks c (mem_marks hp)))

lemma tokens?_nil : tokens? [] = some [] := by rw [tokens?]

lemma tokens?_cons_of_isSpace {c : Char} (h : isSpace c = true) (cs : List Char) :
    tokens? (c :: cs) = tokens? cs := by
  have hc : c = ' ' ∨ c = '\n' ∨ c = '\r' ∨ c = '\t' := by
    simpa [isSpace, or_assoc] using h
  rw [tokens?, if_pos hc]

lemma tokens?_append_of_isSpace {w : List Char} (h : w.all isSpace) (cs : List Char) :
    tokens? (w ++ cs) = tokens? cs := by
  induction w with
  | nil => rfl
  | cons c w ih =>
    obtain ⟨hc, hw⟩ := Bool.and_eq_true_iff.1 h
    rw [List.cons_append, tokens?_cons_of_isSpace hc, ih hw]

lemma tokens?_cons_of_punctuation {c : Char} {t : Token} (h : punctuation? c = some t) (cs : List Char) :
    tokens? (c :: cs) = (tokens? cs).map (t :: ·) := by
  have hmarks : ∀ x ∈ marks, ¬(x = ' ' ∨ x = '\n' ∨ x = '\r' ∨ x = '\t') ∧ x ≠ '"' := by
    simp [marks]
  obtain ⟨hspace, hquote⟩ := hmarks c (mem_marks h)
  rw [tokens?, if_neg hspace, if_neg hquote, h]

lemma tokens?_text {s ks : List Char} (h : SpellsText s ks) (cs : List Char) :
    tokens? ('"' :: (ks ++ '"' :: cs)) = (tokens? cs).map (.text (String.ofList s) :: ·) := by
  obtain ⟨us, hus, hs⟩ := h.exists_units
  have htoken : textToken (s.map .char) = .text (String.ofList s) := by
    rw [textToken, Text.wholeText_map_char]
  rw [tokens?, if_neg (by decide), if_pos rfl]
  split
  · rename_i raw rest hcut
    rw [h.cutText] at hcut
    cases hcut
    rw [hus, ← htoken]
    simp only [Option.bind_eq_bind, Option.bind_some, hs, mapM_ofCode?]
    cases tokens? cs <;> rfl
  · rename_i hcut
    rw [h.cutText] at hcut
    cases hcut

lemma tokens?_word {w cs : List Char} {v : Value} (hne : w ≠ []) (hw : ∀ c ∈ w, isWordChar c = true)
    (hcs : ∀ c ∈ cs.head?, isWordChar c = false) (hv : readWord? w = some v) :
    tokens? (w ++ cs) = (tokens? cs).map (.value v :: ·) := by
  obtain ⟨c, w, rfl⟩ := List.exists_cons_of_ne_nil hne
  obtain ⟨hc, hw⟩ := List.forall_mem_cons.1 hw
  obtain ⟨hspace, hquote, hmark⟩ := isWordChar_cases hc
  rw [List.cons_append, tokens?, if_neg hspace, if_neg hquote, hmark]
  simp only
  rw [takeWhile_append_of_head? hw hcs, dropWhile_append_of_head? hw hcs, hv]
  cases tokens? cs <;> rfl

/-- The tokens of a part of a text that no word goes on after. -/
def Lexes (cs : List Char) (ts : List Token) : Prop :=
  ∀ rest, (∀ c ∈ rest.head?, isWordChar c = false) →
    tokens? (cs ++ rest) = (tokens? rest).map (ts ++ ·)

namespace Lexes

variable {cs ds : List Char} {ts us : List Token}

lemma nil : Lexes [] [] := by
  intro rest _
  rw [List.nil_append]
  cases tokens? rest <;> rfl

lemma space_append {w : List Char} (hw : w.all isSpace) (h : Lexes cs ts) : Lexes (w ++ cs) ts := by
  intro rest hrest
  rw [List.append_assoc, tokens?_append_of_isSpace hw, h rest hrest]

lemma append_space {w : List Char} (h : Lexes cs ts) (hw : w.all isSpace) : Lexes (cs ++ w) ts := by
  intro rest hrest
  have hhead : ∀ c ∈ (w ++ rest).head?, isWordChar c = false := by
    cases w with
    | nil => exact hrest
    | cons x w =>
      rintro _ ⟨⟩
      have hx : isSpace x = true := (Bool.and_eq_true_iff.1 hw).1
      refine Bool.eq_false_iff.2 fun hword => (isWordChar_cases hword).1 ?_
      simpa [isSpace, or_assoc] using hx
  rw [List.append_assoc, h _ hhead, tokens?_append_of_isSpace hw]

lemma mark_cons {c : Char} {t : Token} (hc : punctuation? c = some t) (h : Lexes cs ts) :
    Lexes (c :: cs) (t :: ts) := by
  intro rest hrest
  rw [List.cons_append, tokens?_cons_of_punctuation hc, h rest hrest, Option.map_map]
  rfl

lemma append_mark {c : Char} {t : Token} (h : Lexes cs ts) (hc : punctuation? c = some t)
    (h' : Lexes ds us) : Lexes (cs ++ c :: ds) (ts ++ t :: us) := by
  intro rest hrest
  have hhead : ∀ x ∈ (c :: ds ++ rest).head?, isWordChar x = false := by
    rintro _ ⟨⟩
    refine Bool.eq_false_iff.2 fun hword => ?_
    rw [(isWordChar_cases hword).2.2] at hc
    cases hc
  rw [List.append_assoc, h _ hhead, mark_cons hc h' rest hrest, Option.map_map]
  refine congrArg (Option.map · _) (funext fun vs => ?_)
  exact (List.append_assoc ts (t :: us) vs).symm

lemma text_cons {s ks : List Char} (hs : SpellsText s ks) (h : Lexes cs ts) :
    Lexes ('"' :: (ks ++ '"' :: cs)) (.text (String.ofList s) :: ts) := by
  intro rest hrest
  rw [List.cons_append, List.append_assoc, List.cons_append, tokens?_text hs, h rest hrest, Option.map_map]
  rfl

lemma word {v : Value} (hne : cs ≠ []) (hcs : ∀ c ∈ cs, isWordChar c = true) (hv : readWord? cs = some v) :
    Lexes cs [.value v] := by
  intro rest hrest
  rw [tokens?_word hne hcs hrest hv]
  rfl

end Lexes

/-! ### Reading what stands for a value -/

/-- What the tokens of a part do to a reader: it receives a value, or puts items or fields into the innermost
open frame. -/
def Part.IsRead (ts : List Token) : Part → Prop
  | value v => ∀ frames e, e = .value ∨ e = .valueOrClose →
      ts.foldlM Reading.step ⟨frames, e, none⟩ = Reading.receive ⟨frames, .value, none⟩ v
  | items vs => ∀ frames us e, e = .value ∨ e = .valueOrClose →
      ts.foldlM Reading.step ⟨.list us :: frames, e, none⟩ =
        some ⟨.list (vs.reverse ++ us) :: frames, .separator, none⟩
  | fields fs => ∀ frames es e, e = .key ∨ e = .keyOrClose →
      ts.foldlM Reading.step ⟨.map es none :: frames, e, none⟩ =
        some ⟨.map (fs.reverse ++ es) none :: frames, .separator, none⟩

section Step

variable {frames : List Frame} {e : Expected}

lemma step_value (he : e = .value ∨ e = .valueOrClose) (v : Value) :
    Reading.step ⟨frames, e, none⟩ (.value v) = Reading.receive ⟨frames, .value, none⟩ v := by
  rcases he with rfl | rfl <;> rfl

lemma step_text (he : e = .value ∨ e = .valueOrClose) (s : String) :
    Reading.step ⟨frames, e, none⟩ (.text s) = Reading.receive ⟨frames, .value, none⟩ (.str s) := by
  rcases he with rfl | rfl <;> rfl

lemma step_openList (he : e = .value ∨ e = .valueOrClose) :
    Reading.step ⟨frames, e, none⟩ .openList = some ⟨.list [] :: frames, .valueOrClose, none⟩ := by
  rcases he with rfl | rfl <;> rfl

lemma step_openMap (he : e = .value ∨ e = .valueOrClose) :
    Reading.step ⟨frames, e, none⟩ .openMap = some ⟨.map [] none :: frames, .keyOrClose, none⟩ := by
  rcases he with rfl | rfl <;> rfl

lemma step_key (he : e = .key ∨ e = .keyOrClose) (es : List (String × Value)) (k : String) :
    Reading.step ⟨.map es none :: frames, e, none⟩ (.text k) =
      some ⟨.map es (some k) :: frames, .colon, none⟩ := by
  rcases he with rfl | rfl <;> rfl

end Step

lemma foldlM_singleton (r : Reading) (t : Token) : [t].foldlM Reading.step r = r.step t := by
  rw [List.foldlM_cons]
  cases r.step t <;> rfl

lemma exists_tokens_of_word {v : Value} {cs : List Char} (hne : cs ≠ []) (hcs : ∀ c ∈ cs, isWordChar c = true)
    (hv : readWord? cs = some v) : ∃ ts, Lexes cs ts ∧ (Part.value v).IsRead ts := by
  refine ⟨[.value v], .word hne hcs hv, fun frames e he => ?_⟩
  rw [foldlM_singleton, step_value he]

/-- **What stands for a part is read as this part.** -/
theorem Spells.exists_tokens {part : Part} {cs : List Char} (h : Spells part cs) :
    ∃ ts, Lexes cs ts ∧ part.IsRead ts := by
  induction h with
  | null => exact exists_tokens_of_word (by decide) (List.all_eq_true.1 (by decide)) rfl
  | yes => exact exists_tokens_of_word (by decide) (List.all_eq_true.1 (by decide)) rfl
  | no => exact exists_tokens_of_word (by decide) (List.all_eq_true.1 (by decide)) rfl
  | number h => exact exists_tokens_of_word h.ne_nil h.isWordChar h.readWord?
  | @text s cs h =>
    refine ⟨_, .text_cons h .nil, fun frames e he => ?_⟩
    rw [foldlM_singleton, step_text he]
  | emptyList hw =>
    refine ⟨_, .mark_cons rfl (.space_append hw (.mark_cons rfl .nil)), fun frames e he => ?_⟩
    rw [List.foldlM_cons, step_openList he]
    exact foldlM_singleton _ .closeList
  | list _ ih =>
    obtain ⟨ts, hlex, hread⟩ := ih
    refine ⟨_, .mark_cons rfl (hlex.append_mark rfl .nil), fun frames e he => ?_⟩
    rw [List.foldlM_cons, step_openList he, Option.bind_eq_bind, Option.bind_some, List.foldlM_append,
      hread _ _ _ (.inr rfl)]
    refine (foldlM_singleton _ .closeList).trans (congrArg (Reading.receive _ <| .list ·) ?_)
    rw [List.append_nil, List.reverse_reverse]
  | emptyMap hw =>
    refine ⟨_, .mark_cons rfl (.space_append hw (.mark_cons rfl .nil)), fun frames e he => ?_⟩
    rw [List.foldlM_cons, step_openMap he]
    exact foldlM_singleton _ .closeMap
  | map _ ih =>
    obtain ⟨ts, hlex, hread⟩ := ih
    refine ⟨_, .mark_cons rfl (hlex.append_mark rfl .nil), fun frames e he => ?_⟩
    rw [List.foldlM_cons, step_openMap he, Option.bind_eq_bind, Option.bind_some, List.foldlM_append,
      hread _ _ _ (.inr rfl)]
    refine (foldlM_singleton _ .closeMap).trans (congrArg (Reading.receive _ <| .map <| fieldsOf ·) ?_)
    rw [List.append_nil, List.reverse_reverse]
  | item hw _ hw' ih =>
    obtain ⟨ts, hlex, hread⟩ := ih
    refine ⟨ts, .space_append hw (hlex.append_space hw'), fun frames us e he => ?_⟩
    rw [hread _ e he]
    rfl
  | field hw hk hw₁ hw₂ _ hw' ih =>
    obtain ⟨ts, hlex, hread⟩ := ih
    refine ⟨_, .space_append hw (.text_cons hk (.space_append hw₁ (.mark_cons rfl
      (.space_append hw₂ (hlex.append_space hw'))))), fun frames es e he => ?_⟩
    rw [List.foldlM_cons, step_key he, Option.bind_eq_bind, Option.bind_some, List.foldlM_cons]
    exact hread _ _ (.inl rfl)
  | moreItems _ _ ih ih' =>
    obtain ⟨ts, hlex, hread⟩ := ih
    obtain ⟨us, hlex', hread'⟩ := ih'
    refine ⟨_, hlex.append_mark rfl hlex', fun frames us e he => ?_⟩
    rw [List.foldlM_append, hread _ _ e he, Option.bind_eq_bind, Option.bind_some, List.foldlM_cons]
    refine (hread' _ _ _ (.inl rfl)).trans ?_
    rw [List.reverse_append, List.append_assoc]
  | moreFields _ _ ih ih' =>
    obtain ⟨ts, hlex, hread⟩ := ih
    obtain ⟨us, hlex', hread'⟩ := ih'
    refine ⟨_, hlex.append_mark rfl hlex', fun frames es e he => ?_⟩
    rw [List.foldlM_append, hread _ _ e he, Option.bind_eq_bind, Option.bind_some, List.foldlM_cons]
    refine (hread' _ _ _ (.inl rfl)).trans ?_
    rw [List.reverse_append, List.append_assoc]

/-- **Every text in JSON is read as the value that it stands for.** -/
theorem parse?_of_isText {v : Value} {s : String} (h : IsText v s) : parse? s = some v := by
  obtain @⟨w, cs, w', hw, h, hw'⟩ := h
  obtain ⟨ts, hlex, hread⟩ := h.exists_tokens
  have htokens : tokens? (w ++ (cs ++ w')) = some ts := by
    have hall := Lexes.space_append hw (hlex.append_space hw') [] (by simp)
    rwa [List.append_nil, tokens?_nil, Option.map_some, List.append_nil] at hall
  have hrun : ts.foldlM Reading.step ⟨[], .value, none⟩ = some ⟨[], .separator, some v⟩ :=
    hread [] .value (.inl rfl)
  rw [parse?, String.toList_ofList, htokens, Option.bind_eq_bind, Option.bind_some, hrun]
  rfl

/-- No text stands for two values. -/
theorem IsText.unique {v w : Value} {s : String} (h : IsText v s) (h' : IsText w s) : v = w :=
  Option.some.inj ((parse?_of_isText h).symm.trans (parse?_of_isText h'))

end ApiContract.Json
