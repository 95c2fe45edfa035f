import ApiContract.Proofs.Yaml.Scanning

/-!
Keys on one line with their values. Such a key is a scalar that a colon follows; only there it turns out to be
one. If it has more characters than a key may reach, it is none, and the text goes wrong at the colon.
-/

namespace ApiContract.Yaml.Scanner

variable {b : Bool} {c : Char} {cs m t w : List Char} {k n : ℕ} {cols cols' : List ℕ} {T pre : List Token}
  {s s' : Scanner} {token : Token}

/-- The scanner at a colon, behind a scalar. -/
def atColon (s : Scanner) (w m : List Char) (token : Token) (ps : List (Int × Candidate)) : Scanner :=
  { s.push token with
    cursor := ⟨':' :: m, s.cursor.index + w.length, s.cursor.line, s.cursor.column + w.length⟩
    keyAllowed := false
    candidates := ps }

lemma indent_le (hs : s.columns = cols) (hcols : ∀ c ∈ cols.head?, c ≤ k) : s.indent ≤ k := by
  rw [indent, hs]
  cases cols with
  | nil => simp only; omega
  | cons c cols => exact Int.ofNat_le.2 (hcols c rfl)

/-- **The scalar before a colon.** -/
lemma Ready.fetchKey (h : s.Ready (w ++ ':' :: m) k cols T true) (hw : ScalarText n w token)
    (hline : ∀ c ∈ w, Cursor.TakesColumn c) (hm : gapFollows m = true) (hcols : ∀ c ∈ cols.head?, c ≤ k)
    (hn : k < n) (hmark : atDocumentMark (w ++ ':' :: m) = false) :
    s.fetchToken = .ok (s.atColon w m token [(0, s.candidate)]) := by
  have hcursor : s.cursor.moveTo (':' :: m) = _ := Cursor.moveTo_of_takesColumn h.rest hline
  have hindent := indent_le h.columns hcols
  cases hw with
  | quoted double hread =>
    rename_i w text
    have heq : quoteMark double :: (w ++ [quoteMark double]) ++ ':' :: m =
        quoteMark double :: ((w ++ [quoteMark double]) ++ ':' :: m) := rfl
    have hcut := cutQuotedScalar_eq (m := ':' :: m) hread (by rintro _ ⟨⟩; decide)
    rw [show w ++ quoteMark double :: ':' :: m = (w ++ [quoteMark double]) ++ ':' :: m by simp] at hcut
    rw [heq] at h
    have hcut' : cutQuotedScalar double (s.cursor.rest.drop 1) =
        .ok (.scalar (String.ofList text) false, ':' :: m) := by
      rw [h.rest]
      exact hcut
    have hfetch := fetchCut_of_eq (s := { s.marked true with keyAllowed := false }) hcut'
    rw [fetchToken_quoteMark h, Scanner.fetchName, h.addCandidate]
    refine hfetch.trans ?_
    exact congrArg (fun cursor => Except.ok
      { (s.marked true).push (.scalar (String.ofList text) false) with
        cursor := cursor, keyAllowed := false }) hcursor
  | plain hread hbegin =>
    rename_i text
    rw [fetchToken_plain h hbegin fun _ => hmark, h.fetchPlain hread (by omega) hindent (.colon hm), hcursor]
    rfl

lemma isStale_atColon {ps : List (Int × Candidate)} :
    (s.atColon w m token ps).isStale s.candidate = decide (keyReach < w.length) := by
  have hlength : s.cursor.index + w.length - s.cursor.index = w.length := by omega
  simp only [isStale, atColon, candidate, bne_self_eq_false, Bool.false_or, hlength]

/-- What is left of the scalar as one that may begin a key. -/
def reaching (s : Scanner) (w : List Char) : List (Int × Candidate) :=
  if keyReach < w.length then [] else [(0, s.candidate)]

lemma refreshed_atColon {ps : List (Int × Candidate)} (hps : ps = [(0, s.candidate)] ∨ ps = s.reaching w) :
    (s.atColon w m token ps).refreshed = s.atColon w m token (s.reaching w) := by
  have hfilter : ps.filter (fun p => !(s.atColon w m token ps).isStale p.2) = s.reaching w := by
    rcases hps with rfl | rfl <;> rw [reaching] <;> split_ifs with hlong <;> simp [isStale_atColon, hlong]
  exact congrArg (s.atColon w m token) hfilter

lemma skipSpace_atColon (ps : List (Int × Candidate)) :
    (s.atColon w m token ps).skipSpace = s.atColon w m token ps :=
  skipSpace_eq_self ⟨isFirm_cons.2 (by decide), by simp [atColon], by simp [atColon, byteOrderMark]⟩

lemma dropStale_atColon (hlong : keyReach < w.length → s.candidate.isRequired = false)
    {ps : List (Int × Candidate)} (hps : ps = [(0, s.candidate)] ∨ ps = s.reaching w) :
    (s.atColon w m token ps).dropStale = .ok (s.atColon w m token ps).refreshed := by
  refine dropStale_eq fun p hp hstale => ?_
  have hp' : p = (0, s.candidate) := by
    rcases hps with rfl | rfl
    · exact List.mem_singleton.1 hp
    · change p ∈ s.reaching w at hp
      rw [reaching] at hp
      split_ifs at hp
      · cases hp
      · exact List.mem_singleton.1 hp
  rw [hp', isStale_atColon] at hstale
  rw [hp']
  exact hlong (of_decide_eq_true hstale)

lemma Ready.atNext_atColon (h : s.Ready (w ++ ':' :: m) k cols T b) (hcols : ∀ c ∈ cols.head?, c ≤ k) :
    (s.atColon w m token [(0, s.candidate)]).atNext = s.atColon w m token (s.reaching w) := by
  have hcolumn : ∀ c ∈ cols.head?, c ≤ (s.atColon w m token (s.reaching w)).cursor.column := fun c hc =>
    Nat.le_trans (hcols c hc) (h.column ▸ Nat.le_add_right _ _)
  rw [atNext, refreshed_atColon (.inl rfl), skipSpace_atColon, refreshed_atColon (.inr rfl),
    closeBlocks_eq (s := s.atColon w m token (s.reaching w)) h.depth (show _ = [] ++ cols from h.columns)
      (List.forall_mem_nil _) hcolumn, ← h.columns]
  simp [atColon, push]

/-- The step from the colon on. -/
lemma run_atColon (hlong : keyReach < w.length → s.candidate.isRequired = false)
    (htokens : .streamEnd ∉ (s.atColon w m token [(0, s.candidate)]).tokens) (settled n : ℕ) :
    run none settled (n + 1) (s.atColon w m token [(0, s.candidate)]) =
      match (s.atColon w m token [(0, s.candidate)]).atNext.fetchToken with
      | .ok next => run none (s.atColon w m token [(0, s.candidate)]).refreshed.settled n next
      | .error e => .ofSlots (s.atColon w m token [(0, s.candidate)]).slots
          (s.atColon w m token [(0, s.candidate)]).refreshed.settled (some e) := by
  refine run_succ (dropStale_atColon hlong (.inl rfl)) ?_ htokens settled n
  rw [refreshed_atColon (.inl rfl), skipSpace_atColon]
  exact dropStale_atColon hlong (.inr rfl)

lemma fetchToken_colon (hrest : s.cursor.rest = ':' :: m) (hm : gapFollows m = true) :
    s.fetchToken = s.fetchValue := by
  rw [fetchToken, hrest]
  simp [isDocumentMark, List.isPrefixOf, hm]

lemma tokens_modify (slots : Array Slot) (pre : List Token) (t : Token) :
    ((slots.push ⟨[], t⟩).modify slots.size fun u => { u with opening := pre }) = slots.push ⟨pre, t⟩ := by
  ext i h h' : 1
  · simp
  · rw [Array.getElem_modify, Array.getElem_push, Array.getElem_push]
    grind

/-- **At a colon that is within its reach a scalar is a key.** -/
lemma Ready.fetchValue (h : s.Ready (w ++ ':' :: m) k cols T true) (hm : gapFollows m = true)
    (ho : Opens .blockMapping k cols cols' pre) (htoken : token ≠ .streamEnd) :
    ∃ s', (s.atColon w m token [(0, s.candidate)]).fetchToken = .ok s' ∧
      s'.Between m cols' (T ++ pre ++ [.key, token, .value]) false ∧ k < s'.cursor.column := by
  set q := s.atColon w m token [(0, s.candidate)] with hq
  have hflow : q.inFlow = false := by
    change (s.depth != 0) = false
    rw [h.depth]
    rfl
  have hopening : q.keyOpening s.candidate = (pre ++ [.key], cols') := by
    rw [keyOpening, hflow, if_neg Bool.false_ne_true, show s.candidate.column = k from h.column]
    obtain ⟨hopen, rfl, rfl⟩ | ⟨hopen, rfl⟩ := ho.openColumn (s := q) h.columns
    · rw [hopen]
      exact congrArg (Prod.mk _) h.columns
    · rw [hopen]
      rfl
  have hlookup : q.candidates.lookup q.depth = some s.candidate := by
    change [(0, s.candidate)].lookup s.depth = _
    rw [h.depth]
    rfl
  have hfilter : q.candidates.filter (·.1 != q.depth) = [] := by
    change [(0, s.candidate)].filter (·.1 != s.depth) = _
    rw [h.depth]
    rfl
  have hslots : q.slots.modify s.candidate.token (fun u => { u with opening := pre ++ [.key] }) =
      s.slots.push ⟨pre ++ [.key], token⟩ := tokens_modify _ _ _
  have hcursor : q.cursor.advance 1 =
      ⟨m, s.cursor.index + w.length + 1, s.cursor.line, s.cursor.column + w.length + 1⟩ :=
    Cursor.after_of_takesColumn (show Cursor.TakesColumn ':' from ⟨rfl, by decide⟩) _ _
  rw [fetchToken_colon rfl hm, Scanner.fetchValue, hlookup]
  simp only [hopening, hfilter, hslots]
  refine ⟨_, rfl, ⟨congrArg Cursor.rest hcursor, h.depth, rfl, ?_, rfl, List.forall_mem_nil _, ?_⟩, ?_⟩
  · have htokens : (s.slots.push ⟨pre ++ [.key], token⟩).toList.flatMap Slot.tokens =
      T ++ pre ++ [.key, token] := by
      rw [Array.toList_push, List.flatMap_append, show s.slots.toList.flatMap Slot.tokens = T from h.tokens]
      simp [Slot.tokens]
    have hsplit : T ++ pre ++ [.key, token, .value] = (T ++ pre ++ [.key, token]) ++ [.value] := by simp
    rw [hsplit, ← htokens]
    exact tokens_push _ _
  · have hpre : .streamEnd ∉ pre := ho.not_mem (by simp)
    simp [h.unfinished, htoken.symm, hpre]
  · refine Nat.lt_of_lt_of_eq ?_ (congrArg Cursor.column hcursor).symm
    have hcolumn := h.column
    simp only
    omega

lemma Ready.not_mem_atColon (h : s.Ready cs k cols T true) (htoken : token ≠ .streamEnd)
    (ps : List (Int × Candidate)) :
    .streamEnd ∉ (s.atColon w m token ps).tokens := by
  rw [show (s.atColon w m token ps).tokens = s.tokens ++ [token] from tokens_push _ _, h.tokens]
  simp [h.unfinished, htoken.symm]

/-- The text goes wrong at a colon that is out of the reach of the scalar. -/
lemma Ready.fails_atColon (h : s.Ready (w ++ ':' :: m) k cols T true) (hm : gapFollows m = true)
    (hcols : ∀ c ∈ cols.head?, c ≤ k) (htoken : token ≠ .streamEnd) (hlong : keyReach < w.length) :
    (s.atColon w m token [(0, s.candidate)]).Fails := by
  have htokens := h.not_mem_atColon (w := w) (m := m) htoken [(0, s.candidate)]
  intro settled n hn
  obtain ⟨n, rfl⟩ : ∃ n', n = n' + 1 := Nat.exists_eq_add_of_le' (Nat.lt_of_lt_of_le (Nat.succ_pos _) hn)
  by_cases hrequired : s.candidate.isRequired = true
  · have hdrop : (s.atColon w m token [(0, s.candidate)]).dropStale = .error .token := by
      rw [dropStale, if_pos]
      change (([(0, s.candidate)] : List (Int × Candidate)).any fun p =>
        (s.atColon w m token [(0, s.candidate)]).isStale p.2 && p.2.isRequired) = true
      simp [isStale_atColon, hlong, hrequired]
    rw [run, hdrop]
    exact not_mem_ofSlots htokens
  · have hfetch : (s.atColon w m token [(0, s.candidate)]).atNext.fetchToken = .error .token := by
      have hflow : (s.atColon w m token []).inFlow = false := by
        change (s.depth != 0) = false
        rw [h.depth]
        rfl
      rw [h.atNext_atColon hcols, reaching, if_pos hlong, fetchToken_colon rfl hm, Scanner.fetchValue]
      change (s.atColon w m token []).fetchBlockMark .blockMapping .value _ = _
      rw [Scanner.fetchBlockMark, hflow]
      rfl
    rw [run_atColon (fun _ => by simpa using hrequired) htokens, hfetch]
    exact not_mem_ofSlots htokens

/-- **A scalar and a colon behind it begin a field, if the scalar is not too long for that.** -/
theorem Stands.key (h : s.Stands (w ++ ':' :: m) k cols T true) (hw : ScalarText n w token)
    (hline : ∀ c ∈ w, Cursor.TakesColumn c) (hm : gapFollows m = true)
    (ho : Opens .blockMapping k cols cols' pre)
    (hn : k < n) (hmark : atDocumentMark (w ++ ':' :: m) = false) :
    if keyReach < w.length then s.Fails
    else ∃ s', s.Leads s' ∧ s'.Between m cols' (T ++ pre ++ [.key, token, .value]) false ∧
      k < s'.cursor.column := by
  have hready := h.atNext ho.le
  have htoken : token ≠ .streamEnd := by cases hw <;> nofun
  have hne : w ≠ [] := by
    rintro rfl
    cases hw with
    | plain _ hbegin => obtain ⟨c, rest, hcons, -⟩ := hbegin; cases hcons
  have hfetch := hready.fetchKey hw hline hm ho.le hn hmark
  have hlength : (':' :: m).length < (w ++ ':' :: m).length := by
    rw [List.length_append]
    have := List.length_pos_of_ne_nil hne
    omega
  have hleads := h.leads hfetch hlength
  split_ifs with hlong
  · exact (hready.fails_atColon hm ho.le htoken hlong).of_leads hleads
  · obtain ⟨s', hs', hbetween, hcolumn⟩ := hready.fetchValue hm ho htoken
    have hnext : (s.atNext.atColon w m token [(0, s.atNext.candidate)]).atNext.fetchToken = .ok s' := by
      rw [hready.atNext_atColon ho.le, reaching, if_neg hlong]
      exact hs'
    set q := s.atNext.atColon w m token [(0, s.atNext.candidate)]
    have hstep : q.Leads s' := by
      refine ⟨1, ?_, fun settled n => ⟨q.refreshed.settled, ?_⟩⟩
      · rw [hbetween.rest, Nat.add_comm]
        exact Nat.le_refl _
      · rw [run_atColon (fun h => absurd h hlong) (hready.not_mem_atColon htoken _), hnext]
    exact ⟨s', hleads.trans hstep, hbetween, hcolumn⟩

end ApiContract.Yaml.Scanner
