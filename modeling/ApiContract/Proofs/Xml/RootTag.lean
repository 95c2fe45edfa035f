import ApiContract.Proofs.Xml.Bindings
import ApiContract.Proofs.Xml.StartTag

/-!
The start tag of the root. The prolog ends where it begins, a lexeme of the content changes neither
the name nor the attributes of the outermost element, and so an element that is read has those of its
start tag (`exists_rootTag_of_readDocument`). The text of a tag is its name and its attributes, one
after the other (`exists_tagBody_of_scanLexeme`).
-/

namespace ApiContract.Xml

open ApiContract.Text

variable {a : Alphabet} {d : Declarations} {s : Source} {cs place rest start : List Char}

/-! ### The tag -/

/-- The start tag of a root: what the document type says, the text from the tag on, the name and the
attributes as they are written, and the element that is opened. -/
structure RootTag where
  declarations : Declarations
  place : List Char
  name : RawName
  attributes : List RawAttribute
  element : Frame

/-- The start tag of the root, after what stands before it. -/
def rootTag (s : Source) : Except Fault RootTag := do
  let (d, place) ← readProlog s.alphabet (.empty s.standalone) false s.rest
  match ← scanLexeme s.alphabet place with
  | (.start name attributes _, _) => do
    let element ← openElement s.alphabet d .initial place name attributes
    pure ⟨d, place, name, attributes, element⟩
  | _ => throw .ended

theorem rootTag_eq_ok_iff {t : RootTag} :
    rootTag s = .ok t ↔
      readProlog s.alphabet (.empty s.standalone) false s.rest = .ok (t.declarations, t.place) ∧
      (∃ closed rest, scanLexeme s.alphabet t.place =
        .ok (.start t.name t.attributes closed, rest)) ∧
      openElement s.alphabet t.declarations .initial t.place t.name t.attributes =
        .ok t.element := by
  unfold rootTag
  constructor
  · intro h
    obtain ⟨⟨d, place⟩, hp, h⟩ := bind_eq_ok_iff.1 h
    obtain ⟨⟨l, rest⟩, hl, h⟩ := bind_eq_ok_iff.1 h
    cases l with
    | start name attributes closed =>
      obtain ⟨element, ho, h⟩ := bind_eq_ok_iff.1 h
      cases h
      exact ⟨hp, ⟨closed, rest, hl⟩, ho⟩
    | _ => cases h
  · rintro ⟨hp, ⟨closed, rest, hl⟩, ho⟩
    rw [bind_eq_ok_iff]
    refine ⟨_, hp, bind_eq_ok_iff.2 ⟨_, hl, bind_eq_ok_iff.2 ⟨_, ho, rfl⟩⟩⟩

/-- What a start tag makes of the open elements. -/
lemma Frames.step_start (fs : Frames) (start : List Char) (n : RawName) (as : List RawAttribute)
    (closed : Bool) : fs.step a d start (.start n as closed) =
      (openElement a d fs.scope start n as).map fun f =>
        if closed then fs.add f.toNode else .within (f :: fs) := by
  simp only [Frames.step]
  cases openElement a d fs.scope start n as with
  | error e => rfl
  | ok f => rfl

/-! ### The root keeps what its tag gives -/

/-- The outermost of the open elements has the name and the attributes of `f`. -/
inductive Frames.RestsOn (f : Frame) : Frames → Prop where
  | base {g : Frame} (hn : g.name = f.name) (ha : g.attributes = f.attributes) : RestsOn f [g]
  | push {g : Frame} {fs : Frames} (h : RestsOn f fs) : RestsOn f (g :: fs)

/-- The outermost element, open or complete, has the name and the attributes of `f`. -/
def Progress.RestsOn (f : Frame) : Progress → Prop
  | within fs => fs.RestsOn f
  | complete root => ∃ children, root = .element f.name f.attributes children

lemma Frames.RestsOn.add {f : Frame} {fs : Frames} (h : fs.RestsOn f) (n : Node) :
    (fs.add n).RestsOn f := by
  cases h with
  | base hn ha => exact .base hn ha
  | push h => exact .push h

/-- **A lexeme changes neither the name nor the attributes of the outermost element.** -/
theorem Frames.RestsOn.step {f : Frame} {fs : Frames} {l : Lexeme} {p : Progress}
    (h : fs.RestsOn f) (hs : fs.step a d start l = .ok p) : p.RestsOn f := by
  cases l with
  | start n as closed =>
    obtain ⟨g, -, hs⟩ := bind_eq_ok_iff.1 hs
    cases hs
    cases closed with
    | true => exact h.add _
    | false => exact .push h
  | stop n =>
    cases h with
    | @base g hn ha =>
      simp only [Frames.step] at hs
      split at hs
      · cases hs
        exact ⟨g.children.reverse, by rw [← hn, ← ha]; rfl⟩
      · cases hs
    | push h =>
      simp only [Frames.step] at hs
      split at hs
      · cases hs; exact h.add _
      · cases hs
  | text cs => cases hs; exact h.add _
  | reference r =>
    obtain ⟨c, -, rfl⟩ := map_eq_ok_iff.1 hs
    exact h.add _
  | aside => cases hs; exact h

/-- The root at the end of the content has the name and the attributes of the outermost element. -/
theorem Frames.RestsOn.readContent {f : Frame} {fs : Frames} {root : Node} (h : fs.RestsOn f)
    (hr : Xml.readContent a d fs cs = .ok (root, rest)) :
    ∃ children, root = .element f.name f.attributes children := by
  fun_induction Xml.readContent a d fs cs with
  | case1 => cases hr
  | case2 => cases hr
  | case3 fs cs l r hl root' hs =>
    cases hr
    exact h.step hs
  | case4 fs cs l r hl fs' hs ih => exact ih (h.step hs) hr

/-! ### What stands before the tag -/

/-- The prolog ends where an element begins. -/
lemma exists_element_of_readProlog {typed : Bool} {d' : Declarations}
    (h : readProlog a d typed cs = .ok (d', place)) :
    ∃ rest, Doctype.scanToken a place = .ok (.element, rest) := by
  fun_induction readProlog a d typed cs with
  | case1 => cases h
  | case2 => cases h
  | case3 _ _ _ _ _ _ ih => exact ih h
  | case4 _ _ _ _ _ _ ih => exact ih h
  | case5 _ _ _ _ rest ht => cases h; exact ⟨rest, ht⟩
  | case6 => cases h
  | case7 => rename_i ih; exact ih h
  | case8 => cases h

lemma scanComment_eq_aside {l : Lexeme} (h : scanComment cs = .ok (l, rest)) : l = .aside := by
  unfold scanComment at h
  split at h
  · cases h
  · rename_i cs
    fun_induction scanCommentTail cs with
    | case1 => cases h; rfl
    | case4 _ _ _ _ _ _ ih => exact ih h
    | _ => cases h
  · cases h

/-- **What a lexeme is, by its beginning**: a start tag, a comment or an instruction, or one that opens
no element. -/
lemma scanLexeme_cases {l : Lexeme} (h : scanLexeme a cs = .ok (l, rest)) :
    (∃ r, cs = '<' :: r ∧ scanStart a r = .ok (l, rest)) ∨
    (l = .aside ∧ ((∃ r, cs = '<' :: '?' :: r) ∨ ∃ r, cs = '<' :: '!' :: '-' :: r)) ∨
    (∃ n r, l = .stop n ∧ cs = '<' :: '/' :: r ∧ scanStop a r = .ok (l, rest)) ∨
    (∃ t, l = .text t) ∨ ∃ r, l = .reference r := by
  unfold scanLexeme at h
  split at h
  · cases h
  · cases h
  · cases h
  · cases h
  · rename_i c cs _ _ _
    split at h
    · rename_i hc
      subst hc
      unfold scanMarkup at h
      split at h
      · cases h
      · have hs := Scan.of_within h
        obtain ⟨n, rfl⟩ : ∃ n, l = .stop n := by
          unfold scanStop at hs
          repeat' split at hs
          all_goals cases hs
          exact ⟨_, rfl⟩
        exact .inr (.inr (.inl ⟨n, _, rfl, rfl, hs⟩))
      · repeat' split at h
        all_goals cases h
        exact .inr (.inl ⟨rfl, .inl ⟨_, rfl⟩⟩)
      · cases h
      · refine .inr (.inl ⟨?_, .inr ⟨_, rfl⟩⟩)
        exact scanComment_eq_aside (Scan.of_within h)
      · unfold scanSection at h
        repeat' split at h
        all_goals cases h
        exact .inr (.inr (.inr (.inl ⟨_, rfl⟩)))
      · cases h
      · exact .inl ⟨_, rfl, Scan.of_within h⟩
    · split at h
      · cases hr : (scanReference a cs).within (c :: cs) with
        | error e => rw [hr] at h; cases h
        | ok p => rw [hr] at h; cases h; exact .inr (.inr (.inr (.inr ⟨_, rfl⟩)))
      · repeat' split at h
        all_goals cases h
        exact .inr (.inr (.inr (.inl ⟨_, rfl⟩)))

/-- The text of a start tag. -/
theorem exists_tagBody_of_scanLexeme {n : RawName} {rs : List RawAttribute} {closed : Bool}
    (h : scanLexeme a cs = .ok (.start n rs closed, rest)) :
    IsUnmarked n.written.toList ∧
      ∃ body, TagBody rs body ∧ cs = '<' :: (n.written.toList ++ (body ++ '>' :: rest)) := by
  rcases scanLexeme_cases h with ⟨r, rfl, hs⟩ | ⟨hl, -⟩ | ⟨_, _, hl, -⟩ | ⟨_, hl⟩ | ⟨_, hl⟩
  · unfold scanStart at hs
    split at hs
    · cases hs
    · rename_i name after hname
      split at hs
      · cases hs
      · rename_i has
        cases hs
        obtain ⟨hr, hunmarked⟩ := scanRawName_eq hname
        obtain ⟨body, hbody, hafter⟩ := exists_tagBody_of_scanAttributes has
        exact ⟨hunmarked, body, hbody, by rw [hr, hafter]⟩
  all_goals cases hl

/-- No element begins where a comment or an instruction does. -/
lemma scanToken_of_aside {rest' : List Char} (h : scanLexeme a cs = .ok (.aside, rest)) :
    Doctype.scanToken a cs ≠ .ok (.element, rest') := by
  intro he
  rcases scanLexeme_cases h with ⟨r, -, hs⟩ | ⟨-, ⟨r, rfl⟩ | ⟨r, rfl⟩⟩ | ⟨_, _, hl, -⟩ | ⟨_, hl⟩ | ⟨_, hl⟩
  · unfold scanStart at hs
    repeat' split at hs
    all_goals cases hs
  · have he : (scanInstruction a r).map (fun p =>
        (if p.1 = .ordinary then Doctype.Token.aside else .misplaced, p.2)) =
        .ok (.element, rest') := he
    cases hs : scanInstruction a r with
    | error e => rw [hs] at he; cases he
    | ok p =>
      rw [hs] at he
      have ht := congrArg Prod.fst (Except.ok.inj he)
      simp only at ht
      split at ht <;> cases ht
  · have he : (scanComment r).map (fun p => (Doctype.Token.aside, p.2)) =
        .ok (.element, rest') := he
    cases hs : scanComment r with
    | error e => rw [hs] at he; cases he
    | ok p => rw [hs] at he; cases he
  all_goals cases hl

/-- **An element that is read has a start tag**, which gives its name and its attributes. -/
theorem exists_rootTag_of_readDocument {n : Name} {as : List (Name × String)}
    {children : List Node} (h : readDocument s = .ok (.element n as children)) :
    ∃ t, rootTag s = .ok t ∧ n = t.element.name ∧ as = t.element.attributes := by
  unfold readDocument at h
  obtain ⟨⟨d, place⟩, hp, h⟩ := bind_eq_ok_iff.1 h
  obtain ⟨⟨root, rest⟩, hc, h⟩ := bind_eq_ok_iff.1 h
  obtain ⟨-, -, h⟩ := bind_eq_ok_iff.1 h
  have hroot : root = .element n as children := by
    split at h <;> cases h
    rfl
  subst hroot
  obtain ⟨_, hmark⟩ := exists_element_of_readProlog hp
  rw [readContent] at hc
  split at hc
  · cases hc
  · rename_i l after hl
    cases l with
    | start name attributes closed =>
      rw [Frames.step_start] at hc
      cases ho : openElement s.alphabet d .initial place name attributes with
      | error e =>
        rw [Frames.scope, ho] at hc
        cases hc
      | ok f =>
        rw [Frames.scope, ho] at hc
        refine ⟨⟨d, place, name, attributes, f⟩,
          rootTag_eq_ok_iff.2 ⟨hp, ⟨closed, after, hl⟩, ho⟩, ?_⟩
        cases closed with
        | true => cases hc; exact ⟨rfl, rfl⟩
        | false =>
          have hf : Frames.RestsOn f [f] := .base rfl rfl
          obtain ⟨_, hroot⟩ := hf.readContent hc
          cases hroot
          exact ⟨rfl, rfl⟩
    | aside => exact absurd hmark (scanToken_of_aside hl)
    | stop n => cases hc
    | text cs => cases hc
    | reference r =>
      simp only [Frames.step] at hc
      cases hr : contentChar d place r with
      | error e => rw [hr] at hc; cases hc
      | ok c => rw [hr] at hc; cases hc

end ApiContract.Xml
