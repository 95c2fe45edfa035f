import ApiContract.Xml.Character
import ApiContract.Xml.Fault

/-!
The lexemes of XML content: tags, runs of text, references, character data sections, comments and
processing instructions. A scan takes a lexeme from the front of a text and gives what is left,
which is never more than it was given; the lemmas `*_length` say so. Where the end of the text cuts
a character, a name, a blank before a name, a value, a comment or an instruction is cut with it; in
all other places that character is one that may not stand there.
-/

namespace ApiContract.Xml

/-- A name as it is written: the part before the colon, if there is one, and the part after it. -/
structure RawName where
  label : Option String
  base : String
  deriving Repr, DecidableEq

/-- The name as it is written. -/
def RawName.written (n : RawName) : String := match n.label with
  | some l => l ++ ":" ++ n.base
  | none => n.base

/-- What follows the blanks at the front. -/
def dropSpace (cs : List Char) : List Char := cs.dropWhile isSpace

theorem length_dropWhile_le {α : Type} (p : α → Bool) (l : List α) :
    (l.dropWhile p).length ≤ l.length := (List.dropWhile_sublist p).length_le

theorem dropSpace_length (cs : List Char) : (dropSpace cs).length ≤ cs.length :=
  length_dropWhile_le isSpace cs

/-- The text with one way to end a line. -/
def normalizeLines : List Char → List Char
  | '\r' :: '\n' :: cs => '\n' :: normalizeLines cs
  | '\r' :: cs => '\n' :: normalizeLines cs
  | c :: cs => c :: normalizeLines cs
  | [] => []

/-! ### Names -/

/-- A name without a colon. -/
def scanName (a : Alphabet) : List Char → Scan String
  | [] => .error .ended
  | c :: cs =>
    if a.isNameStart c then
      if startsCut (cs.dropWhile a.isNameChar) then .error .cut
      else .ok (String.ofList (c :: cs.takeWhile a.isNameChar), cs.dropWhile a.isNameChar)
    else .error (.ofRest (c :: cs))

theorem scanName_length {a : Alphabet} {cs rest : List Char} {n : String}
    (h : scanName a cs = .ok (n, rest)) : rest.length < cs.length := by
  cases cs with
  | nil => cases h
  | cons c cs =>
    simp only [scanName] at h
    split at h
    · split at h
      · cases h
      · cases h
        have := length_dropWhile_le a.isNameChar cs
        simp only [List.length_cons]; omega
    · cases h

/-- A name with a colon at most. -/
def scanRawName (a : Alphabet) (cs : List Char) : Scan RawName :=
  match scanName a cs with
  | .error e => .error e
  | .ok (n, ':' :: rest) => match scanName a rest with
    | .error e => .error e
    | .ok (b, rest) => .ok (⟨some n, b⟩, rest)
  | .ok (n, rest) => .ok (⟨none, n⟩, rest)

theorem scanRawName_length {a : Alphabet} {cs rest : List Char} {n : RawName}
    (h : scanRawName a cs = .ok (n, rest)) : rest.length < cs.length := by
  unfold scanRawName at h
  split at h
  · cases h
  · rename_i n r ha
    have h₁ := scanName_length ha
    split at h
    · cases h
    · rename_i b r' hb
      have h₂ := scanName_length hb
      cases h
      simp only [List.length_cons] at h₁; omega
  · rename_i ha
    have h₁ := scanName_length ha
    cases h; exact h₁

/-! ### References -/

/-- What stands between an ampersand and a semicolon: the number of a character, or a name. -/
inductive Reference where
  | character (n : Nat)
  | entity (name : String)
  deriving Repr, DecidableEq

/-- The value of a digit in base ten or sixteen. -/
def digitIn? (base : Nat) (c : Char) : Option Nat :=
  let n := c.toNat
  if 48 ≤ n ∧ n ≤ 57 then some (n - 48)
  else if base = 16 ∧ 97 ≤ n ∧ n ≤ 102 then some (n - 87)
  else if base = 16 ∧ 65 ≤ n ∧ n ≤ 70 then some (n - 55)
  else none

/-- The digits of a number up to the semicolon, after digits that make `n`. -/
def scanDigits (base n : Nat) : List Char → Scan Reference
  | [] => .error .ended
  | c :: cs => match digitIn? base c with
    | some d => scanDigits base (n * base + d) cs
    | none => if c = ';' then .ok (.character n, cs) else .error (.invalid (c :: cs))

/-- A number, of which there must be a digit. -/
def scanNumber (base : Nat) : List Char → Scan Reference
  | [] => .error .ended
  | c :: cs => match digitIn? base c with
    | some d => scanDigits base d cs
    | none => .error (.invalid (c :: cs))

/-- What comes after an ampersand. -/
def scanReference (a : Alphabet) : List Char → Scan Reference
  | '#' :: 'x' :: cs => scanNumber 16 cs
  | '#' :: cs => scanNumber 10 cs
  | cs => match scanName a cs with
    | .error e => .error e
    | .ok (n, ';' :: rest) => .ok (.entity n, rest)
    | .ok (_, []) => .error .ended
    | .ok (_, rest) => .error (.invalid rest)

theorem scanDigits_length {base n : Nat} {cs rest : List Char} {r : Reference}
    (h : scanDigits base n cs = .ok (r, rest)) : rest.length < cs.length := by
  induction cs generalizing n with
  | nil => cases h
  | cons c cs ih =>
    simp only [scanDigits] at h
    split at h
    · have := ih h
      simp only [List.length_cons]; omega
    · split at h
      · cases h; simp
      · cases h

theorem scanNumber_length {base : Nat} {cs rest : List Char} {r : Reference}
    (h : scanNumber base cs = .ok (r, rest)) : rest.length < cs.length := by
  cases cs with
  | nil => cases h
  | cons c cs =>
    simp only [scanNumber] at h
    split at h
    · have := scanDigits_length h
      simp only [List.length_cons]; omega
    · cases h

theorem scanReference_length {a : Alphabet} {cs rest : List Char} {r : Reference}
    (h : scanReference a cs = .ok (r, rest)) : rest.length < cs.length := by
  unfold scanReference at h
  split at h
  · have := scanNumber_length h
    simp only [List.length_cons]; omega
  · have := scanNumber_length h
    simp only [List.length_cons]; omega
  · split at h
    · cases h
    · rename_i hn
      have := scanName_length hn
      cases h
      simp only [List.length_cons] at this; omega
    · cases h
    · cases h

/-- The character that a reference to a number stands for, if there is such a character. -/
def referredChar? (n : Nat) : Option Char :=
  if h : n.isValidChar then
    let c := Char.ofNatAux n h
    if isAllowed c then some c else none
  else none

/-- The characters that the entities of every document stand for. -/
def namedChar? : String → Option Char
  | "lt" => some '<'
  | "gt" => some '>'
  | "amp" => some '&'
  | "quot" => some '"'
  | "apos" => some '\''
  | _ => none

/-! ### Attributes -/

/-- An attribute as it is written: its name, the text from the name on, its value, and the text from
the value on. -/
structure RawAttribute where
  name : RawName
  place : List Char
  value : List Char
  valuePlace : List Char

/-- The value of an attribute up to the closing quote; what follows the quote is left. References
must be complete, and there is no `<`. -/
def scanValue (a : Alphabet) (quote : Char) (cs : List Char) : Scan (List Char) :=
  match cs with
  | [] => .error .ended
  | c :: rest =>
    if c = quote then .ok ([], rest)
    else if c = '<' ∨ ¬ isAllowed c then .error (.ofRest cs)
    else
      let reference : Scan Unit := if c = '&' then (scanReference a rest).map fun p => ((), p.2)
        else .ok ((), rest)
      match reference with
      | .error e => .error e
      | .ok _ => match scanValue a quote rest with
        | .error e => .error e
        | .ok (v, rest) => .ok (c :: v, rest)

theorem scanValue_length {a : Alphabet} {quote : Char} {cs rest v : List Char}
    (h : scanValue a quote cs = .ok (v, rest)) : rest.length < cs.length := by
  induction cs generalizing v with
  | nil => cases h
  | cons c cs ih =>
    unfold scanValue at h
    split at h
    · cases h; simp
    · split at h
      · cases h
      · simp only at h
        split at h
        · cases h
        · split at h
          · cases h
          · rename_i hv
            cases h
            have := ih hv
            simp only [List.length_cons]; omega

/-- An attribute: a name, an equals sign and a quoted value. -/
def scanAttribute (a : Alphabet) (cs : List Char) : Scan RawAttribute :=
  match scanRawName a cs with
  | .error e => .error e
  | .ok (name, rest) => match dropSpace rest with
    | [] => .error .ended
    | '=' :: rest => match dropSpace rest with
      | [] => .error .ended
      | q :: rest =>
        if q = '"' ∨ q = '\'' then match scanValue a q rest with
          | .error e => .error e
          | .ok (v, left) => .ok (⟨name, cs, v, rest⟩, left)
        else .error (.invalid (q :: rest))
    | rest => .error (.invalid rest)

theorem scanAttribute_length {a : Alphabet} {cs rest : List Char} {r : RawAttribute}
    (h : scanAttribute a cs = .ok (r, rest)) : rest.length < cs.length := by
  unfold scanAttribute at h
  split at h
  · cases h
  · rename_i name r hr
    have h₁ := scanRawName_length hr
    have h₂ := dropSpace_length r
    split at h
    · cases h
    · rename_i r' hr'
      have h₃ := dropSpace_length r'
      split at h
      · cases h
      · rename_i q r'' hq
        split at h
        · split at h
          · cases h
          · rename_i hv
            have h₄ := scanValue_length hv
            cases h
            rw [hr'] at h₂
            rw [hq] at h₃
            simp only [List.length_cons] at *; omega
        · cases h
    · cases h

/-- The end of a start tag, and whether it closes the element at once. -/
def tagEnd? : List Char → Option (Scan Bool)
  | [] => some (.error .ended)
  | '>' :: rest => some (.ok (false, rest))
  | ['/'] => some (.error .ended)
  | '/' :: '>' :: rest => some (.ok (true, rest))
  | '/' :: rest => some (.error (.invalid rest))
  | _ => none

theorem tagEnd?_length {cs rest : List Char} {b : Bool} (h : tagEnd? cs = some (.ok (b, rest))) :
    rest.length < cs.length := by
  unfold tagEnd? at h
  split at h <;> simp at h
  · obtain ⟨_, rfl⟩ := h; simp
  · obtain ⟨_, rfl⟩ := h; simp only [List.length_cons]; omega

/-- The attributes of a start tag up to its end. Each of them follows a blank. -/
def scanAttributes (a : Alphabet) (cs : List Char) : Scan (List RawAttribute × Bool) :=
  match tagEnd? (dropSpace cs) with
  | some (.ok (closed, rest)) => .ok (([], closed), rest)
  | some (.error e) => .error e
  | none =>
    if (cs.head?.map isSpace).getD false then
      match _h : scanAttribute a (dropSpace cs) with
      | .error e => .error e
      | .ok (r, rest) => match scanAttributes a rest with
        | .error e => .error e
        | .ok ((rs, closed), rest) => .ok ((r :: rs, closed), rest)
    else .error (.invalid cs)
  termination_by cs.length
  decreasing_by
    have := scanAttribute_length ‹_›
    have := dropSpace_length cs
    omega

theorem scanAttributes_length {a : Alphabet} {cs rest : List Char} {p : List RawAttribute × Bool}
    (h : scanAttributes a cs = .ok (p, rest)) : rest.length < cs.length := by
  fun_induction scanAttributes a cs generalizing p with
  | case1 cs closed r hr =>
    have := tagEnd?_length hr
    have := dropSpace_length cs
    cases h; omega
  | case2 => cases h
  | case3 => cases h
  | case4 => cases h
  | case5 cs _ _ a r ha as closed r' hr ih =>
    cases h
    have := ih hr
    have := scanAttribute_length ha
    have := dropSpace_length cs
    omega
  | case6 => cases h

/-! ### Lexemes -/

/-- A lexeme. What a comment or an instruction holds is of no account. -/
inductive Lexeme where
  | start (name : RawName) (attributes : List RawAttribute) (closed : Bool)
  | stop (name : String)
  | text (cs : List Char)
  | reference (r : Reference)
  | aside

/-- A tag that starts an element, after the `<`. -/
def scanStart (a : Alphabet) (cs : List Char) : Scan Lexeme :=
  match scanRawName a cs with
  | .error e => .error e
  | .ok (name, rest) => match scanAttributes a rest with
    | .error e => .error e
    | .ok ((as, closed), rest) => .ok (.start name as closed, rest)

/-- A character of the name in a tag that ends an element. -/
def isStopChar (a : Alphabet) (c : Char) : Bool := a.isNameChar c || c == ':'

/-- A tag that ends an element, after the `</`. -/
def scanStop (a : Alphabet) : List Char → Scan Lexeme
  | [] => .error .ended
  | c :: cs =>
    if ¬ a.isNameStart c then .error (.ofRest (c :: cs))
    else if startsCut (cs.dropWhile (isStopChar a)) then .error .cut
    else match dropSpace (cs.dropWhile (isStopChar a)) with
      | [] => .error .ended
      | '>' :: rest => .ok (.stop (String.ofList (c :: cs.takeWhile (isStopChar a))), rest)
      | rest => .error (.invalid rest)

/-- A comment, after the first two hyphens. Two more end it, with a `>` at once. -/
def scanCommentTail : List Char → Scan Lexeme
  | '-' :: '-' :: '>' :: rest => .ok (.aside, rest)
  | ['-', '-'] => .error .ended
  | '-' :: '-' :: rest => .error (.invalid rest)
  | c :: rest => if isAllowed c then scanCommentTail rest else .error (.ofRest (c :: rest))
  | [] => .error .ended

/-- A comment, after the first hyphen. -/
def scanComment : List Char → Scan Lexeme
  | [] => .error .ended
  | '-' :: rest => scanCommentTail rest
  | rest => .error (.invalid rest)

/-- A processing instruction from the blank after its target on. -/
def scanInstructionTail : List Char → Scan Lexeme
  | '?' :: '>' :: rest => .ok (.aside, rest)
  | c :: rest => if isAllowed c then scanInstructionTail rest else .error (.ofRest (c :: rest))
  | [] => .error .ended

/-- What an instruction is for. The name `xml` is reserved, and in any other case it is no target. -/
inductive Target where
  | ordinary | declaration | reserved
  deriving DecidableEq

/-- The kind of a target. -/
def Target.ofName (n : String) : Target :=
  if n = "xml" then .declaration
  else match n.toList with
    | [a, b, c] =>
      if (a = 'x' ∨ a = 'X') ∧ (b = 'm' ∨ b = 'M') ∧ (c = 'l' ∨ c = 'L') then .reserved else .ordinary
    | _ => .ordinary

/-- A processing instruction after the `<?`, with its target. -/
def scanInstruction (a : Alphabet) (cs : List Char) : Scan Target :=
  match scanName a cs with
  | .error e => .error e
  | .ok (_, []) => .error .ended
  | .ok (n, c :: rest) =>
    if c ≠ '?' ∧ ¬ isSpace c then .error (.invalid (c :: rest))
    else if Target.ofName n = .reserved then .error (.invalid (c :: rest))
    else if c = '?' then match rest with
      | [] => .error .ended
      | '>' :: rest => .ok (.ofName n, rest)
      | rest => .error (.invalid rest)
    else match scanInstructionTail rest with
      | .error e => .error e
      | .ok (_, rest) => .ok (.ofName n, rest)

/-- The word that starts a character data section, after the `<![`. -/
def sectionWord : List Char := "CDATA[".toList

/-- What is left after a word that must come, once there are as many units as it has. -/
def scanWord (a : Alphabet) (word cs : List Char) : Scan Unit :=
  if ((cs.take word.length).map a.width).foldl (· + ·) 0 < word.length then .error .ended
  else if word.isPrefixOf cs then .ok ((), cs.drop word.length)
  else .error (.invalid (afterCommon word cs))
where
  /-- The part of the second text from the first character on that differs from the first text. -/
  afterCommon : List Char → List Char → List Char
    | w :: ws, c :: cs => if w = c then afterCommon ws cs else c :: cs
    | _, cs => cs

/-- The characters of a section up to its end. -/
def scanSectionTail : List Char → Except Fault (List Char × List Char)
  | ']' :: ']' :: '>' :: rest => .ok ([], rest)
  | [']', ']'] => .error (.malformed .unclosedSection [']', ']'])
  | [']'] => .error (.malformed .unclosedSection [']'])
  | ['\r'] => .error (.malformed .unclosedSection ['\r'])
  | [] => .error (.malformed .unclosedSection [])
  | c :: rest =>
    if isAllowed c then (scanSectionTail rest).map fun p => (c :: p.1, p.2)
    else .error ((Lapse.ofRest (c :: rest)).toFault (c :: rest))

/-- The longest run of text at the front: it ends before a tag, a reference, the end of a section, a
character that may not stand in a document, and before what ends the text and may belong to more. -/
def cutRun : List Char → List Char × List Char
  | [] => ([], [])
  | c :: rest =>
    if c = '<' ∨ c = '&' ∨ ¬ isAllowed c ∨ (c = ']' ∧ rest.take 2 = [']', '>']) then ([], c :: rest)
    else if (c = '\r' ∧ rest = []) ∨ (c = ']' ∧ (rest = [] ∨ rest = [']'])) then ([], c :: rest)
    else
      let p := cutRun rest
      (c :: p.1, p.2)

theorem cutRun_length (cs : List Char) : (cutRun cs).2.length ≤ cs.length := by
  induction cs with
  | nil => simp [cutRun]
  | cons c cs ih =>
    unfold cutRun
    split
    · simp
    · split
      · simp
      · simp only [List.length_cons]; omega

/-- A character data section, after the `<![`, in a text that begins with `start`. -/
def scanSection (a : Alphabet) (start cs : List Char) : Except Fault (Lexeme × List Char) :=
  match (scanWord a sectionWord cs).within start with
  | .error e => .error e
  | .ok (_, rest) => match scanSectionTail rest with
    | .error e => .error e
    | .ok (v, rest) => .ok (.text (normalizeLines v), rest)

/-- The lexeme at the front of a text that begins with `<`. -/
def scanMarkup (a : Alphabet) (start : List Char) : List Char → Except Fault (Lexeme × List Char)
  | [] => .error (.malformed .unclosedToken start)
  | '/' :: cs => (scanStop a cs).within start
  | '?' :: cs => match (scanInstruction a cs).within start with
    | .error e => .error e
    | .ok (.ordinary, rest) => .ok (.aside, rest)
    | .ok (_, _) => .error (.malformed .misplacedDeclaration start)
  | ['!'] => .error (.malformed .unclosedToken start)
  | '!' :: '-' :: cs => (scanComment cs).within start
  | '!' :: '[' :: cs => scanSection a start cs
  | '!' :: cs => .error (.malformed .invalidToken cs)
  | cs => (scanStart a cs).within start

/-- The lexeme at the front of a text. -/
def scanLexeme (a : Alphabet) : List Char → Except Fault (Lexeme × List Char)
  | [] => .error .ended
  | ['\r'] => .error (.malformed .noElement ['\r'])
  | [']'] | [']', ']'] => .error (.malformed .noElement [])
  | c :: cs =>
    if c = '<' then scanMarkup a (c :: cs) cs
    else if c = '&' then
      ((scanReference a cs).within (c :: cs)).map fun p => (.reference p.1, p.2)
    else if ¬ isAllowed c then .error ((Lapse.ofRest (c :: cs)).toFault (c :: cs))
    else if c = ']' ∧ cs.take 2 = [']', '>'] then .error (.malformed .invalidToken (cs.drop 1))
    else
      let p := cutRun cs
      .ok (.text (normalizeLines (c :: p.1)), p.2)

/-! ### Each scan leaves less than it was given -/

theorem scanStart_length {a : Alphabet} {cs rest : List Char} {l : Lexeme}
    (h : scanStart a cs = .ok (l, rest)) : rest.length < cs.length := by
  unfold scanStart at h
  split at h
  · cases h
  · rename_i hn
    have h₁ := scanRawName_length hn
    split at h
    · cases h
    · rename_i ha
      have h₂ := scanAttributes_length ha
      cases h; omega

theorem scanStop_length {a : Alphabet} {cs rest : List Char} {l : Lexeme}
    (h : scanStop a cs = .ok (l, rest)) : rest.length < cs.length := by
  unfold scanStop at h
  split at h
  · cases h
  · rename_i c cs
    split at h
    · cases h
    · split at h
      · cases h
      · have h₁ := dropSpace_length (cs.dropWhile (isStopChar a))
        have h₂ := length_dropWhile_le (isStopChar a) cs
        split at h
        · cases h
        · rename_i hr
          cases h
          rw [hr] at h₁
          simp only [List.length_cons] at *; omega
        · cases h

theorem scanCommentTail_length {cs rest : List Char} {l : Lexeme}
    (h : scanCommentTail cs = .ok (l, rest)) : rest.length < cs.length := by
  fun_induction scanCommentTail cs with
  | case1 => cases h; simp only [List.length_cons]; omega
  | case4 c cs _ _ _ _ ih =>
    have := ih h
    simp only [List.length_cons]; omega
  | _ => cases h

theorem scanComment_length {cs rest : List Char} {l : Lexeme}
    (h : scanComment cs = .ok (l, rest)) : rest.length < cs.length := by
  unfold scanComment at h
  split at h
  · cases h
  · have := scanCommentTail_length h
    simp only [List.length_cons]; omega
  · cases h

theorem scanInstructionTail_length {cs rest : List Char} {l : Lexeme}
    (h : scanInstructionTail cs = .ok (l, rest)) : rest.length < cs.length := by
  fun_induction scanInstructionTail cs with
  | case1 => cases h; simp only [List.length_cons]; omega
  | case2 c cs _ _ ih =>
    have := ih h
    simp only [List.length_cons]; omega
  | _ => cases h

theorem scanInstruction_length {a : Alphabet} {cs rest : List Char} {t : Target}
    (h : scanInstruction a cs = .ok (t, rest)) : rest.length < cs.length := by
  unfold scanInstruction at h
  split at h
  · cases h
  · cases h
  · rename_i n c r hn
    have h₁ := scanName_length hn
    simp only [List.length_cons] at h₁
    split at h
    · cases h
    · split at h
      · cases h
      · split at h
        · split at h
          · cases h
          · cases h
            simp only [List.length_cons] at h₁; omega
          · cases h
        · split at h
          · cases h
          · rename_i ht
            have h₂ := scanInstructionTail_length ht
            cases h; omega

theorem scanSectionTail_length {cs rest v : List Char} (h : scanSectionTail cs = .ok (v, rest)) :
    rest.length < cs.length := by
  fun_induction scanSectionTail cs generalizing v with
  | case1 => cases h; simp only [List.length_cons]; omega
  | case6 c cs _ _ _ _ _ ih =>
    cases hs : scanSectionTail cs with
    | error e => rw [hs] at h; cases h
    | ok p =>
      rw [hs] at h
      cases h
      have := ih hs
      simp only [List.length_cons]; omega
  | _ => cases h

theorem scanWord_length {a : Alphabet} {word cs rest : List Char}
    (h : scanWord a word cs = .ok ((), rest)) : rest.length ≤ cs.length := by
  unfold scanWord at h
  split at h
  · cases h
  · split at h
    · cases h; simp
    · cases h

theorem scanSection_length {a : Alphabet} {start cs rest : List Char} {l : Lexeme}
    (h : scanSection a start cs = .ok (l, rest)) : rest.length < cs.length := by
  unfold scanSection at h
  split at h
  · cases h
  · rename_i hw
    have h₁ := scanWord_length (Scan.of_within hw)
    split at h
    · cases h
    · rename_i hs
      have h₂ := scanSectionTail_length hs
      cases h; omega

theorem scanMarkup_length {a : Alphabet} {start cs rest : List Char} {l : Lexeme}
    (h : scanMarkup a start cs = .ok (l, rest)) : rest.length < cs.length := by
  unfold scanMarkup at h
  split at h
  · cases h
  · have := scanStop_length (Scan.of_within h)
    simp only [List.length_cons]; omega
  · split at h
    · cases h
    · rename_i hi
      have := scanInstruction_length (Scan.of_within hi)
      cases h
      simp only [List.length_cons]; omega
    · cases h
  · cases h
  · have := scanComment_length (Scan.of_within h)
    simp only [List.length_cons]; omega
  · have := scanSection_length h
    simp only [List.length_cons]; omega
  · cases h
  · exact scanStart_length (Scan.of_within h)

theorem scanLexeme_length {a : Alphabet} {cs rest : List Char} {l : Lexeme}
    (h : scanLexeme a cs = .ok (l, rest)) : rest.length < cs.length := by
  unfold scanLexeme at h
  split at h
  · cases h
  · cases h
  · cases h
  · cases h
  · rename_i c cs _ _ _
    split at h
    · have := scanMarkup_length h
      simp only [List.length_cons]; omega
    · split at h
      · cases hs : (scanReference a cs).within (c :: cs) with
        | error e => rw [hs] at h; cases h
        | ok p =>
          rw [hs] at h
          cases h
          have := scanReference_length (Scan.of_within hs)
          simp only [List.length_cons]; omega
      · split at h
        · cases h
        · split at h
          · cases h
          · cases h
            have := cutRun_length cs
            simp only [List.length_cons]; omega

end ApiContract.Xml
