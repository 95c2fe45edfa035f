import ApiContract.Xml.Lexeme

/-!
The tokens of a prolog: what a document type declaration, and the declarations inside of it, are
made of. Every token leaves less than it was given (`scanToken_length`).
-/

namespace ApiContract.Xml.Doctype

/-- A token. A `word` is a name, with one colon if it is `qualified`; any other run of the
characters of names is an `nmtoken`. -/
inductive Token where
  | space
  | word (text : String) (qualified : Bool)
  | nmtoken
  | counted
  | hash (text : String)
  | literal (value place : List Char)
  | percent
  | parameterReference
  | openBracket | closeBracket | closeSection | openSection
  | openParen | closeParen (mark : Option Char)
  | comma | bar
  | declaration (keyword : String)
  | close
  | aside
  | misplaced
  | element

/-- Whether the token is over only where something else begins. At the end of the text it is taken
for complete. -/
def Token.isOpenEnded : Token → Bool
  | word _ _ | nmtoken | hash _ | literal _ _ | closeBracket | closeParen none => true
  | _ => false

/-- A character after which a name in a declaration ends. -/
def isDelimiter (c : Char) : Bool :=
  isSpace c || c == '>' || c == ')' || c == ',' || c == '|' || c == '[' || c == '%'

/-- A character that a run of name characters may hold. -/
def isTokenChar (a : Alphabet) (c : Char) : Bool := a.isNameChar c || c == ':'

/-- The kind of a run of name characters, before what comes next in the text. -/
def runKind (a : Alphabet) (run rest : List Char) : Except Lapse Token :=
  match run with
  | [] => .ok .nmtoken
  | c :: cs =>
    if ¬ a.isNameStart c then .ok .nmtoken
    else
      let text := String.ofList run
      match cs.dropWhile (· ≠ ':') with
      | [] => .ok (.word text false)
      | [_] => if rest.isEmpty then .error .ended else .ok .nmtoken
      | _ :: tail => if tail.contains ':' then .ok .nmtoken else .ok (.word text true)

/-- A run of name characters, which may have a mark for how often it occurs. -/
def scanRun (a : Alphabet) (cs : List Char) : Scan Token :=
  let rest := cs.dropWhile (isTokenChar a)
  match runKind a (cs.takeWhile (isTokenChar a)) rest, rest with
  | .error e, _ => .error e
  | .ok t, [] => .ok (t, [])
  | .ok t, c :: tail =>
    if c = cutUnit then .error .cut
    else if isDelimiter c then .ok (t, c :: tail)
    else match t with
      | .word _ _ =>
        if c = '+' ∨ c = '*' ∨ c = '?' then .ok (.counted, tail) else .error (.invalid (c :: tail))
      | _ => .error (.invalid (c :: tail))

/-- The characters of a literal up to its closing quote. -/
def scanQuoted (quote : Char) : List Char → Scan (List Char)
  | [] => .error .ended
  | c :: cs =>
    if c = quote then .ok ([], cs)
    else if ¬ isAllowed c then .error (.ofRest (c :: cs))
    else match scanQuoted quote cs with
      | .error e => .error e
      | .ok (v, rest) => .ok (c :: v, rest)

/-- A literal, after its opening quote. -/
def scanLiteral (quote : Char) (cs : List Char) : Scan Token :=
  match scanQuoted quote cs with
  | .error e => .error e
  | .ok (v, []) => .ok (.literal v cs, [])
  | .ok (v, c :: rest) =>
    if isSpace c ∨ c = '>' ∨ c = '%' ∨ c = '[' then .ok (.literal v cs, c :: rest)
    else .error (.invalid (c :: rest))

/-- What comes after a percent sign: a blank or another one, or a reference. -/
def scanPercent (a : Alphabet) : List Char → Scan Token
  | [] => .error .ended
  | c :: cs =>
    if isSpace c ∨ c = '%' then .ok (.percent, c :: cs)
    else match scanName a (c :: cs) with
      | .error e => .error e
      | .ok (_, []) => .error .ended
      | .ok (_, ';' :: rest) => .ok (.parameterReference, rest)
      | .ok (_, rest) => .error (.invalid rest)

/-- A name after a hash sign. -/
def scanHash (a : Alphabet) (cs : List Char) : Scan Token :=
  match scanName a cs with
  | .error e => .error e
  | .ok (n, []) => .ok (.hash n, [])
  | .ok (n, c :: rest) =>
    if isSpace c ∨ c = ')' ∨ c = '>' ∨ c = '%' ∨ c = '|' then .ok (.hash n, c :: rest)
    else .error (.invalid (c :: rest))

/-- The keyword of a declaration, after the `<!`. -/
def scanKeyword (a : Alphabet) (cs : List Char) : Scan Token :=
  let rest := cs.dropWhile a.isKeywordChar
  match cs.takeWhile a.isKeywordChar with
  | [] => if rest.isEmpty then .error .ended else .error (.invalid rest)
  | word => match rest with
    | [] => .error .ended
    | '%' :: [] => .error .ended
    | '%' :: c :: _ =>
      if isSpace c ∨ c = '%' then .error (.invalid rest)
      else .ok (.declaration (String.ofList word), rest)
    | c :: _ =>
      if isSpace c then .ok (.declaration (String.ofList word), rest) else .error (.invalid rest)

/-- What comes after a `<`. -/
def scanAngle (a : Alphabet) : List Char → Scan Token
  | [] => .error .ended
  | '!' :: '-' :: cs => (scanComment cs).map fun p => (.aside, p.2)
  | '!' :: '[' :: cs => .ok (.openSection, cs)
  | '!' :: cs => scanKeyword a cs
  | '?' :: cs => (scanInstruction a cs).map fun p =>
      (if p.1 = .ordinary then .aside else .misplaced, p.2)
  | c :: cs =>
    if a.beginsElement c then .ok (.element, cs) else .error (.invalid (c :: cs))

/-- A closing parenthesis, after it. -/
def scanCloseParen : List Char → Scan Token
  | [] => .ok (.closeParen none, [])
  | c :: cs =>
    if c = '*' ∨ c = '?' ∨ c = '+' then .ok (.closeParen (some c), cs)
    else if isSpace c ∨ c = '>' ∨ c = ',' ∨ c = '|' ∨ c = ')' then .ok (.closeParen none, c :: cs)
    else .error (.invalid (c :: cs))

/-- A closing bracket, after it. -/
def scanCloseBracket : List Char → Scan Token
  | [']'] => .error .ended
  | ']' :: '>' :: cs => .ok (.closeSection, cs)
  | cs => .ok (.closeBracket, cs)

/-- The token at the front of a text. -/
def scanToken (a : Alphabet) : List Char → Scan Token
  | [] => .error .ended
  | c :: cs =>
    if isSpace c then .ok (.space, dropSpace cs)
    else match c with
      | '"' => scanLiteral '"' cs
      | '\'' => scanLiteral '\'' cs
      | '<' => scanAngle a cs
      | '%' => scanPercent a cs
      | '#' => scanHash a cs
      | '(' => .ok (.openParen, cs)
      | ')' => scanCloseParen cs
      | '[' => .ok (.openBracket, cs)
      | ']' => scanCloseBracket cs
      | ',' => .ok (.comma, cs)
      | '|' => .ok (.bar, cs)
      | '>' => .ok (.close, cs)
      | _ => if isTokenChar a c then scanRun a (c :: cs) else .error (.ofRest (c :: cs))

theorem scanQuoted_length {quote : Char} {cs rest v : List Char}
    (h : scanQuoted quote cs = .ok (v, rest)) : rest.length < cs.length := by
  induction cs generalizing v with
  | nil => cases h
  | cons c cs ih =>
    unfold scanQuoted at h
    split at h
    · cases h; simp
    · split at h
      · cases h
      · split at h
        · cases h
        · rename_i hv
          cases h
          have := ih hv
          simp only [List.length_cons]; omega

theorem scanLiteral_length {quote : Char} {cs rest : List Char} {t : Token}
    (h : scanLiteral quote cs = .ok (t, rest)) : rest.length ≤ cs.length := by
  unfold scanLiteral at h
  split at h
  · cases h
  · cases h; simp
  · rename_i hq
    have := scanQuoted_length hq
    split at h
    · cases h; omega
    · cases h

theorem scanPercent_length {a : Alphabet} {cs rest : List Char} {t : Token}
    (h : scanPercent a cs = .ok (t, rest)) : rest.length ≤ cs.length := by
  unfold scanPercent at h
  split at h
  · cases h
  · split at h
    · cases h; simp
    · split at h
      · cases h
      · cases h
      · rename_i hn
        have := scanName_length hn
        cases h
        simp only [List.length_cons] at *; omega
      · cases h

theorem scanHash_length {a : Alphabet} {cs rest : List Char} {t : Token}
    (h : scanHash a cs = .ok (t, rest)) : rest.length ≤ cs.length := by
  unfold scanHash at h
  split at h
  · cases h
  · cases h; simp
  · rename_i hn
    have := scanName_length hn
    split at h
    · cases h; omega
    · cases h

theorem scanKeyword_length {a : Alphabet} {cs rest : List Char} {t : Token}
    (h : scanKeyword a cs = .ok (t, rest)) : rest.length ≤ cs.length := by
  have hd := length_dropWhile_le a.isKeywordChar cs
  unfold scanKeyword at h
  simp only at h
  split at h
  · split at h <;> cases h
  · split at h
    · cases h
    · cases h
    · split at h
      · cases h
      · cases h; exact hd
    · split at h
      · cases h; exact hd
      · cases h

theorem scanAngle_length {a : Alphabet} {cs rest : List Char} {t : Token}
    (h : scanAngle a cs = .ok (t, rest)) : rest.length ≤ cs.length := by
  unfold scanAngle at h
  split at h
  · cases h
  · rename_i cs
    cases hs : scanComment cs with
    | error e => rw [hs] at h; cases h
    | ok p =>
      rw [hs] at h; cases h
      have := scanComment_length hs
      simp only [List.length_cons]; omega
  · cases h
    simp only [List.length_cons]; omega
  · have := scanKeyword_length h
    simp only [List.length_cons]; omega
  · rename_i cs
    cases hs : scanInstruction a cs with
    | error e => rw [hs] at h; cases h
    | ok p =>
      rw [hs] at h; cases h
      have := scanInstruction_length hs
      simp only [List.length_cons]; omega
  · split at h
    · cases h; simp
    · cases h

theorem scanCloseParen_length {cs rest : List Char} {t : Token}
    (h : scanCloseParen cs = .ok (t, rest)) : rest.length ≤ cs.length := by
  unfold scanCloseParen at h
  split at h
  · cases h; simp
  · split at h
    · cases h; simp
    · split at h
      · cases h; simp
      · cases h

theorem scanCloseBracket_length {cs rest : List Char} {t : Token}
    (h : scanCloseBracket cs = .ok (t, rest)) : rest.length ≤ cs.length := by
  unfold scanCloseBracket at h
  split at h
  · cases h
  · cases h; simp only [List.length_cons]; omega
  · cases h; simp

theorem scanRun_length {a : Alphabet} {c : Char} {cs rest : List Char} {t : Token}
    (hc : isTokenChar a c) (h : scanRun a (c :: cs) = .ok (t, rest)) : rest.length ≤ cs.length := by
  have hd := length_dropWhile_le (isTokenChar a) cs
  unfold scanRun at h
  simp only [List.dropWhile_cons_of_pos hc] at h
  split at h
  · cases h
  · cases h; simp
  · rename_i hr
    rw [hr] at hd
    split at h
    · cases h
    · split at h
      · cases h; exact hd
      · simp only [List.length_cons] at hd
        split at h
        · split at h
          · cases h; omega
          · cases h
        · cases h

theorem scanToken_length {a : Alphabet} {cs rest : List Char} {t : Token}
    (h : scanToken a cs = .ok (t, rest)) : rest.length < cs.length := by
  unfold scanToken at h
  split at h
  · cases h
  · rename_i c cs
    suffices rest.length ≤ cs.length by simp only [List.length_cons]; omega
    split at h
    · cases h; exact dropSpace_length cs
    · split at h
      · exact scanLiteral_length h
      · exact scanLiteral_length h
      · exact scanAngle_length h
      · exact scanPercent_length h
      · exact scanHash_length h
      · cases h; simp
      · exact scanCloseParen_length h
      · cases h; simp
      · exact scanCloseBracket_length h
      · cases h; simp
      · cases h; simp
      · cases h; simp
      · split at h
        · exact scanRun_length ‹_› h
        · cases h

end ApiContract.Xml.Doctype
