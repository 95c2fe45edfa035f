import ApiContract.Xml.Lexeme

/-!
The value of an attribute: references are replaced by what they stand for, and every blank and
every end of a line by a space. Where the document type leaves open what entities there are, references to entities that are
not declared are dropped; otherwise they are faults.
-/

namespace ApiContract.Xml

/-- What is wrong with a value: a character that may not stand there, a reference to a character
that does not exist, both with the rest of the value, or an entity that is not declared. -/
inductive ValueFault where
  | invalid (rest : List Char)
  | badCharacter (rest : List Char)
  | undefinedEntity
  deriving Repr, DecidableEq

/-- The value that a text stands for. -/
def expandValue (a : Alphabet) (lenient : Bool) (cs : List Char) : Except ValueFault (List Char) :=
  match cs with
  | [] => .ok []
  | c :: rest =>
    if c = '&' then
      match _h : scanReference a rest with
      | .error (.invalid r) => .error (.invalid r)
      | .error _ => .error (.invalid cs)
      | .ok (.character n, rest) => match referredChar? n with
        | some x => (expandValue a lenient rest).map (x :: ·)
        | none => .error (.badCharacter cs)
      | .ok (.entity n, rest) => match namedChar? n with
        | some x => (expandValue a lenient rest).map (x :: ·)
        | none => if lenient then expandValue a lenient rest else .error .undefinedEntity
    else if c = '<' then .error (.invalid cs)
    else if c = '\r' ∧ rest.head? = some '\n' then expandValue a lenient rest
    else (expandValue a lenient rest).map ((if isSpace c then ' ' else c) :: ·)
  termination_by cs.length
  decreasing_by
    · have := scanReference_length ‹_›
      simp only [List.length_cons]; omega
    · have := scanReference_length ‹_›
      simp only [List.length_cons]; omega
    · have := scanReference_length ‹_›
      simp only [List.length_cons]; omega
    · simp
    · simp

/-- The value without spaces at its ends, where runs of spaces are one space. This is the form of
all values that are names or lists of names. -/
def collapse : List Char → List Char
  | [] => []
  | ' ' :: cs => match collapse cs with
    | [] => []
    | ' ' :: rest => ' ' :: rest
    | rest => ' ' :: rest
  | c :: cs => c :: collapse cs

/-- The value without a space in front. -/
def normalizeNames (cs : List Char) : List Char := (collapse cs).dropWhile (· = ' ')

/-- The fault that a value makes which begins at `valuePlace`, in a token that begins at `start`. -/
def ValueFault.toFault (start value valuePlace : List Char) : ValueFault → Fault
  | invalid rest => .malformed .invalidToken (valuePlace.drop (value.length - rest.length))
  | badCharacter rest => .malformed .badCharacter (valuePlace.drop (value.length - rest.length))
  | undefinedEntity => .malformed .undefinedEntity start

end ApiContract.Xml
