import ApiContract.Xml.AttributeValue
import ApiContract.Xml.Doctype.Token

/-!
Document type declarations. What they say about elements and notations is checked for its form
alone. Attribute lists give types and default values to attributes, and the declaration of an entity
is forbidden. A reference to a parameter entity, or a part of the document type outside of the
document, leaves open what else is declared.
-/

namespace ApiContract.Xml

/-- What an attribute list says about an attribute. -/
structure AttributeRule where
  name : RawName
  isText : Bool
  value : Option String
  deriving Repr, DecidableEq

/-- What a document type says: rules for the attributes of elements, by the written name of the
element, whether there may be more declarations elsewhere, and whether the declarations that
come next still count. -/
structure Declarations where
  rules : List (String × AttributeRule)
  standalone : Bool
  isOpen : Bool
  counts : Bool
  deriving Repr

namespace Declarations

/-- No declarations. -/
def empty (standalone : Bool) : Declarations := ⟨[], standalone, false, true⟩

/-- Whether references to entities that are not declared are no faults. -/
def lenient (d : Declarations) : Bool := d.isOpen && !d.standalone

/-- The rules for the attributes of an element. -/
def rulesOf (d : Declarations) (element : String) : List AttributeRule :=
  (d.rules.filter (·.1 == element)).map (·.2)

/-- One more rule. The first rule for an attribute stays. -/
def addRule (d : Declarations) (element : String) (r : AttributeRule) : Declarations :=
  if d.counts ∧ ¬ (d.rulesOf element).any (·.name == r.name) then
    { d with rules := d.rules ++ [(element, r)] }
  else d

end Declarations

namespace Doctype

/-- The name that is written so. -/
def RawName.ofText (s : String) : RawName :=
  match s.toList.span (· ≠ ':') with
  | (l, _ :: b) => ⟨some (String.ofList l), String.ofList b⟩
  | _ => ⟨none, s⟩

/-- What a document type declaration expects next. The stages of an attribute list know the element
and the attribute; those of an element declaration know, for each open group, whether its particles
are joined by commas or by bars. -/
inductive Stage where
  | rootName | afterRootName | rootPublic | rootSystem | afterRootId | subset | afterSubset
  | closing | done
  | entityName | parameterName
  | entityValue (parameter : Bool) (name : String)
  | entityPublic (parameter : Bool) (name : String)
  | entitySystem (parameter : Bool) (name : String) (publicId : Option String)
  | afterEntityId (parameter : Bool) (e : Entity)
  | unparsed (e : Entity)
  | notationName | notationId | notationPublic | notationSystem | afterNotationPublic
  | listElement
  | attribute (element : String)
  | attributeType (element name : String)
  | enumeration (element name : String)
  | afterEnumeration (element name : String)
  | notationGroup (element name : String)
  | notationChoice (element name : String)
  | afterNotationChoice (element name : String)
  | attributeDefault (element name : String) (isText : Bool)
  | fixedDefault (element name : String) (isText : Bool)
  | elementName | contentModel | firstParticle | afterText | mixedName | afterMixedName
  | particle (groups : List (Option Char))
  | afterParticle (groups : List (Option Char))

/-- A character that an identifier of what is public may hold. -/
def isPublicChar (c : Char) : Bool :=
  c.isAlphanum || " \r\n-'()+,./:=?;!*#@$_%".toList.contains c

/-- The identifier without blanks at its ends, where runs of blanks are one space. -/
def publicText (cs : List Char) : String :=
  String.ofList (normalizeNames (cs.map fun c => if isSpace c then ' ' else c))

/-- The identifier that a literal holds. -/
def publicId (value place : List Char) : Except Fault String :=
  match value.find? (!isPublicChar ·) with
  | none => .ok (publicText value)
  | some _ => .error (.malformed .publicIdentifier
      (place.drop (value.takeWhile isPublicChar).length))

/-- Whether references in the value of an entity are complete and name no parameter entities. -/
def checkEntityValue (a : Alphabet) (cs : List Char) (place : List Char) : Except Fault Unit :=
  match cs with
  | [] => .ok ()
  | c :: rest =>
    let at' (r : List Char) := place.drop (cs.length - r.length)
    let checked : Except Fault Unit :=
      if c = '&' then match scanReference a rest with
        | .error (.invalid r) => .error (.malformed .invalidToken (at' r))
        | .error _ => .error (.malformed .invalidToken place)
        | .ok (.character n, _) => match referredChar? n with
          | some _ => .ok ()
          | none => .error (.malformed .badCharacter place)
        | .ok (.entity _, _) => .ok ()
      else if c = '%' then match scanPercent a rest with
        | .error (.invalid r) => .error (.malformed .invalidToken (at' r))
        | .error _ => .error (.malformed .invalidToken place)
        | .ok (.parameterReference, _) => .error (.malformed .parameterReference place)
        | .ok (_, r) => .error (.malformed .invalidToken (at' r))
      else .ok ()
    match checked with
    | .ok _ => checkEntityValue a rest (place.drop 1)
    | .error e => .error e

/-- Whether the declaration of an entity counts: the entities of every document may be declared once
more. -/
def matters (d : Declarations) (parameter : Bool) (name : String) : Bool :=
  d.counts && (parameter || (namedChar? name).isNone)

/-- A token where it may not stand. -/
def misplaced (start : List Char) : Token → Fault
  | .parameterReference => .malformed .parameterReference start
  | .misplaced => .malformed .misplacedDeclaration start
  | _ => .malformed .wrongSyntax start

/-- The group after a mark that joins its particles, unless another mark does so already. -/
def joinGroup (mark : Char) : List (Option Char) → Option (List (Option Char))
  | g :: gs => if g = none ∨ g = some mark then some (some mark :: gs) else none
  | [] => none

/-- The stage after a group is closed. -/
def closeGroup : List (Option Char) → Stage
  | _ :: g :: gs => .afterParticle (g :: gs)
  | _ => .closing

/-- The types of attributes that have a name of their own. -/
def typeNames : List String :=
  ["CDATA", "ID", "IDREF", "IDREFS", "ENTITY", "ENTITIES", "NMTOKEN", "NMTOKENS"]

/-- The declarations after a default value. -/
def addDefault (a : Alphabet) (d : Declarations) (start : List Char) (element name : String)
    (isText : Bool) (value place : List Char) : Except Fault Declarations :=
  if d.counts then match expandValue a d.lenient value with
    | .ok v =>
      let v := if isText then v else normalizeNames v
      .ok (d.addRule element ⟨RawName.ofText name, isText, some (String.ofList v)⟩)
    | .error e => .error (e.toFault start value place)
  else .ok d

/-- The declarations and the stage after a token that begins at `start`. -/
def step (ab : Alphabet) (d : Declarations) (start : List Char) (stage : Stage) (t : Token) :
    Except Fault (Declarations × Stage) :=
  let wrong : Except Fault (Declarations × Stage) := .error (misplaced start t)
  match stage, t with
  | .rootName, .word _ _ => .ok (d, .afterRootName)
  | .afterRootName, .openBracket => .ok (d, .subset)
  | .afterRootName, .close => .ok (d, .done)
  | .afterRootName, .word "SYSTEM" false => .ok (d, .rootSystem)
  | .afterRootName, .word "PUBLIC" false => .ok (d, .rootPublic)
  | .rootPublic, .literal v p => do
    let _ ← publicId v p
    pure ({ d with isOpen := true }, .rootSystem)
  | .rootSystem, .literal _ _ => .ok ({ d with isOpen := true }, .afterRootId)
  | .afterRootId, .openBracket => .ok (d, .subset)
  | .afterRootId, .close => .ok (d, .done)
  | .subset, .declaration "ENTITY" => .ok (d, .entityName)
  | .subset, .declaration "ATTLIST" => .ok (d, .listElement)
  | .subset, .declaration "ELEMENT" => .ok (d, .elementName)
  | .subset, .declaration "NOTATION" => .ok (d, .notationName)
  | .subset, .aside => .ok (d, .subset)
  | .subset, .parameterReference => .ok ({ d with isOpen := true, counts := d.standalone }, .subset)
  | .subset, .closeBracket => .ok (d, .afterSubset)
  | .afterSubset, .close => .ok (d, .done)
  | .closing, .close => .ok (d, .subset)
  -- entities
  | .entityName, .percent => .ok (d, .parameterName)
  | .entityName, .word n false => .ok (d, .entityValue false n)
  | .parameterName, .word n false => .ok (d, .entityValue true n)
  | .entityValue p n, .word "SYSTEM" false => .ok (d, .entitySystem p n none)
  | .entityValue p n, .word "PUBLIC" false => .ok (d, .entityPublic p n)
  | .entityValue p n, .literal v place =>
    if matters d p n then .error (.forbidden ⟨n, none, none⟩)
    else if d.counts then (checkEntityValue ab v place).map fun _ => (d, .closing)
    else .ok (d, .closing)
  | .entityPublic p n, .literal v place => do
    let i ← publicId v place
    pure (d, .entitySystem p n (some i))
  | .entitySystem p n i, .literal v _ => .ok (d, .afterEntityId p ⟨n, some (String.ofList v), i⟩)
  | .afterEntityId p e, .close =>
    if matters d p e.name then .error (.forbidden e) else .ok (d, .subset)
  | .afterEntityId false e, .word "NDATA" false => .ok (d, .unparsed e)
  | .unparsed e, .word _ false =>
    if matters d false e.name then .error (.forbidden e) else .ok (d, .closing)
  -- notations
  | .notationName, .word _ false => .ok (d, .notationId)
  | .notationId, .word "SYSTEM" false => .ok (d, .notationSystem)
  | .notationId, .word "PUBLIC" false => .ok (d, .notationPublic)
  | .notationPublic, .literal v p => do
    let _ ← publicId v p
    pure (d, .afterNotationPublic)
  | .notationSystem, .literal _ _ => .ok (d, .closing)
  | .afterNotationPublic, .literal _ _ => .ok (d, .closing)
  | .afterNotationPublic, .close => .ok (d, .subset)
  -- attribute lists
  | .listElement, .word e _ => .ok (d, .attribute e)
  | .attribute _, .close => .ok (d, .subset)
  | .attribute e, .word a _ => .ok (d, .attributeType e a)
  | .attributeType e a, .word t false =>
    if typeNames.contains t then .ok (d, .attributeDefault e a (t == "CDATA"))
    else if t = "NOTATION" then .ok (d, .notationGroup e a)
    else wrong
  | .attributeType e a, .openParen => .ok (d, .enumeration e a)
  | .enumeration e a, .word _ _ => .ok (d, .afterEnumeration e a)
  | .enumeration e a, .nmtoken => .ok (d, .afterEnumeration e a)
  | .afterEnumeration e a, .bar => .ok (d, .enumeration e a)
  | .afterEnumeration e a, .closeParen none => .ok (d, .attributeDefault e a false)
  | .notationGroup e a, .openParen => .ok (d, .notationChoice e a)
  | .notationChoice e a, .word _ false => .ok (d, .afterNotationChoice e a)
  | .afterNotationChoice e a, .bar => .ok (d, .notationChoice e a)
  | .afterNotationChoice e a, .closeParen none => .ok (d, .attributeDefault e a false)
  | .attributeDefault e a t, .hash w =>
    if w = "IMPLIED" ∨ w = "REQUIRED" then
      .ok (d.addRule e ⟨RawName.ofText a, t, none⟩, .attribute e)
    else if w = "FIXED" then .ok (d, .fixedDefault e a t)
    else wrong
  | .attributeDefault e a t, .literal v p => do
    let d ← addDefault ab d start e a t v p
    pure (d, .attribute e)
  | .fixedDefault e a t, .literal v p => do
    let d ← addDefault ab d start e a t v p
    pure (d, .attribute e)
  -- elements
  | .elementName, .word _ _ => .ok (d, .contentModel)
  | .contentModel, .word w false => if w = "EMPTY" ∨ w = "ANY" then .ok (d, .closing) else wrong
  | .contentModel, .openParen => .ok (d, .firstParticle)
  | .firstParticle, .hash "PCDATA" => .ok (d, .afterText)
  | .firstParticle, .openParen => .ok (d, .particle [none, none])
  | .firstParticle, .word _ _ => .ok (d, .afterParticle [none])
  | .firstParticle, .counted => .ok (d, .afterParticle [none])
  | .afterText, .closeParen none => .ok (d, .closing)
  | .afterText, .closeParen (some '*') => .ok (d, .closing)
  | .afterText, .bar => .ok (d, .mixedName)
  | .mixedName, .word _ _ => .ok (d, .afterMixedName)
  | .afterMixedName, .bar => .ok (d, .mixedName)
  | .afterMixedName, .closeParen (some '*') => .ok (d, .closing)
  | .particle gs, .openParen => .ok (d, .particle (none :: gs))
  | .particle gs, .word _ _ => .ok (d, .afterParticle gs)
  | .particle gs, .counted => .ok (d, .afterParticle gs)
  | .afterParticle gs, .closeParen _ => .ok (d, closeGroup gs)
  | .afterParticle gs, .comma => match joinGroup ',' gs with
    | some gs => .ok (d, .particle gs)
    | none => wrong
  | .afterParticle gs, .bar => match joinGroup '|' gs with
    | some gs => .ok (d, .particle gs)
    | none => wrong
  | _, _ => wrong

/-- The declarations of a document type from a stage on, and what follows it. -/
def read (a : Alphabet) (d : Declarations) (stage : Stage) (cs : List Char) :
    Except Fault (Declarations × List Char) :=
  if cs.isEmpty then .error .ended
  else match _h : scanToken a cs with
    | .error e => .error (e.toFault cs)
    | .ok (.space, rest) => read a d stage rest
    | .ok (t, rest) => match step a d cs stage t with
      | .error e => .error e
      | .ok (d, .done) => .ok (d, rest)
      | .ok (d, stage) =>
        if rest.isEmpty ∧ t.isOpenEnded then .error (.malformed .noElement [])
        else read a d stage rest
  termination_by cs.length
  decreasing_by
    · exact scanToken_length ‹_›
    · exact scanToken_length ‹_›

theorem read_length {a : Alphabet} {d d' : Declarations} {stage : Stage} {cs rest : List Char}
    (h : read a d stage cs = .ok (d', rest)) : rest.length < cs.length := by
  fun_induction read a d stage cs with
  | case3 d stage cs _ r hs ih =>
    have h₁ := scanToken_length hs
    have h₂ := ih h
    omega
  | case5 =>
    have h₁ := scanToken_length ‹scanToken _ _ = _›
    cases h
    exact h₁
  | case7 =>
    have h₁ := scanToken_length ‹scanToken _ _ = _›
    rename_i ih
    have h₂ := ih h
    omega
  | _ => cases h

end Doctype

end ApiContract.Xml
