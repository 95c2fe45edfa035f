import ApiContract.Xml.Lexeme

/-!
The XML declaration at the front of a document: a version, then perhaps an encoding, then perhaps
whether the document stands alone. The version may be anything.
-/

namespace ApiContract.Xml

/-- What a declaration says: the name of the encoding, with the text from the name on, and whether
the document stands alone. -/
structure Declaration where
  encoding : Option (String × List Char)
  standalone : Bool
  deriving Repr

namespace Declaration

/-- A name with a quoted value, and the text from the name and from the value on. -/
structure Item where
  name : String
  place : List Char
  value : String
  valuePlace : List Char

/-- A character that a name in a declaration may hold. -/
def isLetterOfName (c : Char) : Bool := c != '=' && !isSpace c && c.toNat < 128

/-- A character that a value may hold. -/
def isLetterOfValue (c : Char) : Bool := c.isAlphanum || c == '.' || c == '-' || c == '_'

/-- The next item after a blank, if there is one, and what follows it. A failure is what is left
from the offending place on. -/
def scanItem (cs : List Char) : Except (List Char) (Option Item × List Char) :=
  if cs.isEmpty then .ok (none, cs)
  else if ¬ (cs.head?.map isSpace).getD false then .error cs
  else
    let place := dropSpace cs
    if place.isEmpty then .ok (none, cs)
    else
      let name := place.takeWhile isLetterOfName
      match dropSpace (place.dropWhile isLetterOfName) with
      | '=' :: rest =>
        if name.isEmpty then .error place
        else match dropSpace rest with
          | q :: v =>
            if q = '"' ∨ q = '\'' then match v.dropWhile isLetterOfValue with
              | c :: rest =>
                if c = q then
                  .ok (some ⟨String.ofList name, place, String.ofList (v.takeWhile isLetterOfValue), v⟩,
                    rest)
                else .error (c :: rest)
              | [] => .error []
            else .error (q :: v)
          | [] => .error []
      | rest => .error rest

/-- What a last item says about standing alone, where nothing but blanks may follow. -/
def standaloneOf (encoding : Option (String × List Char)) (item : Item) (rest : List Char) :
    Except (List Char) Declaration :=
  if item.name ≠ "standalone" then .error item.place
  else if item.value ≠ "yes" ∧ item.value ≠ "no" then .error item.valuePlace
  else match dropSpace rest with
    | [] => .ok ⟨encoding, item.value == "yes"⟩
    | rest => .error rest

/-- What a declaration says, from its items. -/
def ofItems (cs : List Char) : Except (List Char) Declaration := do
  let (first, rest) ← scanItem cs
  match first with
  | none => throw cs
  | some version =>
    if version.name ≠ "version" then throw version.place
    let (second, rest) ← scanItem rest
    match second with
    | none => pure ⟨none, false⟩
    | some item =>
      if item.name ≠ "encoding" then standaloneOf none item rest
      else if ¬ (item.value.toList.head?.map Char.isAlpha).getD false then throw item.valuePlace
      else
        let encoding := some (item.value, item.valuePlace)
        let (third, rest) ← scanItem rest
        match third with
        | none => pure ⟨encoding, false⟩
        | some item => standaloneOf encoding item rest

/-- The declaration at the front of a text, and what follows it; nothing if the text does not begin
with one. The places in it are those of the text. -/
def read? (a : Alphabet) (cs : List Char) : Option (Except Fault Declaration × List Char) :=
  match cs with
  | '<' :: '?' :: rest => match scanInstruction a rest with
    | .ok (.declaration, after) =>
      let from' := rest.drop 3
      let items := from'.take (from'.length - after.length - 2)
      let place (r : List Char) := from'.drop (items.length - r.length)
      let declared := match ofItems items with
        | .ok d => .ok { d with encoding := d.encoding.map fun e => (e.1, place e.2) }
        | .error r => .error (.malformed .malformedDeclaration (place r))
      some (declared, after)
    | _ => none
  | _ => none

end Declaration

end ApiContract.Xml
