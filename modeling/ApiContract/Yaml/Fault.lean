import ApiContract.Text.Quoted

/-!
What can be wrong with a YAML text: that it cannot be read to its end, a character, the way it is cut
into tokens, the order of the tokens, a name of a node, or the meaning of a node. A torn text that means
anything else than a text is a fault of its own.
-/

namespace ApiContract.Yaml

open ApiContract.Text

/-- What is wrong with a YAML text. -/
inductive Fault where
  | unread
  | character
  | ended
  | token
  | order
  | name
  | meaning
  | badValue (message : String)
  | largeCode
  | largePlace
  | noText (kind : String)
  | noWord (word : String)
  | emptyNumber
  | noMoment
  | half
  deriving Repr, DecidableEq

/-- The fault in words. Faults in the form of the text have none of their own. -/
def Fault.message : Fault → String
  | unread => "unreadable text"
  | character => "unacceptable character"
  | ended => "unexpected end of the text"
  | token => "unexpected character"
  | order => "unexpected token"
  | name => "unexpected name of a node"
  | meaning => "node without meaning"
  | badValue m => m
  | largeCode => "Python int too large to convert to C int"
  | largePlace => "int too large to convert to float"
  | noText k => "expected string or bytes-like object, got '" ++ k ++ "'"
  | noWord w => quoted w
  | emptyNumber => "string index out of range"
  | noMoment => "'NoneType' object has no attribute 'groupdict'"
  | half => "surrogate in a text that has none"

end ApiContract.Yaml
