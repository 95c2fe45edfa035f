import ApiContract.Text.Letter

/-!
The tokens of YAML: what a text consists of once blanks and comments are gone.
-/

namespace ApiContract.Yaml

/-- A line about the document that follows it. -/
inductive Directive where
  | version (major : Nat)
  | handle (name beginning : String)
  | other
  deriving Repr, DecidableEq

/-- A token. -/
inductive Token where
  | streamEnd | documentStart | documentEnd
  | directive (d : Directive)
  | blockSequence | blockMapping | blockEnd
  | openSequence | closeSequence | openMapping | closeMapping
  | entry | comma | key | value
  | alias (name : String)
  | anchor (name : String)
  | tag (handle : Option String) (suffix : String)
  | scalar (text : String) (plain : Bool)
  | torn (text : Text.TornText)
  deriving Repr, DecidableEq

end ApiContract.Yaml
