import ApiContract.Proofs.Value.Linking
import ApiContract.Proofs.Yaml.Words

/-!
Which texts of a value are read back, and which tokens are read for a value. `Value.keeps` tells for a value
with numbered things, where it stands, whether all texts in it are read back. `Scans` tells which tokens are
read for it: those of a value that is like it, and has other texts in the place of those that are not.
-/

namespace ApiContract

namespace Value

mutual

/-- Whether all texts in a value are read back. It stands within an indent, perhaps as the value of a field, and
`fresh` says that only indicators are before it on its line. -/
def keeps (i : ℕ) (inMapping fresh : Bool) : Value → Bool
  | str s => Yaml.keepsText false (i + 2) s
  | list vs => itemsKeep (if inMapping && !fresh then i else i + 2) vs
  | map fs => fieldsKeep (i + 2) fs
  | shared _ v => v.keeps i inMapping false
  | _ => true

/-- Whether all texts in items are read back. -/
def itemsKeep (j : ℕ) : List Value → Bool
  | [] => true
  | v :: vs => v.keeps j false true && itemsKeep j vs

/-- Whether all texts in fields, and their keys, are read back. -/
def fieldsKeep (j : ℕ) : List (String × Value) → Bool
  | [] => true
  | (k, v) :: fs =>
    Yaml.keepsText (Yaml.isSimpleKey (.str k)) (j + 2) k &&
      v.keeps j true (!Yaml.isSimpleKey (.str k)) && fieldsKeep j fs

end

end Value

namespace Yaml

/-- The name of a thing with a number. -/
def nameOf (id : Identity) : String := String.ofList ('i' :: 'd' :: (padded 3 id.node).toList)

mutual

/-- For a value, which may be that of a field, tokens are read that are those of another value. -/
inductive Scans : Bool → Value → Value → List Token → Prop where
  | word {m : Bool} {v : Value} {cs : List Char} (h : isWord v = true) (hcs : plainText? v = some cs) :
    Scans m v v [.scalar (String.ofList cs) true]
  | text {m : Bool} {s s' : String} {token : Token} (h : IsText s' token) : Scans m (.str s) (.str s') [token]
  | noItems {m : Bool} : Scans m (.list []) (.list []) [.openSequence, .closeSequence]
  | noFields {m : Bool} : Scans m (.map []) (.map []) [.openMapping, .closeMapping]
  | items {m : Bool} {vs vs' : List Value} {T : List Token} (hne : vs ≠ []) (h : ScansItems vs vs' T) :
    Scans m (.list vs) (.list vs') ([.blockSequence] ++ T ++ [.blockEnd])
  | flush {vs vs' : List Value} {T : List Token} (hne : vs ≠ []) (h : ScansItems vs vs' T) :
    Scans true (.list vs) (.list vs') T
  | fields {m : Bool} {fs fs' : List (String × Value)} {T : List Token} (hne : fs ≠ [])
    (h : ScansFields fs fs' T) :
    Scans m (.map fs) (.map fs') ([.blockMapping] ++ T ++ [.blockEnd])
  | shared {m : Bool} {id : Identity} {v v' : Value} {T : List Token} (hv : v.isCollection = true)
    (h : Scans m v v' T) : Scans m (.shared id v) (.shared id v') ([.anchor (nameOf id)] ++ T)
  | again {m : Bool} {id : Identity} {isList : Bool} :
    Scans m (.again id isList) (.again id isList) [.alias (nameOf id)]

/-- The same for items. -/
inductive ScansItems : List Value → List Value → List Token → Prop where
  | nil : ScansItems [] [] []
  | cons {v v' : Value} {vs vs' : List Value} {T T' : List Token} (h : Scans false v v' T)
    (hs : ScansItems vs vs' T') : ScansItems (v :: vs) (v' :: vs') ([.entry] ++ (T ++ T'))

/-- The same for fields. -/
inductive ScansFields : List (String × Value) → List (String × Value) → List Token → Prop where
  | nil : ScansFields [] [] []
  | cons {k k' : String} {token : Token} {v v' : Value} {fs fs' : List (String × Value)} {T T' : List Token}
    (hk : IsText k' token) (h : Scans true v v' T) (hs : ScansFields fs fs' T') :
    ScansFields ((k, v) :: fs) ((k', v') :: fs') ([.key, token, .value] ++ (T ++ T'))

end

end Yaml

end ApiContract
