import ApiContract.CommandLine.Arguments
import ApiContract.Files.Tree
import ApiContract.Options.Reader
import ApiContract.Yaml.Reader

/-!
Options from a file and from flags. The file holds a mapping in YAML; a flag counts more than what
the file says. What the file says about the error response is kept where no flag says otherwise. An
option that takes any text may be torn in the file. Such options are not followed any further here, and are
a fault of their own.
-/

namespace ApiContract.CommandLine

open ApiContract.Files ApiContract.Text

/-- Why there are no options. -/
inductive OptionsFault where
  | file (e : FileError)
  | undecodable (u : Undecodable)
  | yaml (f : Yaml.Fault)
  | noMapping (path : String)
  | noItems (kind : String)
  | noPair (index : Nat)
  | otherLength (index length : Nat)
  | unhashable (kind : String)
  | otherKeys
  | torn (text : TornText)
  | invalid (vs : Violations)
  deriving Repr

/-- The fault in words. -/
def OptionsFault.message : OptionsFault → String
  | file e => e.message
  | undecodable u => u.message
  | yaml f => f.message
  | noMapping p => "Options file " ++ p ++ " must contain a mapping"
  | noItems kind => "'" ++ kind ++ "' object is not iterable"
  | noPair i => "cannot convert dictionary update sequence element #" ++ Nat.repr i ++
      " to a sequence"
  | otherLength i n => "dictionary update sequence element #" ++ Nat.repr i ++ " has length " ++
      Nat.repr n ++ "; 2 is required"
  | unhashable kind => "unhashable type: '" ++ kind ++ "'"
  | otherKeys => "keywords must be strings"
  | torn t => t.message
  | invalid vs => vs.message

/-! ### The file -/

/-- The value in a file. -/
def fileValue (bs : List UInt8) : Except OptionsFault Value :=
  let p := Portions.ofBytes bs
  (Yaml.read p).mapError fun e => match e, p.fault with
    | .unread, some u => .undecodable u
    | e, _ => .yaml e

/-- Whether a value stands for nothing. -/
def isFalsy (v : Value) : Bool :=
  match v.bare with
  | .null | .bool false | .int 0 | .str "" | .list [] | .map [] | .table [] | .set [] | .bytes [] => true
  | .real x => x.isZero
  | _ => false

/-- The fields of a value; another value than a mapping has none. -/
def entriesOf? (v : Value) : Option (List (Value × Value)) :=
  match v.inside with
  | .map fs => some (fs.map fun (k, v) => (.str k, v))
  | .table es => some es
  | _ => none

/-! ### The error response -/

/-- The items of a value that has some. -/
def itemsOf? (v : Value) : Option (List Value) :=
  match v.inside with
  | .str s => some (s.toList.map fun c => .str (String.ofList [c]))
  | .torn t => some (t.letters.map fun
    | .char c => .str (String.ofList [c])
    | .half s => .torn ⟨[], s, []⟩)
  | .list vs | .set vs => some vs
  | .pair a b => some [a, b]
  | .bytes bs => some (bs.map fun b => .int b.toNat)
  | .map fs => some (fs.map fun f => .str f.1)
  | .table es => some (es.map (·.1))
  | _ => none

/-- Whether a value can be a key. -/
def isKey : Value → Bool
  | .list _ | .map _ | .table _ | .set _ | .again _ _ => false
  | .pair a b => isKey a && isKey b
  | .shared _ v => isKey v
  | _ => true

/-- The kind of a value that keeps another one from being a key. -/
def unhashableKind : Value → String
  | .pair a b => if isKey a then unhashableKind b else unhashableKind a
  | .shared _ v => unhashableKind v
  | v => v.kind

/-- The entry that the item at an index stands for: it has two items itself. -/
def entryOf (index : Nat) (v : Value) : Except OptionsFault (Value × Value) :=
  match itemsOf? v with
  | none => .error (.noPair index)
  | some [a, b] => if isKey a then .ok (a, b) else .error (.unhashable (unhashableKind a))
  | some vs => .error (.otherLength index vs.length)

/-- The entries that items stand for. -/
def entriesFrom (index : Nat) : List Value → Except OptionsFault (List (Value × Value))
  | [] => .ok []
  | v :: vs => do
    let e ← entryOf index v
    pure (e :: (← entriesFrom (index + 1) vs))

/-- The entries that the file has for the error response: a mapping or a list of pairs. -/
def errorEntries (v : Option Value) : Except OptionsFault (List (Value × Value)) :=
  match v.filter (!isFalsy ·) with
  | none => .ok []
  | some v => match entriesOf? v with
    | some es => .ok es
    | none => match itemsOf? v with
      | some vs => entriesFrom 0 vs
      | none => .error (.noItems v.fullKind)

/-! ### Entries of a file -/

/-- The value of the entry with a name. -/
def lookupEntry (name : String) (es : List (Value × Value)) : Option Value :=
  (es.find? fun e => Yaml.sameKey e.1 (.str name)).map (·.2)

/-- The torn text that a value is. -/
def tornText? (v : Value) : Option TornText :=
  match v.bare with
  | .torn t => some t
  | _ => none

/-- The options that take any text. -/
def textOptions : List String := ["content_type", "default_type"]

/-- The fields of the error response that take any text. -/
def textErrorFields : List String :=
  ["error_xsd_content", "error_xsd_file_path", "error_type_name", "error_status_code", "error_description"]

/-- The first torn text that an entry with one of the names has. -/
def tornAmong? (names : List String) (es : List (Value × Value)) : Option TornText :=
  names.findSome? fun name => (lookupEntry name es).bind tornText?

/-- A torn text where entries have any text for an option. -/
def tornOption? (es : List (Value × Value)) : Option TornText :=
  (tornAmong? textOptions es).or
    ((errorEntries (lookupEntry "error" es)).toOption.bind (tornAmong? textErrorFields))

/-- The entries of an options file. An empty value has none, and no option has a torn name. -/
def readEntries (t : Tree) (path : String) : Except OptionsFault (List (Value × Value)) := do
  let bs ← (t.read path).mapError .file
  let v ← fileValue bs
  if isFalsy v then pure []
  else match entriesOf? v with
    | some es => match tornOption? es with
      | some text => throw (.torn text)
      | none => pure (es.filter fun e => (tornText? e.1).isNone)
    | none => throw (.noMapping path)

/-! ### Flags -/

/-- The fields that flags set. -/
def optionFlags : List (Flag × String) :=
  [(.requestSuffix, "request_suffix"), (.responseSuffix, "response_suffix"),
   (.nameInPath, "use_schema_name_in_path"), (.method, "http_method"),
   (.contentType, "content_type"), (.defaultType, "default_type")]

/-- The fields of the error response that flags set. -/
def errorFlags : List (Flag × String) :=
  [(.errorFile, "error_xsd_file_path"), (.errorType, "error_type_name"),
   (.errorStatus, "error_status_code"), (.errorDescription, "error_description")]

/-- Entries with the values of flags in the place of their own. -/
def override (a : Arguments) (flags : List (Flag × String)) (es : List (Value × Value)) :
    List (Value × Value) :=
  flags.foldl (fun es (f, name) => match a.value? f with
    | some v => Yaml.putEntry (.str name) v es
    | none => es) es

/-- The entries of a file together with the values of flags. -/
def mergeEntries (a : Arguments) (es : List (Value × Value)) :
    Except OptionsFault (List (Value × Value)) := do
  let es := override a optionFlags es
  let errors := override a errorFlags (← errorEntries (lookupEntry "error" es))
  pure (if errors.isEmpty then es else Yaml.putEntry (.str "error") (Yaml.mapOf errors) es)

/-- The options of entries. All keys must be texts. -/
def optionsOf (d : Defaults) (es : List (Value × Value)) : Except OptionsFault Options :=
  match es.mapM Yaml.textKey? with
  | none => .error .otherKeys
  | some fs =>
    (Options.ofValue d [] (.map fs)).mapError fun vs => .invalid ⟨"GenerationOptions", vs⟩

/-- The entries of the options file that arguments name. The empty text names none. -/
def configEntries (t : Tree) (a : Arguments) : Except OptionsFault (List (Value × Value)) :=
  match a.value? .config with
  | some (.str path) => if path.isEmpty then .ok [] else readEntries t path
  | _ => .ok []

/-- The options of arguments. -/
def Arguments.options (t : Tree) (d : Defaults) (a : Arguments) : Except OptionsFault Options := do
  optionsOf d (← mergeEntries a (← configEntries t a))

end ApiContract.CommandLine
