import ApiContract.Yaml.Scalar
import ApiContract.Yaml.Token.Scan

/-!
The nodes that the tokens of a YAML text make: scalars, sequences and mappings with tags. The text of a
scalar may be torn. Nodes can
have names, by which other places refer to them. A node has a number, so that it is known to be the
same in all those places; the place may be within the node itself. A text holds one document at most.
-/

namespace ApiContract.Yaml

/-- A node. A node that is found again within itself is a sequence or a mapping. -/
inductive Node where
  | scalar (number : Nat) (tag text : String)
  | torn (number : Nat) (tag : String) (text : Text.TornText)
  | sequence (number : Nat) (tag : String) (items : List Node)
  | mapping (number : Nat) (tag : String) (entries : List (Node × Node))
  | again (number : Nat) (isList : Bool)
  deriving Repr, Inhabited

mutual

/-- How many sequences and mappings are one inside the other. -/
def Node.depth : Node → Nat
  | .sequence _ _ items => itemDepth items + 1
  | .mapping _ _ entries => entryDepth entries + 1
  | _ => 0

/-- The depth of the deepest item. -/
def itemDepth : List Node → Nat
  | [] => 0
  | n :: ns => max n.depth (itemDepth ns)

/-- The depth of the deepest key or value. -/
def entryDepth : List (Node × Node) → Nat
  | [] => 0
  | (key, value) :: es => max (max key.depth value.depth) (entryDepth es)

end

/-- What the tags of YAML itself begin with. -/
def coreBeginning : String := "tag:yaml.org,2002:"

/-- A tag of YAML itself. -/
def coreTag (name : String) : String := coreBeginning ++ name

/-- The tag of a plain scalar. -/
def Kind.tag : Kind → String
  | .bool => coreTag "bool"
  | .real => coreTag "float"
  | .int => coreTag "int"
  | .merge => coreTag "merge"
  | .null => coreTag "null"
  | .time => coreTag "timestamp"
  | .value => coreTag "value"
  | .mark => coreTag "yaml"
  | .text => coreTag "str"

/-- A scalar without a tag. -/
def Node.ofPlain (number : Nat) (text : String) : Node :=
  .scalar number (Kind.ofScalar text).tag text

/-- Nothing. It needs no number. -/
def Node.empty : Node := .ofPlain 0 ""

/-! ### Reading tokens -/

/-- What is left of the tokens, what the handles of tags stand for, the nodes that have names, and how
many nodes have numbers. A node that is not complete yet has its name already. -/
structure Composer where
  tokens : List Token
  fault : Option Fault
  handles : List (String × String)
  names : List (String × Node)
  count : Nat
  deriving Repr

/-- A step of reading tokens. -/
abbrev Compose := StateT Composer (Except Fault)

namespace Compose

/-- The next token, which stays. -/
def peek : Compose Token := do
  let s ← get
  match s.tokens with
  | t :: _ => pure t
  | [] => throw (s.fault.getD .order)

/-- Passes over the next token. -/
def drop : Compose Unit := modify fun s => { s with tokens := s.tokens.drop 1 }

/-- Passes over the next token if it is the given one, and tells whether it is. -/
def accept (t : Token) : Compose Bool := do
  if (← peek) == t then
    drop
    pure true
  else pure false

/-- Passes over the next token, which must be the given one. -/
def expect (t : Token) : Compose Unit := do
  if !(← accept t) then throw .order

/-- Whether the next token is one of some. -/
def isNext (ts : List Token) : Compose Bool := do pure (ts.contains (← peek))

/-- The next number of a node. The first one is one. -/
def number : Compose Nat := do
  let n := (← get).count + 1
  modify fun s => { s with count := n }
  pure n

/-- The name in front of a node, if there is one. -/
def anchor? : Compose (Option String) := do
  match ← peek with
  | .anchor n =>
    drop
    pure (some n)
  | _ => pure none

/-- The tag in front of a node, if there is one. -/
def tag? : Compose (Option (Option String × String)) := do
  match ← peek with
  | .tag h s =>
    drop
    pure (some (h, s))
  | _ => pure none

/-- A tag with its handle replaced by what that stands for. -/
def fullTag : Option String × String → Compose String
  | (none, suffix) => pure suffix
  | (some h, suffix) => do
    match (← get).handles.lookup h with
    | some beginning => pure (beginning ++ suffix)
    | none => throw .order

/-- What stands in front of a node: its name and its tag, in either order. -/
structure Properties where
  name : Option String
  tag : Option String
  deriving Repr

/-- What stands in front of a node. -/
def properties : Compose Properties := do
  let first ← anchor?
  let tag ← tag?
  let second ← match first, tag with
    | none, some _ => anchor?
    | _, _ => pure none
  let full ← match tag with
    | some t => some <$> fullTag t
    | none => pure none
  pure ⟨first.or second, full⟩

/-- Gives a node a name, which must be new. -/
def bind (name : Option String) (n : Node) : Compose Unit := do
  match name with
  | none => pure ()
  | some name =>
    if ((← get).names.lookup name).isSome then throw .name
    modify fun s => { s with names := (name, n) :: s.names }

/-- Puts a complete node in the place of the one that had its name. -/
def rebind (name : Option String) (n : Node) : Compose Node := do
  match name with
  | none => pure n
  | some name =>
    modify fun s => { s with names := (name, n) :: s.names }
    pure n

/-- The tag that is no tag but says that there is none. -/
def noTag : String := "!"

/-- A tag, or else the one of the kind of node. -/
def kindTag (p : Properties) (name : String) : String :=
  match p.tag with
  | some t => if t = noTag then coreTag name else t
  | none => coreTag name

/-- A scalar. -/
def scalarNode (p : Properties) (number : Nat) (text : String) (plain : Bool) : Node :=
  match p.tag with
  | some t => if t = noTag then .ofPlain number text else .scalar number t text
  | none => if plain then .ofPlain number text else .scalar number (coreTag "str") text

/-- A scalar whose text is torn. Such a text is like no plain scalar but a text. -/
def tornNode (p : Properties) (number : Nat) (text : Text.TornText) : Node :=
  .torn number (kindTag p "str") text

mutual

/-- A node. Blocks and sequences without an indentation of their own are only nodes where they are
asked for. -/
def node (block flush : Bool) : (fuel : Nat) → Compose Node
  | 0 => throw .order
  | n + 1 => do
    match ← peek with
    | .alias name =>
      drop
      match (← get).names.lookup name with
      | some node => pure node
      | none => throw .name
    | _ =>
      let p ← properties
      let i ← number
      let sequence (items : Compose (List Node)) : Compose Node := do
        bind p.name (.again i true)
        rebind p.name (.sequence i (kindTag p "seq") (← items))
      let mapping (entries : Compose (List (Node × Node))) : Compose Node := do
        bind p.name (.again i false)
        rebind p.name (.mapping i (kindTag p "map") (← entries))
      let scalar (s : Node) : Compose Node := do
        bind p.name s
        pure s
      match ← peek, block, flush with
      | .entry, _, true => sequence (flushItems n)
      | .scalar text plain, _, _ => do
        drop
        scalar (scalarNode p i text plain)
      | .torn text, _, _ => do
        drop
        scalar (tornNode p i text)
      | .openSequence, _, _ => sequence (do drop; flowItems true n)
      | .openMapping, _, _ => mapping (do drop; flowEntries true n)
      | .blockSequence, true, _ => sequence (do drop; blockItems n)
      | .blockMapping, true, _ => mapping (do drop; blockEntries n)
      | _, _, _ =>
        if p.name.isSome || p.tag.isSome then scalar (scalarNode p i "" true)
        else throw .order

/-- The items of a block sequence. -/
def blockItems : (fuel : Nat) → Compose (List Node)
  | 0 => throw .order
  | n + 1 => do
    if ← accept .entry then
      let item ← if ← isNext [.entry, .blockEnd] then pure .empty else node true false n
      pure (item :: (← blockItems n))
    else
      expect .blockEnd
      pure []

/-- The items of a sequence without an indentation of its own. -/
def flushItems : (fuel : Nat) → Compose (List Node)
  | 0 => throw .order
  | n + 1 => do
    if ← accept .entry then
      let item ← if ← isNext [.entry, .key, .value, .blockEnd] then pure .empty
        else node true false n
      pure (item :: (← flushItems n))
    else pure []

/-- The entries of a block mapping. -/
def blockEntries : (fuel : Nat) → Compose (List (Node × Node))
  | 0 => throw .order
  | n + 1 => do
    if ← accept .key then
      let key ← if ← isNext [.key, .value, .blockEnd] then pure .empty else node true true n
      let value ← if ← accept .value then
          if ← isNext [.key, .value, .blockEnd] then pure .empty else node true true n
        else pure .empty
      pure ((key, value) :: (← blockEntries n))
    else
      expect .blockEnd
      pure []

/-- The items of a flow sequence. An item may be a mapping with a single entry. -/
def flowItems (first : Bool) : (fuel : Nat) → Compose (List Node)
  | 0 => throw .order
  | n + 1 => do
    if ← accept .closeSequence then pure []
    else
      if !first then expect .comma
      if ← accept .key then
        let key ← if ← isNext [.value, .comma, .closeSequence] then pure .empty
          else node false false n
        let value ← if ← accept .value then
            if ← isNext [.comma, .closeSequence] then pure .empty else node false false n
          else pure .empty
        pure (.mapping (← number) (coreTag "map") [(key, value)] :: (← flowItems false n))
      else if ← accept .closeSequence then pure []
      else
        let item ← node false false n
        pure (item :: (← flowItems false n))

/-- The entries of a flow mapping. An entry may be a key alone. -/
def flowEntries (first : Bool) : (fuel : Nat) → Compose (List (Node × Node))
  | 0 => throw .order
  | n + 1 => do
    if ← accept .closeMapping then pure []
    else
      if !first then expect .comma
      if ← accept .key then
        let key ← if ← isNext [.value, .comma, .closeMapping] then pure .empty
          else node false false n
        let value ← if ← accept .value then
            if ← isNext [.comma, .closeMapping] then pure .empty else node false false n
          else pure .empty
        pure ((key, value) :: (← flowEntries false n))
      else if ← accept .closeMapping then pure []
      else
        let key ← node false false n
        pure ((key, .empty) :: (← flowEntries false n))

end

/-! ### Documents -/

/-- The handles that need not be declared. -/
def standardHandles : List (String × String) := [("!", "!"), ("!!", coreBeginning)]

/-- The directives before a document: the versions and the handles that they declare. There are at
most `n` of them. -/
def directives (versioned : Bool) (handles : List (String × String)) :
    (n : Nat) → Compose (List (String × String))
  | 0 => pure handles
  | n + 1 => do
    match ← peek with
    | .directive (.version major) =>
      drop
      if versioned || major != 1 then throw .order
      directives true handles n
    | .directive (.handle name beginning) =>
      drop
      if (handles.lookup name).isSome then throw .order
      directives versioned ((name, beginning) :: handles) n
    | .directive .other =>
      drop
      directives versioned handles n
    | _ => pure handles

/-- Passes over marks that end a document. -/
def dropEnds : (n : Nat) → Compose Unit
  | 0 => pure ()
  | n + 1 => do if ← accept .documentEnd then dropEnds n

/-- Whether the text ends here. If it does not, a document with a mark in front begins. -/
def startDocument (n : Nat) : Compose Bool := do
  dropEnds n
  if (← peek) == .streamEnd then pure false
  else
    let handles ← directives false [] n
    expect .documentStart
    modify fun s => { s with handles := handles ++ standardHandles }
    pure true

/-- Whether the next token is a directive. -/
def isDirectiveNext : Compose Bool := do
  match ← peek with
  | .directive _ => pure true
  | _ => pure false

/-- Whether a document has nothing in it. -/
def isDocumentEmpty : Compose Bool := do
  if ← isDirectiveNext then pure true
  else isNext [.documentStart, .documentEnd, .streamEnd]

/-- The first document, if there is one. -/
def firstDocument (n : Nat) : Compose (Option Node) := do
  if !(← isDirectiveNext) && !(← isNext [.documentStart, .streamEnd]) then
    modify fun s => { s with handles := standardHandles }
    some <$> node true false n
  else if ← startDocument n then
    if ← isDocumentEmpty then pure (some .empty) else some <$> node true false n
  else pure none

/-- The one document, if there is one. -/
def onlyDocument (n : Nat) : Compose (Option Node) := do
  let d ← firstDocument n
  if d.isSome then
    if ← startDocument n then throw .name
  pure d

end Compose

/-- The node of a document, if there is one. Each token takes three steps at most. -/
def Node.ofTokens (ts : Tokens) : Except Fault (Option Node) :=
  ((Compose.onlyDocument (3 * ts.list.length + 3)).run ⟨ts.list, ts.fault, [], [], 0⟩).map (·.1)

end ApiContract.Yaml
