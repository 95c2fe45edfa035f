import ApiContract.CommandLine.Flag
import ApiContract.Text.DecimalDigit
import ApiContract.Value

/-!
Reading arguments. A flag may be cut short as long as it is clear which one is meant; its value is
the next argument, or stands behind an equals sign, or directly behind a short flag. Two hyphens end
the flags. Of several values of one flag the last one counts.
-/

namespace ApiContract.CommandLine

open ApiContract.Text

/-- What an argument is: a flag under a name, perhaps with a value, a flag that there is not, the
mark that ends the flags, or something else. -/
inductive Word where
  | flag (f : Flag) (name : String) (value : Option String)
  | noFlag (argument : String)
  | mark
  | plain (argument : String)
  deriving Repr, DecidableEq

/-- Splits a text at its first equals sign. -/
def splitAssignment (s : String) : String × Option String :=
  match s.toList.span (· ≠ '=') with
  | (name, _ :: value) => (String.ofList name, some (String.ofList value))
  | _ => (s, none)

/-- A digit of any script. -/
def isAnyDigit (c : Char) : Bool := (digitValue? c).isSome

/-- Whether a text is a digit or more and nothing else but perhaps one line end. -/
def isDigitLine (cs : List Char) : Bool :=
  match cs with
  | [] => false
  | c :: cs => isAnyDigit c && [[], ['\n']].contains (cs.dropWhile isAnyDigit)

/-- Whether a text after a hyphen makes it a negative number. A line end may stand behind it. -/
def isNumberTail (cs : List Char) : Bool :=
  isDigitLine cs ||
    match cs.dropWhile isAnyDigit with
    | '.' :: ds => isDigitLine ds
    | _ => false

/-- A flag that is meant by a text that is not its name, and the value that comes with it. -/
abbrev Candidate := Flag × String × Option String

/-- The flags that a text may mean that is not the name of one. -/
def candidates (s : String) : List Candidate :=
  match s.toList with
  | '-' :: '-' :: _ =>
    let (name, value) := splitAssignment s
    (Flag.namesFrom name).map fun p => (p.2, p.1, value)
  | '-' :: c :: rest =>
    Flag.named.filterMap fun p =>
      if p.1 = String.ofList ['-', c] then some (p.2, p.1, some (String.ofList rest))
      else if s.toList.isPrefixOf p.1.toList then some (p.2, p.1, none)
      else none
  | _ => []

/-- A flag by its name, or by its name and a value behind an equals sign. -/
def exactFlag? (s : String) : Option Word :=
  match Flag.ofName? s, splitAssignment s with
  | some f, _ => some (.flag f s none)
  | none, (name, some value) => (Flag.ofName? name).map (.flag · name (some value))
  | none, _ => none

/-- What an argument is that begins with a hyphen and is no flag: a number or a text with spaces may
be a value. -/
def unmatchedWord (s : String) : Word :=
  if isNumberTail (s.toList.drop 1) || s.toList.contains ' ' then .plain s else .noFlag s

/-- What an argument before the mark is. -/
def wordOf (s : String) : Except Misuse Word :=
  match s.toList with
  | '-' :: _ :: _ => match exactFlag? s with
    | some w => .ok w
    | none => match candidates s with
      | [] => .ok (unmatchedWord s)
      | [(f, name, value)] => .ok (.flag f name value)
      | cs => .error (.ambiguous s (cs.map (·.2.1)))
  | _ => .ok (.plain s)

/-- What arguments are. -/
def words : List String → Except Misuse (List Word)
  | [] => .ok []
  | s :: ss =>
    if s = "--" then .ok (.mark :: ss.map .plain)
    else do pure ((← wordOf s) :: (← words ss))

/-! ### Values -/

/-- The values of flags, the last one first, and the arguments that are left over. -/
structure Arguments where
  values : List (Flag × Value)
  unknown : List String
  deriving Repr

/-- The value of a flag. -/
def Arguments.value? (a : Arguments) (f : Flag) : Option Value := a.values.lookup f

/-- The arguments with one more value. A value of two hyphens is an empty list. -/
def Arguments.add (a : Arguments) (f : Flag) (s : String) : Except Misuse Arguments := do
  let isMark := s == "--"
  match f.choices? with
  | some cs => if !isMark && !cs.contains s then throw (.noChoice f s cs)
  | none => pure ()
  match f.rival? with
  | some g => if (a.value? g).isSome then throw (.rivals f g)
  | none => pure ()
  pure { a with values := (f, if isMark then .list [] else .str s) :: a.values }

/-- The arguments with one more flag that takes no value. -/
def Arguments.raise (a : Arguments) (f : Flag) : Arguments :=
  { a with values := (f, .bool true) :: a.values }

/-- The flags that are packed behind a short one without a value, the last of which may have a
value. -/
def unpack (f : Flag) (name : String) (value : String) :
    Except Misuse (List Flag × Flag × Option String) :=
  go f name value.toList
where
  /-- The flags behind `f`, which has the given name. -/
  go (f : Flag) (name : String) : List Char → Except Misuse (List Flag × Flag × Option String)
    | [] => if f.takesValue then .ok ([], f, some "") else .error (.unwantedValue f "")
    | c :: cs =>
      if f.takesValue then .ok ([], f, some (String.ofList (c :: cs)))
      else if "--".toList.isPrefixOf name.toList then
        .error (.unwantedValue f (String.ofList (c :: cs)))
      else
        let short := String.ofList ['-', c]
        match Flag.ofName? short with
        | none => .error (.unwantedValue f (String.ofList (c :: cs)))
        | some g =>
          if cs.isEmpty then .ok ([f], g, none)
          else (go g short cs).map fun (fs, last) => (f :: fs, last)

/-- A flag with its value, if it takes one, and the words after it. -/
def takeValue (f : Flag) (value : Option String) (ws : List Word) :
    Except Misuse (Option String × List Word) :=
  match f.takesValue, value, ws with
  | true, some v, ws => .ok (some v, ws)
  | true, none, .plain s :: ws => .ok (some s, ws)
  | true, none, _ => .error (.noValue f)
  | false, _, ws => .ok (none, ws)

/-- The arguments with flags that take no value and a last one that may take one. -/
def Arguments.apply (a : Arguments) (raised : List Flag) (last : Flag) (value : Option String) :
    Except Misuse Arguments :=
  let a := raised.foldl Arguments.raise a
  match value with
  | some v => a.add last v
  | none => .ok (a.raise last)

/-- Whether help is asked for. -/
def Arguments.wantsHelp (a : Arguments) : Bool := (a.value? .help).isSome

/-- The arguments with the values of words, of which there are at most `n`. Nothing more is looked at
once help is asked for. -/
def Arguments.ofWords : (n : Nat) → Arguments → List Word → Except Misuse Arguments
  | 0, a, _ => .ok a
  | _ + 1, a, [] => .ok a
  | n + 1, a, .mark :: ws => ofWords n { a with unknown := a.unknown ++ ["--"] } ws
  | n + 1, a, .plain s :: ws => ofWords n { a with unknown := a.unknown ++ [s] } ws
  | n + 1, a, .noFlag s :: ws => ofWords n { a with unknown := a.unknown ++ [s] } ws
  | n + 1, a, .flag f name value :: ws => do
    let (raised, last, value) ← match value with
      | some v => unpack f name v
      | none => pure ([], f, none)
    let (value, ws) ← takeValue last value ws
    if raised.contains .help then pure (a.raise .help)
    else
      let a ← a.apply raised last value
      if a.wantsHelp then pure a else ofWords n a ws

/-- The values in arguments. One of the flags that name the schema must be there, and no argument may
be left over; where help is asked for that does not matter. -/
def Arguments.ofList (args : List String) : Except Misuse Arguments := do
  let ws ← words args
  let a ← Arguments.ofWords ws.length ⟨[], []⟩ ws
  if a.wantsHelp then pure a
  else if Flag.required.all fun f => (a.value? f).isNone then throw (.missing Flag.required)
  else if !a.unknown.isEmpty then throw (.unknown a.unknown)
  else pure a

end ApiContract.CommandLine
