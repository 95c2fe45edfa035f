import ApiContract.Files.Portion
import ApiContract.Yaml.Meaning

/-!
Reading YAML: the text is cut into tokens, the tokens make a node, and the node means a value. An
empty text means nothing. The text comes in portions, of which the first two are taken at once and
each further one when it is needed; what is wrong with the text before is found first.
-/

namespace ApiContract.Yaml

open ApiContract.Files

/-- A character that a text may have. -/
def isAcceptable (c : Char) : Bool :=
  let n := c.toNat
  c == '\t' || c == '\n' || c == '\r' || (0x20 ≤ n && n ≤ 0x7e) || n == 0x85 ||
    (0xa0 ≤ n && n ≤ 0xd7ff) || (0xe000 ≤ n && n ≤ 0xfffd) || 0x10000 ≤ n

/-- The portions as they are taken. -/
def helpings : List (List Char) → List (List Char)
  | first :: second :: rest => (first ++ second) :: rest
  | ps => ps

/-- The text that is known before something goes wrong, if something does. -/
def known (p : Portions) : List Char × Option Fault :=
  if p.fault.isSome && p.list.length < 2 then ([], some .unread)
  else
    let helped := helpings p.list
    let good := helped.takeWhile fun cs => cs.all isAcceptable
    (good.flatten,
      if good.length < helped.length then some .character else p.fault.map fun _ => .unread)

/-- The node of a text, if there is one. -/
def Node.ofPortions (p : Portions) : Except Fault (Option Node) :=
  let (cs, fault) := known p
  Node.ofTokens (Tokens.ofText cs fault)

/-- The value of a text. -/
def read (p : Portions) : Except Fault Value := do
  match ← Node.ofPortions p with
  | some n => n.meaning
  | none => pure .null

end ApiContract.Yaml
