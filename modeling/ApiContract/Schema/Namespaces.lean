import ApiContract.Text.Blank
import ApiContract.Text.Word
import ApiContract.Value

/-!
The declarations of namespaces on the start tag of a schema. They are read from the raw text: a tag
named `schema`, with a label or without, up to the next `>`, and in it whatever looks like the
declaration of a namespace.
-/

namespace ApiContract.Schema.Namespaces

open ApiContract.Text

/-- A character that a label may begin with. -/
def isLabelStart (c : Char) : Bool := c.isAlpha || c == '_'

/-- A character that a label may go on with. -/
def isLabelChar (c : Char) : Bool := isWord c || c == '.' || c == '-'

/-- What follows a word at the front. -/
def dropWord : (word : List Char) → List Char → Option (List Char)
  | [], cs => some cs
  | w :: ws, c :: cs => if w = c then dropWord ws cs else none
  | _ :: _, [] => none

/-- What follows the label and the colon at the front. -/
def dropLabel : List Char → Option (List Char)
  | [] => none
  | c :: cs =>
    if isLabelStart c then match cs.dropWhile isLabelChar with
      | ':' :: rest => some rest
      | _ => none
    else none

/-- Whether the name of a schema is at the front, and a `>` comes later. -/
def hasName (cs : List Char) : Bool :=
  match dropWord "schema".toList cs with
  | some rest => (rest.head?.map (!isWord ·)).getD true && rest.contains '>'
  | none => false

/-- Whether the tag of a schema is at the front, with a label or without. -/
def hasTag : List Char → Bool
  | '<' :: cs => ((dropLabel cs).map hasName).getD false || hasName cs
  | _ => false

/-- The first tag of a schema, without its `>`. -/
def findTag? : List Char → Option (List Char)
  | [] => none
  | c :: cs => if hasTag (c :: cs) then some ((c :: cs).takeWhile (· ≠ '>')) else findTag? cs

/-- The label that is declared after `xmlns`, empty for the default one, and what follows it. -/
def declaredLabel : List Char → Option (List Char × List Char)
  | ':' :: c :: cs =>
    if isLabelStart c then some (c :: cs.takeWhile isLabelChar, cs.dropWhile isLabelChar) else none
  | cs => some ([], cs)

/-- The value in quotes after an equals sign, and what follows it. -/
def declaredValue (cs : List Char) : Option (List Char × List Char) :=
  match cs.dropWhile isBlank with
  | '=' :: rest => match rest.dropWhile isBlank with
    | q :: rest =>
      if q = '"' ∨ q = '\'' then match rest.dropWhile (· ≠ q) with
        | _ :: after => some (rest.takeWhile (· ≠ q), after)
        | [] => none
      else none
    | [] => none
  | _ => none

/-- A declaration at the front: the label, the namespace and what follows them. -/
def declaration? (cs : List Char) : Option (String × String × List Char) :=
  match dropWord "xmlns".toList cs with
  | none => none
  | some rest => match declaredLabel rest with
    | none => none
    | some (label, rest) => match declaredValue rest with
      | none => none
      | some (value, after) => some (String.ofList label, String.ofList value, after)

theorem dropWord_length {w cs rest : List Char} (h : dropWord w cs = some rest) :
    rest.length + w.length = cs.length := by
  induction w generalizing cs with
  | nil => cases h; simp
  | cons a w ih =>
    cases cs with
    | nil => cases h
    | cons c cs =>
      unfold dropWord at h
      split at h
      · have := ih h
        simp only [List.length_cons]; omega
      · cases h

theorem declaredLabel_length {cs rest : List Char} {l : List Char}
    (h : declaredLabel cs = some (l, rest)) : rest.length ≤ cs.length := by
  unfold declaredLabel at h
  split at h
  · split at h
    · cases h
      have := (List.dropWhile_sublist isLabelChar (l := ‹List Char›)).length_le
      simp only [List.length_cons]; omega
    · cases h
  · cases h; simp

theorem declaredValue_length {cs v rest : List Char}
    (h : declaredValue cs = some (v, rest)) : rest.length < cs.length := by
  unfold declaredValue at h
  have h₁ := (List.dropWhile_sublist isBlank (l := cs)).length_le
  split at h
  · rename_i r hr
    have h₂ := (List.dropWhile_sublist isBlank (l := r)).length_le
    split at h
    · rename_i q r' hq
      split at h
      · have h₃ := (List.dropWhile_sublist (· ≠ q) (l := r')).length_le
        split at h
        · rename_i hd
          cases h
          rw [hd] at h₃
          rw [hr] at h₁
          rw [hq] at h₂
          simp only [List.length_cons] at *; omega
        · cases h
      · cases h
    · cases h
  · cases h

theorem declaration?_length {cs rest : List Char} {l u : String}
    (h : declaration? cs = some (l, u, rest)) : rest.length < cs.length := by
  unfold declaration? at h
  split at h
  · cases h
  · rename_i hw
    have h₁ := dropWord_length hw
    split at h
    · cases h
    · rename_i hl
      have h₂ := declaredLabel_length hl
      split at h
      · cases h
      · rename_i hv
        have h₃ := declaredValue_length hv
        cases h; omega

/-- All declarations in a tag. -/
def declarations (cs : List Char) : List (String × String) :=
  match cs with
  | [] => []
  | c :: tail => match _h : declaration? (c :: tail) with
    | some (label, space, rest) => (label, space) :: declarations rest
    | none => declarations tail
  termination_by cs.length
  decreasing_by
    · exact declaration?_length ‹_›
    · simp

/-- The namespaces that a schema declares, by their labels. -/
def ofText (cs : List Char) : List (String × String) :=
  match findTag? cs with
  | some t => fieldsOf (declarations t)
  | none => []

end ApiContract.Schema.Namespaces
