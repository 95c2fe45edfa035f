import ApiContract.Files.Path
import ApiContract.Text.Utf8

/-!
A tree of files with a working directory, where paths begin unless they are absolute. Paths are
followed part by part: every part but the last must be a directory, and two dots lead back.
-/

namespace ApiContract.Files

open ApiContract.Text

/-- What can be at a place. -/
inductive Entry where
  | file (content : List UInt8)
  | directory
  deriving Repr, DecidableEq

/-- Why a path cannot be used. -/
inductive Obstacle where
  | missing | exists | notDirectory | isDirectory | nameTooLong | nullCharacter
  deriving Repr, DecidableEq

/-- A path that cannot be used. -/
structure FileError where
  obstacle : Obstacle
  path : String
  deriving Repr, DecidableEq

/-- The number and the words of an obstacle. -/
def Obstacle.words : Obstacle → String
  | missing => "[Errno 2] No such file or directory"
  | «exists» => "[Errno 17] File exists"
  | notDirectory => "[Errno 20] Not a directory"
  | isDirectory => "[Errno 21] Is a directory"
  | nameTooLong => "[Errno 36] File name too long"
  | nullCharacter => "embedded null byte"

/-- The error in words. -/
def FileError.message (e : FileError) : String :=
  if e.obstacle = .nullCharacter then e.obstacle.words
  else e.obstacle.words ++ ": " ++ quoted e.path

/-- A place: the parts of the way to it from the root. -/
abbrev Place := List String

/-- A tree: the working directory, and what is at other places. -/
structure Tree where
  home : Place
  entries : List (Place × Entry)
  deriving Repr

namespace Tree

/-- No files but the directories on the way to the working directory. -/
def ofHome (home : Place) : Tree := ⟨home, []⟩

/-- What is at a place. -/
def entry? (t : Tree) (place : Place) : Option Entry :=
  if place.isPrefixOf t.home then some .directory else t.entries.lookup place

/-- The tree with another entry at a place. -/
def set (t : Tree) (place : Place) (e : Entry) : Tree :=
  { t with entries := (place, e) :: t.entries.filter (·.1 != place) }

/-- The tree without what is at a place. -/
def remove (t : Tree) (place : Place) : Tree :=
  { t with entries := t.entries.filter (·.1 != place) }

/-- The longest name that a part may have, and the longest path, in bytes. -/
def nameLimit : Nat := 255

/-- The longest path in bytes. -/
def pathLimit : Nat := 4095

/-- The place one part further on, which need not be there. The place itself must be a directory, and
nothing is before the root. -/
def next (t : Tree) (place : Place) (part : String) : Except Obstacle Place :=
  match t.entry? place with
  | none => .error .missing
  | some (.file _) => .error .notDirectory
  | some .directory =>
    if part = ".." then .ok place.dropLast
    else if nameLimit < part.utf8ByteSize then .error .nameTooLong
    else .ok (place ++ [part])

/-- The place that parts lead to. -/
def walk (t : Tree) (place : Place) : List String → Except Obstacle Place
  | [] => .ok place
  | part :: parts => match t.next place part with
    | .error e => .error e
    | .ok place => walk t place parts

/-- The place of a path. It need not be there, but the way to it must. -/
def locate (t : Tree) (p : Path) : Except Obstacle Place :=
  if p.text.toList.contains '\x00' then .error .nullCharacter
  else if pathLimit < p.text.utf8ByteSize then .error .nameTooLong
  else t.walk (if p.slashes = 0 then t.home else []) p.parts

/-- What is at a path. -/
def stat (t : Tree) (p : Path) : Except Obstacle Entry :=
  match t.locate p with
  | .error e => .error e
  | .ok place => match t.entry? place with
    | some e => .ok e
    | none => .error .missing

/-- The content of the file at a path, if there is one. Only a name that is too long is an error. -/
def file? (t : Tree) (p : Path) : Except FileError (Option (List UInt8)) :=
  match t.stat p with
  | .ok (.file bs) => .ok (some bs)
  | .ok .directory => .ok none
  | .error .nameTooLong => .error ⟨.nameTooLong, p.text⟩
  | .error _ => .ok none

/-- Whether a text can name a directory only. -/
def namesDirectory (text : String) : Bool :=
  ['/'].isSuffixOf text.toList || ['/', '.'].isSuffixOf text.toList

/-- What is named by a text. The empty text names nothing. -/
def named (t : Tree) (text : String) : Except Obstacle Entry :=
  if text.isEmpty then .error .missing
  else match t.stat (Path.ofText text) with
    | .ok (.file bs) => if namesDirectory text then .error .notDirectory else .ok (.file bs)
    | r => r

/-- The content of the file that is named by a text. -/
def read (t : Tree) (text : String) : Except FileError (List UInt8) :=
  match t.named text with
  | .ok (.file bs) => .ok bs
  | .ok .directory => .error ⟨.isDirectory, text⟩
  | .error e => .error ⟨e, text⟩

/-- Whether there is a directory at a path. -/
def isDirectory (t : Tree) (p : Path) : Bool := match t.stat p with
  | .ok .directory => true
  | _ => false

/-- The tree with a new directory at a path. -/
def addDirectory (t : Tree) (p : Path) : Except Obstacle Tree :=
  match t.locate p with
  | .error e => .error e
  | .ok place => match t.entry? place with
    | some _ => .error .exists
    | none => .ok (t.set place .directory)

/-- The tree with a new directory at a path, where a directory may be already. -/
def ensureDirectory (t : Tree) (p : Path) : Tree × Except FileError Unit :=
  match t.addDirectory p with
  | .ok t => (t, .ok ())
  | .error e => (t, if t.isDirectory p then .ok () else .error ⟨e, p.text⟩)

/-- The tree with directories at a path and on the way to it, where the last `n` parts may be
missing. What is made before a failure stays. -/
def addDirectories (t : Tree) (p : Path) : (n : Nat) → Tree × Except FileError Unit
  | 0 => t.ensureDirectory p
  | n + 1 => match t.addDirectory p with
    | .error .missing => match addDirectories t p.parent n with
      | (t, .ok _) => t.ensureDirectory p
      | (t, .error e) => (t, .error e)
    | _ => t.ensureDirectory p

/-- The place where a file at a path can be opened for writing. -/
def target (t : Tree) (p : Path) : Except FileError Place :=
  match t.locate p with
  | .error e => .error ⟨e, p.text⟩
  | .ok place => match t.entry? place with
    | some .directory => .error ⟨.isDirectory, p.text⟩
    | _ => .ok place

/-- The tree with a file of some content at a place. A file that is opened for writing is empty at
first, whatever was in it before. -/
def setFile (t : Tree) (place : Place) (content : List UInt8) : Tree := t.set place (.file content)

/-- The tree with the directories on the way to a file. -/
def prepare (t : Tree) (p : Path) : Tree × Except FileError Unit :=
  t.addDirectories p.parent p.parts.length

/-- The tree with a file at a path and the directories on the way to it. -/
def write (t : Tree) (p : Path) (content : List UInt8) : Tree × Except FileError Unit :=
  match t.prepare p with
  | (t, .error e) => (t, .error e)
  | (t, .ok _) => match t.target p with
    | .ok place => (t.setFile place content, .ok ())
    | .error e => (t, .error e)

/-- The tree without the file that is named by a text. -/
def delete (t : Tree) (text : String) : Except FileError Tree :=
  match t.named text, t.locate (Path.ofText text) with
  | .ok (.file _), .ok place => .ok (t.remove place)
  | .ok _, _ => .error ⟨.isDirectory, text⟩
  | .error e, _ => .error ⟨e, text⟩

/-- A place as it is seen from the working directory. -/
def pathTo (t : Tree) (place : Place) : String :=
  if t.home.isPrefixOf place then "/".intercalate (place.drop t.home.length)
  else "/" ++ "/".intercalate place

/-- All files with their contents, by their places. -/
def allFiles (t : Tree) : List (Place × List UInt8) :=
  t.entries.filterMap fun (place, e) => match e with
    | .file bs => some (place, bs)
    | .directory => none

/-- The files below the working directory with their contents, in the order of their paths. -/
def files (t : Tree) : List (String × List UInt8) :=
  let all := (t.allFiles.filter fun f => t.home.isPrefixOf f.1).map fun f => (t.pathTo f.1, f.2)
  all.mergeSort fun a b => a.1 ≤ b.1

/-- The files that are not in an earlier tree as they are here. -/
def changes (t before : Tree) : List (String × List UInt8) :=
  let old := before.allFiles
  (t.allFiles.filter fun f => old.lookup f.1 != some f.2).map fun f => (t.pathTo f.1, f.2)

end Tree

end ApiContract.Files
