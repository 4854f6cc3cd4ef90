import SourceWatch.Files.Path
import SourceWatch.Text.Utf8

/-!
# File trees

A file tree is a folder: named entries in the order of their names, each a file, a symbolic link or a
folder. A path is followed name by name from the folder that the program runs in; links are replaced
by their targets, at most forty of them. The tree has no place among the folders above it: these count
as empty, so no path leads through them back into the tree. Permissions, and files that are neither
regular files nor links, are outside this model.

Main definitions:

* `Node`, `Folder`: file trees.
* `FileFault`: why a path leads nowhere, with number and wording.
* `Folder.resolve`: what a path leads to.
* `Folder.readFile`, `Folder.sizeOf`: the bytes and the size of a file.
* `Folder.isFolder`: whether a path leads to a folder.
* `Folder.put`, `Folder.remove`: changing a tree.
-/

namespace SourceWatch

open Text

/-- A file, a symbolic link or a folder. -/
inductive Node where
  | file (bytes : List UInt8)
  | link (target : String)
  | folder (entries : List (String × Node))
  deriving Inhabited

/-- The entries of a folder in the order of their names. -/
abbrev Folder := List (String × Node)

/-- Why a path leads nowhere. -/
inductive FileFault where
  | missing
  | notFolder
  | isFolder
  | tooManyLinks
  | nameTooLong
  | embeddedNul
  deriving DecidableEq

/-- The number of a fault; a path with a NUL is refused before it gets one. -/
def FileFault.number : FileFault → Nat
  | missing => 2
  | notFolder => 20
  | isFolder => 21
  | tooManyLinks => 40
  | nameTooLong => 36
  | embeddedNul => 22

/-- The wording of a fault. -/
def FileFault.text : FileFault → String
  | missing => "No such file or directory"
  | notFolder => "Not a directory"
  | isFolder => "Is a directory"
  | tooManyLinks => "Too many levels of symbolic links"
  | nameTooLong => "File name too long"
  | embeddedNul => "embedded null byte"

namespace Folder

/-! ### Following a path -/

/-- The open folders on the way to a place, innermost first. -/
abbrev Trail := List (String × Folder)

/-- The folder that a trail ends in. -/
def current (top : Folder) : Trail → Folder
  | [] => top
  | (_, folder) :: _ => folder

/-- The entry of a folder with a given name. -/
def child? (folder : Folder) (name : String) : Option Node :=
  (folder.find? (·.1 = name)).map (·.2)

/-- What a path leads to. -/
inductive Target where
  | file (bytes : List UInt8)
  | folder (trail : Trail) (entries : Folder)

/-- Where following a path stops: at its end, at a fault, or at a link with the names behind it. -/
inductive Stop where
  | reached (target : Target)
  | failed (fault : FileFault)
  | atLink (target : String) (trail : Trail) (rest : List String)

/-- The longest name that a folder can hold, in bytes. -/
def longestName : Nat := 255

/-- The longest path that can be followed, in bytes. -/
def longestPath : Nat := 4095

/-- The greatest number of links on one way. -/
def linkBudget : Nat := 40

/-- A folder above the one that the program runs in. -/
def outside : Target :=
  .folder [("..", [])] []

/-- What names lead to from a folder above the one that the program runs in. Absolute paths, absolute
targets of links and paths that climb above the top lead to one of these folders, which count as empty,
or to nothing; also where the names are those of the way down to the tree. -/
def followOutside (names : List String) : Except FileFault Target :=
  if names.all fun name => Path.isIdle name || name = ".." then .ok outside else .error .missing

/-- Whether a name is longer than any entry's. -/
def isLongName (name : String) : Bool :=
  longestName < name.utf8ByteSize

/-- Follows names from the end of a trail up to the first link. -/
def advance (top : Folder) : Trail → List String → Stop
  | trail, [] => .reached (.folder trail (current top trail))
  | trail, name :: rest =>
    if Path.isIdle name then advance top trail rest
    else if name = ".." then
      match trail with
      | [] =>
        match followOutside rest with
        | .ok target => .reached target
        | .error fault => .failed fault
      | _ :: outer => advance top outer rest
    else if isLongName name then .failed .nameTooLong
    else match child? (current top trail) name with
      | none => .failed .missing
      | some (.folder entries) => advance top ((name, entries) :: trail) rest
      | some (.file bytes) => if rest.isEmpty then .reached (.file bytes) else .failed .notFolder
      | some (.link target) => .atLink target trail rest

/-- Follows names from the end of a trail, through at most `links` links. -/
def follow (top : Folder) : (links : Nat) → Trail → List String → Except FileFault Target
  | links, trail, names =>
    match advance top trail names with
    | .reached target => .ok target
    | .failed fault => .error fault
    | .atLink target trail rest =>
      match links with
      | 0 => .error .tooManyLinks
      | links + 1 =>
        if target.startsWith "/" then followOutside (Path.split target ++ rest)
        else follow top links trail (Path.split target ++ rest)

/-- What the path written as `s` leads to. -/
def resolve (top : Folder) (s : String) : Except FileFault Target :=
  if s.contains '\x00' then .error .embeddedNul
  else if longestPath < s.utf8ByteSize then .error .nameTooLong
  else if s.isEmpty then .error .missing
  else if s.startsWith "/" then followOutside (Path.split s)
  else follow top linkBudget [] (Path.split s)

/-- The bytes of the file that a path leads to. -/
def readFile (top : Folder) (s : String) : Except FileFault (List UInt8) :=
  match resolve top s with
  | .ok (.file bytes) => .ok bytes
  | .ok (.folder ..) => .error .isFolder
  | .error fault => .error fault

/-- The size that a folder reports. -/
def folderSize : Nat := 4096

/-- The size of what a path leads to. -/
def sizeOf (top : Folder) (s : String) : Except FileFault Nat :=
  match resolve top s with
  | .ok (.file bytes) => .ok bytes.length
  | .ok (.folder ..) => .ok folderSize
  | .error fault => .error fault

/-- Whether a path leads to a folder, by itself or through links. -/
def isFolder (top : Folder) (s : String) : Bool :=
  match resolve top s with
  | .ok (.folder ..) => true
  | _ => false

/-! ### Changing a tree -/

/-- A folder after `node` is stored under a name, at its place in the order of names. -/
def store (name : String) (node : Node) : Folder → Folder
  | [] => [(name, node)]
  | (other, kept) :: rest =>
    if other = name then (name, node) :: rest
    else if name < other then (name, node) :: (other, kept) :: rest
    else (other, kept) :: store name node rest

/-- A tree after the folder at a location is changed; folders on the way are made if missing. -/
def changeAt (change : Folder → Folder) : (location : List String) → Folder → Folder
  | [], folder => change folder
  | name :: location, folder =>
    let inner : Folder := match child? folder name with
      | some (.folder entries) => entries
      | _ => []
    store name (.folder (changeAt change location inner)) folder

/-- A tree after the folder at a location is changed, unless the location lies above the top. -/
def changeBelow (change : Folder → Folder) (location : List String) (top : Folder) : Folder :=
  if location.contains ".." then top else changeAt change location top

/-- Where the names of a path lead, with missing names taken as they stand. -/
def locate (top : Folder) : (links : Nat) → Trail → List String → List String
  | links, trail, names =>
    match names with
    | [] => (trail.map (·.1)).reverse
    | name :: rest =>
      match advance top trail [name], links with
      | .reached (.folder trail _), _ => locate top links trail rest
      | .atLink target _ _, links + 1 =>
        match follow top links trail (Path.split target) with
        | .ok (.folder trail _) => locate top (links + 1) trail rest
        | _ => (trail.map (·.1)).reverse ++ name :: rest
      | _, _ => (trail.map (·.1)).reverse ++ name :: rest
termination_by _ _ names => names.length

/-- The names of a path without idle ones. -/
def namesOf (s : String) : List String :=
  (Path.parse s).names

/-- A tree after `node` is stored at a path, in place of what stood there. Storing an empty folder
where a folder stands changes nothing, and so does storing anything above the top. -/
def put (s : String) (node : Node) (top : Folder) : Folder :=
  match (namesOf s).getLast?, locate top linkBudget [] (namesOf s).dropLast with
  | none, _ => top
  | some name, location =>
    changeBelow (fun folder =>
      match node, child? folder name with
      | .folder [], some (.folder _) => folder
      | _, _ => store name node folder) location top

/-- A tree without what stands at a path, if anything does. -/
def remove (s : String) (top : Folder) : Folder :=
  match (namesOf s).getLast? with
  | none => top
  | some name =>
    match follow top linkBudget [] (namesOf s).dropLast with
    | .ok (.folder trail _) =>
      changeBelow (fun folder => folder.filter (·.1 ≠ name)) (trail.map (·.1)).reverse top
    | _ => top

end Folder

end SourceWatch
