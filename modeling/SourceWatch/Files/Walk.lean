import SourceWatch.Files.Tree
import SourceWatch.Log
import SourceWatch.Text.Blank
import SourceWatch.Text.Lowercase

/-!
# Walking a file tree

A walk lists the files below a folder whose extension is configured: first the files of a folder in
the order of their names, then what its subfolders hold. Subfolders with an ignored name are left out,
and so are links to folders; a link that leads to no folder counts as a file.

Main definitions:

* `Walker`, `Walker.ofLists`: the ignored names and the extensions of a walk.
* `Walker.selects`: whether a file name has one of the extensions.
* `Walker.traverse`: the files below a folder, with the records that the walk writes.
-/

namespace SourceWatch

open Text

/-- The folder names that are ignored unless configured otherwise. -/
def defaultIgnored : List String :=
  [".DS_Store", ".git", ".hg", ".mypy_cache", ".next", ".nuxt", ".pytest_cache", ".svn", ".venv",
    "__pycache__", "build", "coverage", "dist", "node_modules", "out", "target", "vendor", "venv"]

/-- The extensions of the files that are read unless configured otherwise. -/
def defaultExtensions : List String :=
  [".c", ".cjs", ".cpp", ".go", ".h", ".html", ".java", ".js", ".json", ".jsx", ".kt", ".m", ".mjs",
    ".php", ".py", ".rb", ".rs", ".sh", ".swift", ".ts", ".tsx", ".xml", ".yaml", ".yml"]

/-- The normal form of a configured extension: trimmed, in lower case, with a dot in front; `none` if
nothing is left. -/
def normalExtension? (s : String) : Option String :=
  match lower (strip s.toList) with
  | [] => none
  | '.' :: cs => some (String.ofList ('.' :: cs))
  | cs => some (String.ofList ('.' :: cs))

/-- Which files a walk lists. -/
structure Walker where
  /-- The names of the subfolders that are left out. -/
  ignored : List String
  /-- The extensions in normal form, each once, in order. -/
  extensions : List String
  deriving DecidableEq

namespace Walker

/-- The walker for configured names and extensions. -/
def ofLists (ignored extensions : List String) : Walker :=
  ⟨ignored, (extensions.filterMap normalExtension?).eraseDups.mergeSort fun a b => !(b < a)⟩

/-- Whether a file name has one of the extensions, whatever its case. -/
def selectsName (w : Walker) (name : String) : Bool :=
  w.extensions.contains (String.ofList (lower (extensionOf name.toList)))

/-- Whether the last name of a path has one of the extensions. -/
def selects (w : Walker) (path : String) : Bool :=
  w.selectsName (Path.parse path).fileName

/-- Whether an entry of the folder shown as `shown` counts as a file. -/
def isFile (top : Folder) (shown : Path) : String × Node → Bool
  | (_, .file _) => true
  | (_, .folder _) => false
  | (name, .link _) => !top.isFolder (shown.child name).render

/-- The selected files of one folder; `shown` is the path it is shown under. -/
def filesIn (w : Walker) (top : Folder) (shown : Path) (folder : Folder) : List Path :=
  (folder.filter fun entry => isFile top shown entry && w.selectsName entry.1).map fun entry =>
    shown.child entry.1

/-- The selected files of the subfolders of a folder. -/
def filesBelow (w : Walker) (top : Folder) (shown : Path) : Folder → List Path
  | [] => []
  | (name, .folder entries) :: rest =>
    let inner :=
      if w.ignored.contains name then []
      else
        w.filesIn top (shown.child name) entries ++ w.filesBelow top (shown.child name) entries
    inner ++ w.filesBelow top shown rest
  | (_, .file _) :: rest => w.filesBelow top shown rest
  | (_, .link _) :: rest => w.filesBelow top shown rest

/-- What a walk yields: the records it writes and the files it lists. -/
structure Traversal where
  records : List LogRecord
  files : List Path
  deriving DecidableEq

/-- The record about a folder that cannot be read. -/
def skippedSubtree (root : Path) (fault : FileFault) : LogRecord :=
  ⟨.warning, .walker, s!"Skipping subtree: Cannot read directory {root.render}: {fault.text}"⟩

/-- The walk below `root`. -/
def traverse (w : Walker) (top : Folder) (root : Path) : Traversal :=
  match top.resolve root.render with
  | .ok (.folder _ entries) =>
    ⟨[], w.filesIn top root entries ++ w.filesBelow top root entries⟩
  | .ok (.file _) => ⟨[skippedSubtree root .notFolder], []⟩
  | .error fault => ⟨[skippedSubtree root fault], []⟩

/-- The walk below the folder named `root`; a name with a NUL is refused. -/
def traverseNamed (w : Walker) (top : Folder) (root : String) : Except FileFault Traversal :=
  if root.contains '\x00' then .error .embeddedNul
  else .ok (w.traverse top (Path.parse root))

end Walker

end SourceWatch
