/-
Finding a template among the files of the service. A path names a file by
steps from the directory of the package, or from the root if it begins
with a slash. Empty steps and single dots lead nowhere; two dots lead to
the directory above, but only from a directory. Every step before the
last must be a directory that is there, even if a later step leads out of
it again.

Known are the directories of the package and the shipped template. Above
the package lie its parent directories, up to the root with the
directories that every root has. The files of the program are not known
by name, but by how their names end: a path cannot lead through one of
them, and none of them holds a template.

A path must not be too long, counted from the root and without the steps
that lead nowhere; this is found out before any step is taken.
-/
import ApiMount.Template.Packaged
import ApiMount.Text.Basic

namespace ApiMount.Template

/-- A file, or a directory with what is in it. The files of a program may
lie there too. -/
inductive FileTree where
  | file (text : String)
  | directory (entries : List (String × FileTree)) (hasPrograms : Bool)

/-- Why no text is at a path. -/
inductive AssetFault where
  | missing
  | isDirectory
  | notDirectory
  /-- A step or the whole path is too long. -/
  | tooLong
  /-- The path holds a NUL character. -/
  | holdsNul
  deriving DecidableEq, Repr

/-- The words for a path with a NUL character. -/
def nulMessage : String := "embedded null byte"

/-- Whether the name of a file is that of a file of the program. -/
def isProgramName (name : String) : Bool := name.endsWith ".py"

/-- A directory of the program, with what else is in it. -/
def programDirectory (others : List (String × FileTree)) : FileTree :=
  .directory others true

/-- A directory with nothing of the program in it. -/
def plainDirectory (entries : List (String × FileTree)) : FileTree :=
  .directory entries false

/-- The package: its directories, and the shipped template. -/
def packageTree : FileTree :=
  programDirectory [
    ("api", programDirectory [("routes", programDirectory [])]),
    ("assets", plainDirectory [("openapiv3.json", .file packagedText)]),
    ("core", programDirectory []),
    ("infrastructure", programDirectory []),
    ("schemas", programDirectory []),
    ("services", programDirectory [])]

/-- The directories beside the package that follow its order. -/
def besideTree : FileTree :=
  programDirectory (["core", "infrastructure", "schemas", "services"].map
    fun name => (name, programDirectory []))

/-- The directory that the package is in. -/
def parentTree : FileTree :=
  plainDirectory [("policy_openapi", packageTree), ("tests", besideTree)]

/-- The directory above that. -/
def sourceTree : FileTree := plainDirectory [("backend", parentTree)]

/-- The directories that every root has. -/
def usualDirectories : List String :=
  ["bin", "boot", "etc", "home", "lib", "media", "mnt", "opt", "proc",
    "run", "sbin", "srv", "sys", "tmp", "usr", "var"]

/-- The directory at the root. -/
def rootTree : FileTree :=
  plainDirectory (("src", sourceTree)
    :: ("dev", plainDirectory [("null", .file "")])
    :: usualDirectories.map fun name => (name, plainDirectory []))

/-- Where a relative path starts: the package, and what lies above it. -/
def packagePlace : FileTree × List FileTree :=
  (packageTree, [parentTree, sourceTree, rootTree])

/-- Where an absolute path starts. -/
def rootPlace : FileTree × List FileTree := (rootTree, [])

/-- The most bytes in one step. -/
def stepLimit : Nat := 255

/-- The most bytes in a path. -/
def pathLimit : Nat := 4095

/-- The path of the package's directory. -/
def packageDirectory : String := "/src/backend/policy_openapi"

/-- What the given steps lead to from a place, which is a file or a
directory under the directories `above` it, nearest first. Nothing lies
above the last of them. -/
def follow (here : FileTree) (above : List FileTree) :
    List String → Except AssetFault FileTree
  | [] => .ok here
  | step :: rest =>
    match here with
    | .file _ => .error .notDirectory
    | .directory entries hasPrograms =>
      if step = ".." then
        match above with
        | [] => follow here [] rest
        | parent :: further => follow parent further rest
      else if stepLimit < Text.byteCount step.toList then
        .error .tooLong
      else
        match entries.lookup step with
        | some next => follow next (here :: above) rest
        | none =>
          if hasPrograms && isProgramName step && !rest.isEmpty then
            .error .notDirectory
          else .error .missing

/-- The steps of a path that lead anywhere. -/
def steps (path : String) : List String :=
  (path.splitOn "/").filter fun step => step != "" && step != "."

/-- Whether a path begins at the root. -/
def isAbsolute (path : String) : Bool := path.toList.head? = some '/'

/-- The bytes of a path from the root on. -/
def pathLength (path : String) : Nat :=
  let inside := String.intercalate "/" (steps path)
  let whole :=
    if isAbsolute path then "/" ++ inside
    else packageDirectory ++ "/" ++ inside
  Text.byteCount whole.toList

/-- The text at a path. -/
def readAsset (path : String) : Except AssetFault String := do
  if path.toList.contains '\x00' then .error .holdsNul
  if pathLimit < pathLength path then .error .tooLong
  let (start, above) :=
    if isAbsolute path then rootPlace else packagePlace
  match ← follow start above (steps path) with
  | .file text => return text
  | .directory _ _ => .error .isDirectory

end ApiMount.Template
