/-
Files by path, and fetching resources from them.

A path is a run of names between slashes.  It is followed name by name: an empty name
and `.` stay where they are, `..` goes up, and nothing can be followed from a place
that is no directory.

* `FileTree.follow` — the place that a path leads to;
* `FileTree.read` — the bytes of a file, or why there are none;
* `FileTree.transport` — resources named by a path or by the URL of a file.
-/
import MapStyle.Text.Split
import MapStyle.Transport
import MapStyle.Url.Parsing

namespace MapStyle

/-- A place among the files: the names on the way to it. -/
abbrev Place := List (List UInt8)

/-- Files and directories. -/
structure FileTree where
  files : List (Place × ByteArray)
  /-- Directories that are there even if they hold no file. -/
  directories : List Place
  /-- The directory that relative paths begin at, which is there too. -/
  working : Place

/-- What is at a place. -/
inductive FileEntry where
  | file (bytes : ByteArray)
  | directory

/-- Why no file can be read. -/
inductive FileFault where
  | missing
  | notDirectory
  | isDirectory
  | nameTooLong
  | zeroByte
deriving DecidableEq, Repr

/-- The fault in words. -/
def FileFault.message : FileFault → String
  | missing => "No such file or directory (os error 2)"
  | notDirectory => "Not a directory (os error 20)"
  | isDirectory => "Is a directory (os error 21)"
  | nameTooLong => "File name too long (os error 36)"
  | zeroByte => "file name contained an unexpected NUL byte"

namespace FileTree

/-- The byte between the names of a path. -/
def slash : UInt8 := '/'.toUInt8

/-- The bytes that a name may have. -/
def longestName : Nat := 255

/-- The bytes that a path may have. -/
def longestPath : Nat := 4095

/-- What is at a place.  What lies on the way to a file or a directory is a directory. -/
def entry? (t : FileTree) (place : Place) : Option FileEntry :=
  match t.files.lookup place with
  | some bytes => some (.file bytes)
  | none =>
    if (t.working :: t.directories ++ t.files.map Prod.fst).any place.isPrefixOf then
      some .directory
    else none

/-- The place that some names lead to. -/
def follow (t : FileTree) (here : Place) : List (List UInt8) → Except FileFault Place
  | [] => .ok here
  | name :: rest =>
    match t.entry? here with
    | none => .error .missing
    | some (.file _) => .error .notDirectory
    | some .directory =>
      if name = [] ∨ name = ".".toUTF8.toList then follow t here rest
      else if name = "..".toUTF8.toList then follow t here.dropLast rest
      else if longestName < name.length then .error .nameTooLong
      else follow t (here ++ [name]) rest

/-- The bytes of the file that a path leads to. -/
def read (t : FileTree) (path : List UInt8) : Except FileFault ByteArray :=
  if path.contains 0 then .error .zeroByte
  else if longestPath < path.length then .error .nameTooLong
  else if path.isEmpty then .error .missing
  else do
    -- A path that begins with a slash begins at the root.
    let start := if path.head? = some slash then [] else t.working
    match t.entry? (← t.follow start (Text.splitOn (· == slash) path)) with
    | none => .error .missing
    | some .directory => .error .isDirectory
    | some (.file bytes) => .ok bytes

/-- A path read inside a directory, unless it begins at the root. -/
def inside (directory : Option (List UInt8)) (path : List UInt8) : List UInt8 :=
  match directory with
  | some directory => if path.head? = some slash then path else directory ++ slash :: path
  | none => path

/-- The path of the file that a resource is, if it is one. -/
def path (directory : Option (List UInt8)) (url : String) : Except FetchError (List UInt8) :=
  if url.startsWith "file://" then
    match Url.parse url with
    | .error e => .error (.transport url e.message)
    | .ok parsed =>
      match parsed.filePath? with
      | some path => .ok path
      | none => .error (.transport url "not a local file URL")
  else if Text.contains "://".toList url.toList then
    .error (.transport url "unsupported scheme for file fetcher")
  else
    .ok (inside directory (String.ofList (url.toList.takeWhile (· != '?'))).toUTF8.toList)

/-- The bytes of a resource. -/
def fetch (t : FileTree) (directory : Option (List UInt8)) (url : String) :
    Except FetchError ByteArray := do
  match t.read (← path directory url) with
  | .ok bytes => .ok bytes
  | .error .missing => .error (.notFound url)
  | .error fault => .error (.transport url fault.message)

/-- The files as a transport, with relative paths read inside a directory. -/
def transport (t : FileTree) (directory : Option (List UInt8)) : Transport :=
  fun _ url => t.fetch directory url

end FileTree

end MapStyle
