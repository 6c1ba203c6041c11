import VisualNovel.Json.Reader
import VisualNovel.Named
import VisualNovel.Text.Surrogate
/-!
Files by their paths.  A name inside a folder may lead through other folders and out of the one it
starts in, as paths do; it leads nowhere through a folder that does not exist.
-/

namespace VisualNovel

/-- What a file holds: a document that was written, or any text. -/
inductive File where
  | document (value : Json)
  | text (content : String)

/-- Line ends as they are read. -/
def unifyLineEnds : List Char → List Char
  | '\r' :: '\n' :: rest => '\n' :: unifyLineEnds rest
  | '\r' :: rest => '\n' :: unifyLineEnds rest
  | c :: rest => c :: unifyLineEnds rest
  | [] => []

/-- The document in a file. -/
def File.read : File → Except Json.ReadError Json
  | document value => .ok value
  | text content => Json.read (String.ofList (unifyLineEnds content.toList))

/-- Why a path leads to no place where a file could be. -/
inductive NoPlace where
  /-- a folder on the way does not exist -/
  | noFolder
  /-- a file is on the way -/
  | notFolder
  /-- a name on the way has more bytes than names can have -/
  | longName
  /-- a name holds the character that ends names -/
  | brokenName
  /-- a name holds half a surrogate pair, which has no bytes -/
  | unencodable
  deriving DecidableEq

/-- Files by their paths from the top, with slashes between the names, and the folders that are
there whether anything is in them or not. -/
structure Directory where
  files : Named File
  folders : List String

namespace Directory

def joinPath (names : List String) : String := "/".intercalate names

/-- Whether a path leads into a folder. -/
def leadsInto (folder path : String) : Bool := (folder ++ "/").toList.isPrefixOf path.toList

/-- Whether a path leads to a folder.  Whatever is above the top is one. -/
def hasFolder (directory : Directory) (path : String) : Bool :=
  directory.folders.contains path || directory.files.entries.any fun (file, _) => leadsInto path file

/-- How many bytes a name can have. -/
def nameLimit : Nat := 255

/-- Whether half a surrogate pair stands for a byte of its own in a name. -/
def isLooseByte (c : Char) : Bool :=
  Text.standsForSurrogate c && 0xdc80 ≤ Text.codePoint c && Text.codePoint c ≤ 0xdcff

/-- The number of bytes of a name. -/
def byteCount (name : String) : Nat :=
  name.toList.foldl (fun count c => count + if isLooseByte c then 1 else c.utf8Size) 0

/-- What is wrong with a name wherever it stands. -/
def wrongName? (name : String) : Option NoPlace :=
  if name.toList.any fun c => Text.standsForSurrogate c && !isLooseByte c then some .unencodable
  else if name.toList.contains '\x00' then some .brokenName
  else none

/-- The folder above one; above the top there are others. -/
def above : List String → List String
  | [] => [".."]
  | ".." :: outer => ".." :: ".." :: outer
  | _ :: outer => outer

/-- Follows names from a folder, which is given with its innermost name first. -/
def follow (directory : Directory) : List String → List String → Except NoPlace (List String)
  | folder, [] => .ok folder
  | folder, [name] =>
    if nameLimit < byteCount name then .error .longName else .ok (name :: folder)
  | folder, name :: next :: rest =>
    if name = "" ∨ name = "." then follow directory folder (next :: rest)
    else if name = ".." then follow directory (above folder) (next :: rest)
    else if nameLimit < byteCount name then .error .longName
    else
      let path := joinPath (name :: folder).reverse
      if directory.hasFolder path then follow directory (name :: folder) (next :: rest)
      else if (directory.files.get? path).isSome then .error .notFolder
      else .error .noFolder

/-- The path of the file of a name inside a folder, which is given with its outermost name first. -/
def path? (directory : Directory) (folder : List String) (name : String) :
    Except NoPlace String := do
  let file := name ++ ".json"
  if let some why := wrongName? file then throw why
  match file.toList.splitOn '/' with
  | [] :: _ => throw .noFolder
  | names =>
    let path ← directory.follow folder.reverse (names.map String.ofList)
    return joinPath path.reverse

/-- The file of a name inside a folder.  Only a name that is too long cannot be looked for. -/
def file? (directory : Directory) (folder : List String) (name : String) :
    Except NoPlace (Option File) :=
  match directory.path? folder name with
  | .ok path => .ok (directory.files.get? path)
  | .error .longName => .error .longName
  | .error _ => .ok none

/-- Writes a document under a name inside a folder. -/
def write? (directory : Directory) (folder : List String) (name : String) (document : Json) :
    Except NoPlace Directory := do
  let path ← directory.path? folder name
  return { directory with files := directory.files.insert path (.document document) }

/-- Removes the file of a name inside a folder, and tells whether there was one. -/
def remove? (directory : Directory) (folder : List String) (name : String) :
    Except NoPlace (Bool × Directory) := do
  match ← directory.file? folder name, directory.path? folder name with
  | some _, .ok path => return (true, { directory with files := directory.files.erase path })
  | _, _ => return (false, directory)

/-- Removes all that is inside a folder. -/
def clear (directory : Directory) (folder : String) : Directory :=
  (directory.files.entries.map Prod.fst).foldl
    (fun directory path =>
      if leadsInto folder path then
        { directory with files := directory.files.erase path }
      else directory)
    directory

/-- The paths of all files, sorted. -/
def paths (directory : Directory) : List String :=
  (directory.files.entries.map Prod.fst).mergeSort fun a b => a ≤ b

/-- The paths of all files inside a folder as they are seen from there, sorted. -/
def pathsUnder (directory : Directory) (folder : String) : List String :=
  directory.paths.filterMap fun path =>
    if leadsInto folder path then
      some (String.ofList (path.toList.drop (folder.length + 1)))
    else none

/-- The name that the path of a file right inside a folder has without its ending; a file with no
other name is called by its ending. -/
def nameIn? (folder path : String) : Option String := do
  let chars := path.toList
  let start := (folder ++ "/").toList
  let ending := ".json".toList
  guard (start.isPrefixOf chars && ending.isSuffixOf chars)
  let file := chars.drop start.length
  guard (!file.contains '/')
  return String.ofList (if file = ending then file else file.take (file.length - ending.length))

/-- The files right inside a folder with their names, in the order of their paths. -/
def filesIn (directory : Directory) (folder : String) : List (String × File) :=
  directory.paths.filterMap fun path => do
    return (← nameIn? folder path, ← directory.files.get? path)

end Directory

end VisualNovel
