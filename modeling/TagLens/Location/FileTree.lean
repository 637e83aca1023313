import TagLens.Text.Quoted
import TagLens.Text.Utf8
import TagLens.Location.Path

/-!
# File trees

The files a run can see, as a value: a list of files and directories under their absolute
places. Every place above a file is a directory. Paths are walked part by part, so a double
dot after something that is no directory is an error and not a way back.
-/

namespace TagLens.Location

/-- What stands at a place. -/
inductive Node where
  | file (bytes : List UInt8)
  | directory
  /-- A place that holds nothing and swallows whatever is written to it. -/
  | sink
  deriving DecidableEq, Repr

/-- Files and directories under the parts of their absolute paths. -/
structure FileTree where
  entries : List (List String × Node)
  deriving DecidableEq, Repr

/-- Why a file cannot be used. -/
inductive AccessCause where
  | notFound
  | notDirectory
  | isDirectory
  | nameTooLong
  /-- The path holds a null character and names nothing. -/
  | nullInPath
  deriving DecidableEq, Repr

/-- A path that cannot be used, as it was asked for. -/
structure AccessError where
  cause : AccessCause
  path : String
  deriving DecidableEq, Repr

/-- The error in words. -/
def AccessError.message (error : AccessError) : String :=
  let numbered (number : Nat) (text : String) : String :=
    "[Errno " ++ toString number ++ "] " ++ text ++ ": " ++ Text.quotedString error.path
  match error.cause with
  | .notFound => numbered 2 "No such file or directory"
  | .notDirectory => numbered 20 "Not a directory"
  | .isDirectory => numbered 21 "Is a directory"
  | .nameTooLong => numbered 36 "File name too long"
  | .nullInPath => "embedded null byte"

namespace FileTree

/-- What stands at an absolute place. -/
def node? (tree : FileTree) (place : List String) : Option Node :=
  match tree.entries.find? (·.1 == place) with
  | some entry => some entry.2
  | none =>
    if place.isEmpty || tree.entries.any (fun entry => place.isPrefixOf entry.1) then
      some .directory
    else none

/-- The longest name a directory can hold, in bytes. -/
def maxNameBytes : Nat := 255

/-- The longest path that can be asked for, in bytes. -/
def maxPathBytes : Nat := 4095

/-- Walk from a place along the parts of a path. All but the last step need a directory. -/
def walk (tree : FileTree) (place : List String) : List String → Except AccessCause (List String)
  | [] => .ok place
  | part :: rest =>
    match tree.node? place with
    | none => .error .notFound
    | some (.file _) | some .sink => .error .notDirectory
    | some .directory =>
      if maxNameBytes < part.utf8ByteSize then .error .nameTooLong
      else walk tree (if part == ".." then place.dropLast else place ++ [part]) rest

/-- The place that a path names, seen from a directory. -/
def place (tree : FileTree) (directory path : Path) : Except AccessError (List String) :=
  let error (cause : AccessCause) : AccessError := ⟨cause, path.render⟩
  if List.elem '\x00' path.render.toList then .error (error .nullInPath)
  else if maxPathBytes < path.render.utf8ByteSize then .error (error .nameTooLong)
  else (tree.walk [] (directory.join path).parts).mapError error

/-- The bytes of a file, seen from a directory. -/
def read (tree : FileTree) (directory path : Path) : Except AccessError (List UInt8) := do
  let place ← tree.place directory path
  match tree.node? place with
  | some (.file bytes) => .ok bytes
  | some .sink => .ok []
  | some .directory => .error ⟨.isDirectory, path.render⟩
  | none => .error ⟨.notFound, path.render⟩

/-- The bytes of a regular file, if there is one. A path that is too long cannot even be asked
for. -/
def regularFile? (tree : FileTree) (directory path : Path) :
    Except AccessError (Option (List UInt8)) :=
  match tree.place directory path with
  | .ok place =>
    .ok <|
      match tree.node? place with
      | some (.file bytes) => some bytes
      | _ => none
  | .error error =>
    match error.cause with
    | .nameTooLong => .error error
    | .notFound | .notDirectory | .isDirectory | .nullInPath => .ok none

/-- Put bytes at a place, in the place of what stood there. -/
def put (tree : FileTree) (place : List String) (bytes : List UInt8) : FileTree :=
  ⟨tree.entries.filter (·.1 != place) ++ [(place, .file bytes)]⟩

/-- Make sure that a file can be added to, and create it empty if it does not exist. Gives the
place of the file. -/
def prepare (tree : FileTree) (directory path : Path) :
    Except AccessError (FileTree × List String) := do
  let place ← tree.place directory path
  match tree.node? place with
  | some (.file _) | some .sink => .ok (tree, place)
  | some .directory => .error ⟨.isDirectory, path.render⟩
  | none => .ok (tree.put place [], place)

/-- Add text at the end of the file at a place. -/
def append (tree : FileTree) (place : List String) (text : Text) : FileTree :=
  match tree.node? place with
  | some .sink => tree
  | some (.file bytes) => tree.put place (bytes ++ Text.Utf8.encode text)
  | _ => tree.put place (Text.Utf8.encode text)

end FileTree
end TagLens.Location
