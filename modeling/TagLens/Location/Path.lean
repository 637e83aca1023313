import TagLens.Text.Basic

/-!
# Paths of files

A path is an anchor and the list of its parts. Empty parts and single dots are dropped when a
path is read, so repeated and trailing slashes leave no trace; double dots stay, because what
they mean depends on the file system. Two leading slashes are an anchor of their own, three or
more count as one.
-/

namespace TagLens.Location

/-- Where a path begins. -/
inductive Anchor where
  | relative
  | root
  /-- Exactly two leading slashes. -/
  | doubleRoot
  deriving DecidableEq, Repr

/-- How an anchor is written. -/
def Anchor.render : Anchor → String
  | .relative => ""
  | .root => "/"
  | .doubleRoot => "//"

/-- A normalised path. -/
structure Path where
  anchor : Anchor
  parts : List String
  deriving DecidableEq, Repr

namespace Path

/-- Read a path. -/
def ofString (s : String) : Path :=
  let text := s.toList
  let slashes := (text.takeWhile (· == '/')).length
  let anchor : Anchor :=
    if slashes == 0 then .relative else if slashes == 2 then .doubleRoot else .root
  ⟨anchor, ((Text.split '/' text).filter fun part => part != [] && part != ['.']).map String.ofList⟩

/-- Write a path; the path of nothing is a single dot. -/
def render (path : Path) : String :=
  if path.anchor == .relative && path.parts.isEmpty then "."
  else path.anchor.render ++ "/".intercalate path.parts

/-- Go on from a path; an anchored path starts anew. -/
def join (base path : Path) : Path :=
  if path.anchor == .relative then ⟨base.anchor, base.parts ++ path.parts⟩ else path

/-- Go on from a path by one name. -/
def child (base : Path) (name : String) : Path := ⟨base.anchor, base.parts ++ [name]⟩

/-- Let every double dot cancel the part before it; at the root there is nothing to cancel. -/
def cancelDots (parts : List String) : List String :=
  (parts.foldl (fun kept part => if part == ".." then kept.drop 1 else part :: kept) []).reverse

/-- The absolute path without double dots that a path names, seen from a directory. -/
def absolute (directory path : Path) : Path :=
  let joined := directory.join path
  ⟨joined.anchor, cancelDots joined.parts⟩

/-- The place in the file system that a path names, seen from a directory; there every anchor
is the root. -/
def resolve (directory path : Path) : Path := ⟨.root, (absolute directory path).parts⟩

end Path

/-- A way to read URIs: the text of the path that a URI names, or what is wrong with the URI. -/
abbrev UriReading := String → Except String String

/-- The path that a URI names; a URI that cannot be read is taken for a path itself. -/
def Path.ofUri (reading : UriReading) (uri : String) : Path :=
  .ofString <|
    match reading uri with
    | .ok text => text
    | .error _ => uri

end TagLens.Location
