import Variadic.FileTree.Path

/-!
# File trees

The files that a configuration is read from. A path is followed piece by piece, and every piece but
the last has to lead to a directory. Paths start at the root of the tree, with or without a slash in
front: it is the working directory too. A path that leaves the tree leads to nothing.
-/

namespace Variadic

/-- The content of a file: a text, or bytes that encode none. -/
inductive File where
  | text (content : String)
  | binary (bytes : ByteArray)

def File.text? : File → Option String
  | text content => some content
  | binary _ => none

inductive FileTree where
  | file (content : File)
  | directory (entries : List (String × FileTree))

namespace FileTree

def empty : FileTree := directory []

/-- Follows the pieces of a path from a place in the tree. `above` holds the directories on the way
to it, nearest first. -/
def follow? (above : List FileTree) (place : FileTree) : List String → Option FileTree
  | [] => some place
  | piece :: pieces =>
    match place with
    | file _ => none
    | directory entries =>
      if piece = "" ∨ piece = "." then follow? above place pieces
      else if piece = ".." then
        match above with
        | [] => none
        | parent :: above => follow? above parent pieces
      else
        match entries.lookup piece with
        | none => none
        | some entry => follow? (place :: above) entry pieces

/-- The file that a path leads to. Directories are no files. -/
def file? (t : FileTree) (path : String) : Option File :=
  match follow? [] t (pieces path) with
  | some (file content) => some content
  | _ => none

def isFile (t : FileTree) (path : String) : Bool :=
  (t.file? path).isSome

/-- The text of the file that a path leads to, if it holds a text. -/
def text? (t : FileTree) (path : String) : Option String :=
  (t.file? path).bind File.text?

end FileTree

end Variadic
