/-!
# Spelled paths

A path keeps its spelling: `a//b` and `a/./b` name the same file as `a/b` but are other texts, and
messages show paths as they were spelled. Walking up a path takes off one piece after another,
together with the signs around it that name nothing. The walk ends at `/` for an absolute path, and
at the empty path for a relative one.
-/

namespace Variadic.FileTree

/-- The pieces between the slashes of a text. -/
def splitAtSlashes : List Char → List (List Char)
  | [] => [[]]
  | '/' :: cs => [] :: splitAtSlashes cs
  | c :: cs =>
    match splitAtSlashes cs with
    | [] => [[c]]
    | piece :: pieces => (c :: piece) :: pieces

def pieces (path : String) : List String :=
  (splitAtSlashes path.toList).map String.ofList

def joinPieces (ps : List String) : String :=
  String.intercalate "/" ps

/-- Whether the piece at a position names something: a point does so only in front. -/
def isName (piece : String) (position : Nat) : Bool :=
  piece ≠ "" && (piece ≠ "." || position = 0)

/-- The starts of a path that end with a name, shortest first. -/
def starts (path : String) : List String :=
  let ps := pieces path
  let names := ps.zipIdx.filter fun (piece, position) => isName piece position
  names.map fun (_, position) => joinPieces (ps.take (position + 1))

/-- Where the walk up a path ends. -/
def top (path : String) : String :=
  if path.toList.head? = some '/' then "/" else ""

/-- A path and all paths above it, nearest first. -/
def ancestors (path : String) : List String :=
  match (starts path).reverse with
  | [] => [path]
  | _ :: above => path :: above ++ [top path]

/-- The path of a file in a directory. -/
def inDirectory (directory file : String) : String :=
  if directory = "" then file
  else if directory.toList.getLast? = some '/' then directory ++ file
  else directory ++ "/" ++ file

end Variadic.FileTree
