import ModelRepositories.FileTree.Access
import ModelRepositories.Text.Split

/-!
Paths as they are written. Two paths are joined with one slash; the text of a path is kept as it was
formed, and only its pieces say where it leads.
-/

namespace ModelRepositories

structure Path where
  text : String
  deriving DecidableEq, Repr

namespace Path

def isEmpty (path : Path) : Bool :=
  path.text.isEmpty

def isAbsolute (path : Path) : Bool :=
  path.text.toList.head? == some '/'

def endsInSlash (path : Path) : Bool :=
  path.text.toList.getLast? == some '/'

def maxBytes : Nat := 4095

def check (path : Path) : Except AccessFault Unit :=
  if path.text.toList.contains '\x00' then .error .nulInPath
  else if maxBytes < path.text.utf8ByteSize then .error .nameTooLong
  else .ok ()

/-- An absolute path on the right stands for itself. -/
def join (left right : Path) : Path :=
  if right.isAbsolute then right
  else if left.isEmpty || left.endsInSlash then ⟨left.text ++ right.text⟩
  else ⟨left.text ++ "/" ++ right.text⟩

def split (text : List Char) : List String :=
  (Text.splitWhere (· == '/') text).map String.ofList

def pieces (path : Path) : List String :=
  (split path.text.toList).filter (!·.isEmpty)

/-- A slash at the end asks for a directory, as the name `.` does. -/
def steps (path : Path) : List String :=
  if path.endsInSlash then path.pieces ++ ["."] else path.pieces

def properPieces (path : Path) : List String :=
  match path.pieces with
  | [] => []
  | first :: rest =>
    if first = "." ∧ path.isAbsolute then rest.filter (· ≠ ".")
    else first :: rest.filter (· ≠ ".")

def beginnings {α : Type} : List α → List (List α)
  | [] => []
  | a :: rest => [a] :: (beginnings rest).map (a :: ·)

def above (path : Path) : List (List String) :=
  (beginnings path.properPieces.dropLast).reverse

def isIdle (piece : String) : Bool :=
  piece.isEmpty || piece == "."

def dropIdle (pieces : List String) : List String :=
  (pieces.reverse.dropWhile isIdle).reverse

/-- The beginning of a path is kept apart: a slash, or a `.` that is all there is before a slash. -/
def lead : List Char → String × List Char
  | '/' :: rest => ("/", rest)
  | ['.'] => (".", [])
  | '.' :: '/' :: rest => (".", '/' :: rest)
  | text => ("", text)

/--
The path without its last name, if it has one: slashes and `.` at the end are passed over first, and
what is left of the text stays as it was.
-/
def parent? (path : Path) : Option Path :=
  let (start, body) := lead path.text.toList
  match dropIdle (split body) with
  | [] => if start = "." then some ⟨""⟩ else none
  | names => some ⟨start ++ "/".intercalate (dropIdle names.dropLast)⟩

end Path

end ModelRepositories
