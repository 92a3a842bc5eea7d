/-
  PATHS BELOW THE HOME DIRECTORY.

  A path that is `~`, or starts with `~/`, is meant below the home directory.  What follows `~/` may
  itself be absolute, and then stands alone.  Every other path is left as it is.
-/
namespace DocIndex

/-- A path below a directory; an absolute one stands alone. -/
def joinPath (directory path : List Char) : List Char :=
  match path with
  | '/' :: _ => path
  | _ => directory ++ '/' :: path

/-- The path with the home directory in the place of a leading `~`. -/
def expandHomeChars (home path : List Char) : List Char :=
  match path with
  | ['~'] => home
  | '~' :: '/' :: rest => joinPath home rest
  | _ => path

/-- The path with the home directory, where one is known, in the place of a leading `~`. -/
def expandHome (home : Option String) (path : String) : String :=
  match home with
  | some h => String.ofList (expandHomeChars h.toList path.toList)
  | none => path

end DocIndex
