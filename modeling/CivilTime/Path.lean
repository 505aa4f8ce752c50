/-!
# Paths

A path is a sequence of segments between slashes. Written paths hold segments that lead
nowhere – empty ones, `.`, a name followed by `..` – and **normalizing** takes them out.

The keys of a zone database are paths too, from the root of the database. A key is
*plain* if it is relative, if normalizing leaves its length alone, and if it does not lead
out of the database. Whether a key leads out is judged from inside a directory named `_`.
-/

namespace CivilTime.Path

/-- The segments of a path: the texts between its slashes, empty ones too. -/
def segments : List Char → List (List Char)
  | [] => [[]]
  | c :: rest =>
    if c = '/' then [] :: segments rest
    else
      match segments rest with
      | [] => [[c]]
      | first :: others => (c :: first) :: others

/-- Whether a path starts at the root. -/
def isAbsolute (path : String) : Bool :=
  path.toList.head? = some '/'

/-- The segment for the place one is at. -/
def here : List Char := ['.']

/-- The segment for the place above. -/
def above : List Char := ['.', '.']

/-- A path put together from segments; without any, it is the place one is at. -/
def join (segments : List (List Char)) : List Char :=
  if segments = [] then here else List.intercalate ['/'] segments

/-- How many segments a path has. -/
def depth (path : String) : Nat :=
  (segments path.toList).length

/-! ### Keys -/

/-- The segments of a relative path, normalized; the segments before them are given in
reverse. A path may begin with steps up, but has none after a name. -/
def normalizeAfter (before : List (List Char)) : List (List Char) → List (List Char)
  | [] => before.reverse
  | s :: rest =>
    if s = [] ∨ s = here then normalizeAfter before rest
    else if s ≠ above then normalizeAfter (s :: before) rest
    else
      match before with
      | [] => normalizeAfter [s] rest
      | last :: earlier =>
        if last = above then normalizeAfter (s :: before) rest else normalizeAfter earlier rest

/-- A relative path, normalized. -/
def normalize (path : List Char) : List Char :=
  join (normalizeAfter [] (segments path))

/-- The directory from which keys are judged. -/
def base : List Char := ['_']

/-- Whether a relative path stays inside the directory that it starts from. -/
def staysInside (path : List Char) : Bool :=
  match normalizeAfter [] (base :: segments path) with
  | first :: _ :: _ => first = base
  | _ => false

/-- **Plain keys**: those a zone database looks up. -/
def isPlainKey (key : String) : Bool :=
  let path := key.toList
  !isAbsolute key && (normalize path).length = path.length && staysInside (normalize path)

end CivilTime.Path
