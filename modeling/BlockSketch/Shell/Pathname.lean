import BlockSketch.Shell.Machine
import BlockSketch.Shell.Pattern

/-!
# BlockSketch.Shell.Pathname

The paths that a pattern stands for.  A pattern is divided at its slashes.  A
name with special characters stands for the names of the folder that match it;
the others stand for themselves, and what they lead to has to be there.
-/

namespace BlockSketch.Shell

/-- The names of a pattern, which slashes divide, also those behind a backslash. -/
def patternNames : Bytes → List Bytes
  | [] => [[]]
  | '\\' :: '/' :: rest | '/' :: rest => [] :: patternNames rest
  | '\\' :: c :: rest =>
    match patternNames rest with
    | name :: names => ('\\' :: c :: name) :: names
    | [] => [['\\', c]]
  | c :: rest =>
    match patternNames rest with
    | name :: names => (c :: name) :: names
    | [] => [[c]]

/-- Whether a class ends that has begun.  Its first byte may be a closing bracket. -/
def classEnds : Bytes → Bool
  | [] | ['\\'] => false
  | '\\' :: _ :: ']' :: _ => true
  | '\\' :: _ :: rest => classEnds rest
  | _ :: ']' :: _ => true
  | _ :: rest => classEnds rest

/-- Whether a name of a pattern has special characters. -/
def hasSpecials : Bytes → Bool
  | [] => false
  | '*' :: _ | '?' :: _ => true
  | '[' :: rest =>
    classEnds (if rest.head? = some '!' then rest.drop 1 else rest) || hasSpecials rest
  | '\\' :: _ :: rest => hasSpecials rest
  | _ :: rest => hasSpecials rest

/-- A name of a pattern without the backslashes that take a meaning away. -/
def plainName : Bytes → Bytes
  | [] => []
  | '\\' :: c :: rest => c :: plainName rest
  | c :: rest => c :: plainName rest

/-- Whether a name of a pattern may match a name in a folder.  A dot at the front stands for
itself only. -/
def matchesName (pattern name : Bytes) : Bool :=
  let shown := name.head? ≠ some '.' || (plainName pattern).head? = some '.'
  shown && matchesPattern pattern name

/-- What patterns see of a machine. -/
structure Sight where
  leads : Bytes → Bool
  names? : Bytes → Option (List Bytes)

/-- The paths behind a path for the names of a pattern; `special` says whether special characters
have come before. -/
def Sight.pathsFrom (s : Sight) (special : Bool) (front : Bytes) : List Bytes → List Bytes
  | [] => []
  | name :: rest =>
    if hasSpecials name then
      let folder := if front.isEmpty then ['.'] else front
      let found := ((s.names? folder).getD []).filter (matchesName name)
      if rest.isEmpty then found.map (front ++ ·)
      else found.flatMap fun n => s.pathsFrom true (front ++ n ++ ['/']) rest
    else
      let path := front ++ plainName name
      if !rest.isEmpty then s.pathsFrom special (path ++ ['/']) rest
      else if special && s.leads path then [path]
      else []

/-- Whether bytes come before others, or are the same. -/
def isSorted : Bytes → Bytes → Bool
  | [], _ => true
  | _ :: _, [] => false
  | a :: as, b :: bs => a < b || (a = b && isSorted as bs)

/-- The paths that a pattern stands for, in order; none if it has no special characters. -/
def Sight.paths (s : Sight) (pattern : Bytes) : List Bytes :=
  (s.pathsFrom false [] (patternNames pattern)).mergeSort isSorted

end BlockSketch.Shell
