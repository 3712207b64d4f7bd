import BlockSketch.Shell.Bytes

/-!
# BlockSketch.Shell.Pattern

Patterns for texts.  A question mark matches any byte, an asterisk any number of
them, square brackets one of a class, and a backslash takes the special meaning
of what follows.
-/

namespace BlockSketch.Shell

/-- A byte as a signed number, in whose order ranges are. -/
def signedByte (c : Char) : Int := if c.toNat < 128 then c.toNat else (c.toNat : Int) - 256

/-- Whether a byte belongs to a class of a name. -/
def inNamedClass (name : Bytes) (c : Char) : Bool :=
  let blank := c = ' ' || c = '\t'
  let graphic := 0x20 < c.toNat && c.toNat < 0x7F
  match String.ofList name with
  | "alnum" => c.isAlphanum
  | "alpha" => c.isAlpha
  | "blank" => blank
  | "cntrl" => c.toNat < 0x20 || c.toNat = 0x7F
  | "digit" => c.isDigit
  | "graph" => graphic
  | "lower" => c.isLower
  | "print" => graphic || c = ' '
  | "punct" => graphic && !c.isAlphanum
  | "space" => c = ' ' || (0x09 ≤ c.toNat && c.toNat ≤ 0x0D)
  | "upper" => c.isUpper
  | "xdigit" => c.isDigit || ('a' ≤ c && c ≤ 'f') || ('A' ≤ c && c ≤ 'F')
  | _ => false

def classNames : List String :=
  ["alnum", "alpha", "blank", "cntrl", "digit", "graph", "lower", "print", "punct", "space",
   "upper", "xdigit"]

/-- The class of a name at the front of a class in brackets: its name and what follows. -/
def takeNamedClass? : Bytes → Option (Bytes × Bytes)
  | '[' :: ':' :: rest =>
    let name := rest.takeWhile Char.isAlpha
    match rest.drop name.length with
    | ':' :: ']' :: rest =>
      if classNames.contains (String.ofList name) then some (name, rest) else none
    | _ => none
  | _ => none

/-- Take a byte that a backslash may stand before. -/
def takeEscaped? : Bytes → Option (Char × Bytes)
  | '\\' :: c :: rest => some (c, rest)
  | c :: rest => some (c, rest)
  | [] => none

/-- Go through a class in brackets of at most so many items: whether it holds a byte, and what
follows it; `none` when it does not end. -/
def classFrom (c : Char) : Nat → Bool → Bool → Bytes → Option (Bool × Bytes)
  | n + 1, first, found, p =>
    match first, p with
    | false, ']' :: rest => some (found, rest)
    | _, _ =>
      match takeNamedClass? p with
      | some (name, rest) => classFrom c n false (found || inNamedClass name c) rest
      | none => do
        let (low, rest) ← takeEscaped? p
        match rest with
        | '-' :: after =>
          if after.head? = some ']' then classFrom c n false (found || c = low) rest
          else
            let (high, rest) ← takeEscaped? after
            let within := signedByte low ≤ signedByte c && signedByte c ≤ signedByte high
            classFrom c n false (found || within) rest
        | _ => classFrom c n false (found || c = low) rest
  | 0, _, _, _ => none

/-- Match a byte with the class behind an opening bracket: whether it matches, and what follows. -/
def matchClass? (c : Char) (p : Bytes) : Option (Bool × Bytes) :=
  match p with
  | '!' :: rest =>
    (classFrom c (rest.length + 1) true false rest).map fun (found, rest) => (!found, rest)
  | p => classFrom c (p.length + 1) true false p

/-- Match a text with a pattern in at most so many steps. -/
def matchFrom : Nat → Bytes → Bytes → Bool
  | n + 1, p, s =>
    match p, s with
    | [], s => s.isEmpty
    | '*' :: p', [] => matchFrom n p' []
    | '*' :: p', c :: s' => matchFrom n p' (c :: s') || matchFrom n p s'
    | _ :: _, [] => false
    | '?' :: p', _ :: s' => matchFrom n p' s'
    | '[' :: p', c :: s' =>
      match matchClass? c p' with
      | some (found, rest) => found && matchFrom n rest s'
      | none => c = '[' && matchFrom n p' s'
    | '\\' :: e :: p', c :: s' => e = c && matchFrom n p' s'
    | e :: p', c :: s' => e = c && matchFrom n p' s'
  | 0, _, _ => false

def matchesPattern (p s : Bytes) : Bool := matchFrom (p.length + s.length + 1) p s

/-- A text up to the first zero byte. -/
def firstText (s : Bytes) : Bytes := s.takeWhile (· ≠ '\x00')

/-- Cut off the front of a text, or its end, what matches a pattern: the longest match or the
shortest.  Zero bytes stand between the texts of a row, and only what comes before the next one is
matched; a search from the front stays in the first text. -/
def trimPattern (front longest : Bool) (p s : Bytes) : Bytes :=
  let ups := List.range ((firstText s).length + 1)
  let downs := (List.range (s.length + 1)).reverse
  let matchesAt (n : Nat) : Bool :=
    matchesPattern p (firstText (if front then s.take n else s.drop n))
  match (if front = longest then downs else ups).find? matchesAt with
  | some n => if front then s.drop n else s.take n
  | none => s

end BlockSketch.Shell
