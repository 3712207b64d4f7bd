import BlockSketch.Shell.Bytes

/-!
# BlockSketch.Shell.Tree

The tree of a script.  A word is a list of pieces: characters, quotation marks,
and what is put in when the word is expanded.  Commands are built from words and
redirections.
-/

namespace BlockSketch.Shell

/-- How a parameter expansion depends on whether the parameter is set. -/
inductive ParamTest where
  -- a word stands in for a parameter that is not set
  | default
  -- a word stands in for a parameter that is set
  | alternative
  -- a parameter that is not set is a fault
  | required
  -- a parameter that is not set is given a value
  | assign
deriving DecidableEq, Repr, Inhabited

/-- What is done with a parameter. -/
inductive ParamUse where
  | value
  | length
  -- it depends on whether the parameter is set and, with `null`, not empty
  | test (t : ParamTest) (null : Bool)
  -- what matches a pattern is cut off its front or its end, the longest match or the shortest
  | trim (front longest : Bool)
  | bad
deriving DecidableEq, Repr, Inhabited

inductive FileUse where
  | read
  | write
  -- for writing, even when files are not to be overwritten
  | overwrite
  | append
  | readWrite
deriving DecidableEq, Repr, Inhabited

mutual

inductive Piece where
  | char (c : Char)
  | escaped (c : Char)
  -- a quotation mark, which opens or closes a quoted part
  | quote
  | param (name : Bytes) (use : ParamUse) (word : List Piece)
  | command (body : Tree)
  | arith (expression : List Piece)

/-- A redirection of a descriptor. -/
inductive Redirect where
  | file (fd : Nat) (use : FileUse) (name : List Piece)
  | copy (fd : Nat) (source : List Piece)

inductive Tree where
  | empty
  | simple (line : Nat) (assignments words : List (List Piece)) (redirects : List Redirect)
  | sequence (first second : Tree)
  -- the second when the first succeeds
  | both (first second : Tree)
  -- the second when the first fails
  | either (first second : Tree)
  | negation (body : Tree)
  | pipeline (stages : List Tree)
  | background (body : Tree)
  | subshell (line : Nat) (body : Tree) (redirects : List Redirect)
  | redirected (line : Nat) (body : Tree) (redirects : List Redirect)
  | conditional (test yes no : Tree)
  -- a command repeated while, or until, another succeeds
  | loop (until_ : Bool) (test body : Tree)
  | each (line : Nat) (name : Bytes) (words : List (List Piece)) (body : Tree)
  -- the first command with a pattern that matches a word
  | select (line : Nat) (word : List Piece) (arms : List (List (List Piece) × Tree))
  | function (name : Bytes) (body : Tree)

end

abbrev Word := List Piece

instance : Inhabited Piece := ⟨.quote⟩

instance : Inhabited Tree := ⟨.empty⟩

instance : Inhabited Redirect := ⟨.copy 0 []⟩

/-- The characters of a word without anything special in it. -/
def plainText? : Word → Option Bytes
  | [] => some []
  | .char c :: rest => (plainText? rest).map (c :: ·)
  | _ => none

/-- The parameters that stand for all words of a script. -/
def allWords : Word := [.quote, .param ['@'] .value [], .quote]

/-! ## names -/

/-- Whether a name can begin with a character. -/
def isNameStart (c : Char) : Bool := c.isAlpha || c = '_'

/-- Whether a character can stand in a name. -/
def isNameChar (c : Char) : Bool := c.isAlphanum || c = '_'

/-- Whether something is the name of a variable. -/
def isName : Bytes → Bool
  | [] => false
  | c :: rest => isNameStart c && rest.all isNameChar

/-- The names of parameters that are a single sign. -/
def isSpecialName (c : Char) : Bool := "!#$*-?@".toList.contains c || c.isDigit

/-- The name and the value of a word that is an assignment. -/
def assignment? (w : Word) : Option (Bytes × Word) :=
  let name := (w.takeWhile fun
    | .char c => isNameChar c
    | _ => false).filterMap fun
    | .char c => some c
    | _ => none
  match w.drop name.length with
  | .char '=' :: value => if isName name then some (name, value) else none
  | _ => none

end BlockSketch.Shell
