import BlockSketch.Shell.Tree

/-!
# BlockSketch.Shell.Token

The tokens of a script, and the state in which a script is read.
-/

namespace BlockSketch.Shell

/-- A word with a meaning of its own. -/
inductive Keyword where
  | not
  | case_
  | do_
  | done
  | elif
  | else_
  | esac
  | fi
  | for_
  | if_
  | in_
  | then_
  | until_
  | while_
  | begin_
  | end_
deriving DecidableEq, Repr

def Keyword.text : Keyword → String
  | .not => "!"
  | .case_ => "case"
  | .do_ => "do"
  | .done => "done"
  | .elif => "elif"
  | .else_ => "else"
  | .esac => "esac"
  | .fi => "fi"
  | .for_ => "for"
  | .if_ => "if"
  | .in_ => "in"
  | .then_ => "then"
  | .until_ => "until"
  | .while_ => "while"
  | .begin_ => "\x7b"
  | .end_ => "\x7d"

def Keyword.all : List Keyword :=
  [.not, .case_, .do_, .done, .elif, .else_, .esac, .fi, .for_, .if_, .in_, .then_, .until_,
   .while_, .begin_, .end_]

def Keyword.ofText? (b : Bytes) : Option Keyword := all.find? fun k => k.text.toList == b

/-- The operator of a redirection. -/
inductive RedirectSign where
  | file (use : FileUse)
  -- to what another descriptor stands for
  | copy
deriving DecidableEq, Repr

inductive Token where
  | finish
  | newline
  | semicolon
  | background
  | and
  | or
  | bar
  | open_
  | close
  | endArm
  | redirect (fd : Nat) (sign : RedirectSign)
  | word (w : Word) (quoted : Bool)
  | keyword (k : Keyword)
deriving Inhabited

/-- How a complaint names a token. -/
def Token.name : Token → String
  | .finish => "end of file"
  | .newline => "newline"
  | .semicolon => "\";\""
  | .background => "\"&\""
  | .and => "\"&&\""
  | .or => "\"||\""
  | .bar => "\"|\""
  | .open_ => "\"(\""
  | .close => "\")\""
  | .endArm => "\";;\""
  | .redirect _ _ => "redirection"
  | .word _ _ => "word"
  | .keyword k => "\"" ++ k.text ++ "\""

def Token.isKeyword (t : Token) (k : Keyword) : Bool :=
  match t with
  | .keyword k' => k = k'
  | _ => false

/-- Whether a list of commands ends before a token. -/
def Token.endsList : Token → Bool
  | .finish | .close | .endArm => true
  | .keyword k => [Keyword.do_, .done, .elif, .else_, .esac, .fi, .then_, .end_].contains k
  | _ => false

/-- A complaint about a script and its line. -/
structure SyntaxProblem where
  line : Nat
  message : String

/-- What is looked for when the next token is read. -/
structure Look where
  -- line ends are passed over
  newlines : Bool := false
  keywords : Bool := false

/-- Where the reading of a script stands. -/
structure Reading where
  rest : Bytes
  line : Nat := 1
  -- a token that was read and put back
  back : Option Token := none
  last : Token := .finish
  look : Look := {}

/-- More than the tokens that are left. -/
def Reading.room (s : Reading) : Nat := s.rest.length + 2

/-- A step of the reading. -/
abbrev Parse := ExceptT SyntaxProblem (StateM Reading)

namespace Parse

/-- Complain about the script. -/
def fail {α : Type} (message : String) : Parse α := do throw ⟨(← get).line, message⟩

/-- Set what is looked for next. -/
def lookFor (look : Look) : Parse Unit := modify fun r => { r with look }

/-- Put the last token back. -/
def putBack : Parse Unit := modify fun r => { r with back := some r.last }

/-- Complain about the last token. -/
def unexpected {α : Type} : Parse α := do fail ((← get).last.name ++ " unexpected")

/-- Complain about the last token in place of another. -/
def expecting {α : Type} (t : Token) : Parse α := do
  fail ((← get).last.name ++ " unexpected (expecting " ++ t.name ++ ")")

/-! ## characters -/

/-- The next character, which is taken. -/
def take? : Parse (Option Char) := do
  match (← get).rest with
  | [] => return none
  | c :: rest =>
    modify fun r => { r with rest }
    return some c

/-- Put a character back. -/
def untake (c : Option Char) : Parse Unit :=
  match c with
  | some c => modify fun r => { r with rest := c :: r.rest }
  | none => return

def countLine : Parse Unit := modify fun r => { r with line := r.line + 1 }

/-- Pass over lines that are joined by a backslash, of which there are at most so many. -/
def joinLines : Nat → Parse Unit
  | n + 1 => do
    match (← get).rest with
    | '\\' :: '\n' :: rest =>
      modify fun r => { r with rest, line := r.line + 1 }
      joinLines n
    | _ => return
  | 0 => return

/-- The next character on the joined line, which is taken. -/
def takeJoined? : Parse (Option Char) := do
  joinLines (← get).rest.length
  take?

/-- Take a character if it comes next on the joined line. -/
def takeIf (c : Char) : Parse Bool := do
  let next ← takeJoined?
  if next = some c then return true
  else
    untake next
    return false

/-- Take characters on the joined line while they are of a class, at most so many. -/
def takeWhileJoined (p : Char → Bool) : Nat → Parse Bytes
  | n + 1 => do
    match ← takeJoined? with
    | some c =>
      if p c then return c :: (← takeWhileJoined p n)
      else
        untake (some c)
        return []
    | none => return []
  | 0 => return []

end Parse

end BlockSketch.Shell
