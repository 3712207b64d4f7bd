import BlockSketch.Shell.Lexer

/-!
# BlockSketch.Shell.Parser

Reading the commands of a script.  A script is read one line at a time, each a
list of commands that may go on over further lines; the next line is read only
when the commands of this one have run.
-/

namespace BlockSketch.Shell

/-- The readers that call each other. -/
structure Readers where
  -- a list of commands inside another command; `open_` says that it may be empty
  list : Bool → Parse Tree
  command : Parse Tree
  token : Parse Token

/-- The commands whose failures end a script. -/
def isSpecialCommand (name : Bytes) : Bool :=
  [":", "break", "continue", "eval", "exec", "exit", "export", "local", "readonly", "return",
   "set", "shift", "trap", "unset"].contains (String.ofList name)

namespace Parse

/-- What is looked for where a command can begin. -/
def atCommand : Look := { keywords := true }

/-- What is looked for where a command can begin, possibly on another line. -/
def atCommandBelow : Look := { newlines := true, keywords := true }

variable (r : Readers)

/-- Read a keyword that has to come. -/
def need (k : Keyword) : Parse Unit := do
  if !(← r.token).isKeyword k then expecting (.keyword k)

/-- Read the target of a redirection. -/
def redirectTarget (fd : Nat) (sign : RedirectSign) : Parse Redirect := do
  match ← r.token with
  | .word w _ =>
    match sign with
    | .file use => return .file fd use w
    | .copy => return .copy fd w
  | _ => unexpected

/-- Read redirections behind a command, of which there are at most so many. -/
def redirects : Nat → Parse (List Redirect)
  | n + 1 => do
    match ← r.token with
    | .redirect fd sign =>
      let first ← redirectTarget r fd sign
      return first :: (← redirects n)
    | _ =>
      putBack
      return []
  | 0 => return []

/-- A simple command in the making. -/
structure SimpleDraft where
  assignments : List Word := []
  words : List Word := []
  redirects : List Redirect := []

/-- Read the body of a function, from behind the opening parenthesis. -/
def functionBody (name : Word) : Parse Tree := do
  match ← r.token with
  | .close =>
    match plainText? name with
    | some name =>
      if !isName name || isSpecialCommand name then fail "Bad function name"
      lookFor atCommandBelow
      return .function name (← r.command)
    | none => fail "Bad function name"
  | _ => expecting .close

/-- Read a simple command of at most so many tokens. -/
def simpleFrom (line : Nat) : Nat → SimpleDraft → Parse Tree
  | n + 1, d => do
    match ← r.token with
    | .word w _ =>
      if d.words.isEmpty && (assignment? w).isSome then
        simpleFrom line n { d with assignments := d.assignments ++ [w] }
      else simpleFrom line n { d with words := d.words ++ [w] }
    | .redirect fd sign =>
      let first ← redirectTarget r fd sign
      simpleFrom line n { d with redirects := d.redirects ++ [first] }
    | t =>
      match t, d.words with
      | .open_, [name] =>
        if d.assignments.isEmpty && d.redirects.isEmpty then functionBody r name
        else
          putBack
          return .simple line d.assignments d.words d.redirects
      | _, _ =>
        putBack
        return .simple line d.assignments d.words d.redirects
  | 0, d => return .simple line d.assignments d.words d.redirects

/-- How many tokens are left at most. -/
def tokensLeft : Parse Nat := return (← get).room

/-! ## compound commands -/

/-- Read a condition from behind its first word; there are at most so many conditions. -/
def conditional : Nat → Parse Tree
  | n + 1 => do
    let test ← r.list false
    need r .then_
    let yes ← r.list false
    match ← r.token with
    | .keyword .elif => return .conditional test yes (← conditional n)
    | .keyword .else_ => return .conditional test yes (← r.list false)
    | _ =>
      putBack
      return .conditional test yes .empty
  | 0 => return .empty

/-- Read words up to something else, at most so many. -/
def wordsFrom : Nat → Parse (List Word)
  | n + 1 => do
    match ← r.token with
    | .word w _ => return w :: (← wordsFrom n)
    | _ => return []
  | 0 => return []

/-- Read a command for each of some words, from behind its first word. -/
def each (line : Nat) : Parse Tree := do
  let name ← match ← r.token with
    | .word w false =>
      match plainText? w with
      | some name => if isName name then pure name else fail "Bad for loop variable"
      | none => fail "Bad for loop variable"
    | _ => fail "Bad for loop variable"
  lookFor atCommandBelow
  let words ← match ← r.token with
    | .keyword .in_ =>
      let words ← wordsFrom r (← tokensLeft)
      match (← get).last with
      | .newline | .semicolon => pure words
      | _ => unexpected
    | t =>
      match t with
      | .semicolon => pure ()
      | _ => putBack
      pure [allWords]
  lookFor atCommandBelow
  need r .do_
  return .each line name words (← r.list false)

/-- Read the patterns of an arm, the first of which was read; there are at most so many. -/
def patterns : Nat → Parse (List Word)
  | n + 1 => do
    let w ← match (← get).last with
      | .word w _ => pure w
      | .keyword k => pure (k.text.toList.map .char)
      | _ => pure []
    match ← r.token with
    | .bar =>
      let _ ← r.token
      return w :: (← patterns n)
    | _ => return [w]
  | 0 => return []

/-- Read the arms of a selection, at most so many. -/
def arms : Nat → Parse (List (List Word × Tree))
  | n + 1 => do
    lookFor atCommandBelow
    match ← r.token with
    | .keyword .esac => return []
    | t =>
      if let .open_ := t then
        let _ ← r.token
      let ps ← patterns r (← tokensLeft)
      match (← get).last with
      | .close => pure ()
      | _ => expecting .close
      let body ← r.list true
      lookFor atCommandBelow
      match ← r.token with
      | .keyword .esac => return [(ps, body)]
      | .endArm => return (ps, body) :: (← arms n)
      | _ => expecting .endArm
  | 0 => return []

/-- Read a selection from behind its first word. -/
def select (line : Nat) : Parse Tree := do
  match ← r.token with
  | .word w _ =>
    lookFor atCommandBelow
    need r .in_
    return .select line w (← arms r (← tokensLeft))
  | _ => expecting (.word [] false)

def command : Parse Tree := do
  let line := (← get).line
  let finishWith (k : Keyword) (t : Tree) : Parse Tree := do
    need r k
    return t
  let first ← r.token
  match first with
  | .word _ _ | .redirect _ _ =>
    putBack
    simpleFrom r (← get).line (← tokensLeft) {}
  | _ =>
    let body ← match first with
      | .keyword .if_ => do finishWith .fi (← conditional r (← tokensLeft))
      | .keyword .while_ => do
        let test ← r.list false
        need r .do_
        finishWith .done (.loop false test (← r.list false))
      | .keyword .until_ => do
        let test ← r.list false
        need r .do_
        finishWith .done (.loop true test (← r.list false))
      | .keyword .for_ => do finishWith .done (← each r line)
      | .keyword .case_ => select r line
      | .keyword .begin_ => do finishWith .end_ (← r.list false)
      | .open_ => do
        let body ← r.list false
        match ← r.token with
        | .close => pure (.subshell line body [])
        | _ => expecting .close
      | _ => unexpected
    lookFor atCommand
    let rs ← redirects r (← tokensLeft)
    if rs.isEmpty then return body
    else match body with
      | .subshell line body _ => return .subshell line body rs
      | body => return .redirected line body rs

/-! ## lists -/

/-- Read the further stages of a pipeline, at most so many. -/
def stages : Nat → Parse (List Tree)
  | n + 1 => do
    match ← r.token with
    | .bar =>
      lookFor atCommandBelow
      let t ← command r
      return t :: (← stages n)
    | _ =>
      putBack
      return []
  | 0 => return []

def pipeline : Parse Tree := do
  let negated := (← r.token).isKeyword .not
  if negated then lookFor atCommand else putBack
  let first ← command r
  let more ← stages r (← tokensLeft)
  let body := if more.isEmpty then first else .pipeline (first :: more)
  return if negated then .negation body else body

/-- Read what joins a pipeline to further ones, at most so many. -/
def joined : Nat → Tree → Parse Tree
  | n + 1, t => do
    match ← r.token with
    | .and =>
      lookFor atCommandBelow
      joined n (.both t (← pipeline r))
    | .or =>
      lookFor atCommandBelow
      joined n (.either t (← pipeline r))
    | _ =>
      putBack
      return t
  | 0, t => return t

/-- Read a list of at most so many commands.  A line of a script ends at its line end; a list
inside a command goes on, and begins with a command unless it may be empty. -/
def listFrom (line mayEnd : Bool) (done : Option Tree) : Nat → Parse (Option Tree)
  | n + 1 => do
    lookFor { newlines := !line, keywords := true }
    match ← r.token with
    | .newline => return some (done.getD .empty)
    | .finish =>
      putBack
      return if line then done else some (done.getD .empty)
    | t =>
      putBack
      if !line && mayEnd && t.endsList then return some (done.getD .empty)
      else
        let next ← joined r (← tokensLeft) (← pipeline r)
        let t ← r.token
        let next := match t with
          | .background => .background next
          | _ => next
        let all := match done with
          | some before => Tree.sequence before next
          | none => next
        match t with
        | .newline | .finish =>
          putBack
          listFrom line true (some all) n
        | .background | .semicolon => listFrom line true (some all) n
        | _ =>
          if line then unexpected
          else
            putBack
            return some all
  | 0 => return done

/-- Read a list inside another command. -/
def list (mayBeEmpty : Bool) : Parse Tree := do
  return (← listFrom r false mayBeEmpty none (← tokensLeft)).getD .empty

/-- Read a line of a script, `none` at its end. -/
def scriptLine : Parse (Option Tree) := do listFrom r true false none (← tokensLeft)

end Parse

/-- The readers of commands that lie at most so deep in one another. -/
def readers : Nat → Readers
  | 0 => ⟨fun _ => Parse.fail "Nested too deep", Parse.fail "Nested too deep", return .finish⟩
  | n + 1 =>
    let r := readers n
    { list := fun mayBeEmpty => Parse.list r mayBeEmpty
      command := Parse.command r
      token := Parse.tokenWith (r.list true) r.token }

/-- Read the next line of a script. -/
def readLine (s : Reading) : Except SyntaxProblem (Option Tree) × Reading :=
  let depth := 2 * s.room + 10
  (Parse.scriptLine (readers depth)).run s

end BlockSketch.Shell
