import BlockSketch.Shell.Token

/-!
# BlockSketch.Shell.Lexer

Reading the words and tokens of a script.  A word is first read as a row of
marks, which open and close parameters and expressions, and then folded into
pieces.  Commands inside a word are read by the reader of commands, which is
handed in.
-/

namespace BlockSketch.Shell

inductive Mark where
  | char (c : Char)
  | escaped (c : Char)
  | quote
  | param (name : Bytes) (use : ParamUse)
  | arith
  -- the end of the word of a parameter or of an expression
  | close
  | command (body : Tree)

/-- Fold marks into pieces, up to the end of the parameter or expression in hand. -/
def foldMarks : Nat → List Mark → Word × List Mark
  | n + 1, m :: rest =>
    let next (p : Piece) (rest : List Mark) : Word × List Mark :=
      let (w, rest) := foldMarks n rest
      (p :: w, rest)
    match m with
    | .close => ([], rest)
    | .char c => next (.char c) rest
    | .escaped c => next (.escaped c) rest
    | .quote => next .quote rest
    | .command body => next (.command body) rest
    | .param name .value => next (.param name .value []) rest
    | .param name use =>
      let (w, rest) := foldMarks n rest
      next (.param name use w) rest
    | .arith =>
      let (w, rest) := foldMarks n rest
      next (.arith w) rest
  | _, _ => ([], [])

/-- How characters are taken. -/
inductive Ground where
  | bare
  | single
  | double
  | arith
deriving DecidableEq, Repr

/-- The surroundings of a place in a word. -/
structure Surroundings where
  ground : Ground := .bare
  -- whether a backslash keeps its meaning for a few characters only
  doubled : Bool := false
  -- whether the place is in quotes inside the word of a parameter
  inner : Bool := false
  -- whether a parameter opened these surroundings
  pushed : Bool := false
  depth : Nat := 0
  -- how many of those were opened in double quotes
  doubledDepth : Nat := 0
  parens : Nat := 0

/-- A word in the making. -/
structure Draft where
  here : Surroundings := {}
  outer : List Surroundings := []
  -- the marks, last first
  marks : List Mark := []
  quoted : Bool := false

namespace Draft

def add (d : Draft) (m : Mark) : Draft := { d with marks := m :: d.marks }

/-- Enter new surroundings. -/
def push (d : Draft) (s : Surroundings) : Draft := { d with here := s, outer := d.here :: d.outer }

/-- Go back to the outer surroundings. -/
def pop (d : Draft) : Draft := { d with here := d.outer.headD {}, outer := d.outer.tail }

def pieces (d : Draft) : Word := (foldMarks (d.marks.length + 1) d.marks.reverse).1

/-- A quotation mark that toggles the inner quotes of a parameter's word. -/
def toggle (d : Draft) : Draft :=
  if 0 < d.here.depth then { d with here.inner := !d.here.inner } else d

end Draft

/-- The characters whose special meaning quotes take away. -/
def isGuarded (c : Char) : Bool := "!*?[=~:/-]".toList.contains c

def endsWord (c : Char) : Bool := "<>();&| \t".toList.contains c

namespace Parse

/-! ## parameters -/

/-- Read the use of a parameter from behind its name in braces, and whether its word is read
outside of quotes. -/
def paramUse : Parse (ParamUse × Bool) := do
  let test (null : Bool) (c : Option Char) : Parse ParamUse := do
    match c with
    | some '-' => return .test .default null
    | some '+' => return .test .alternative null
    | some '?' => return .test .required null
    | some '=' => return .test .assign null
    | _ => return .bad
  match ← takeJoined? with
  | some '}' => return (.value, false)
  | some ':' => return (← test true (← takeJoined?), false)
  | some '%' => return (.trim false (← takeIf '%'), true)
  | some '#' => return (.trim true (← takeIf '#'), true)
  | c => return (← test false c, false)

/-- The names of digits or of letters on the joined line. -/
def paramName (c : Char) (long : Bool) : Parse Bytes := do
  let n := (← get).rest.length
  if isNameStart c then return c :: (← takeWhileJoined isNameChar n)
  else if c.isDigit && long then return c :: (← takeWhileJoined Char.isDigit n)
  else return [c]

/-- Read a parameter in braces, from behind the opening brace: its name, its use, and whether its
word is read outside of quotes. -/
def bracedParam : Parse (Bytes × ParamUse × Bool) := do
  match ← takeJoined? with
  | none => return ([], .bad, false)
  | some '}' =>
    untake (some '}')
    return ([], .bad, false)
  | some '#' =>
    let next ← takeJoined?
    match next with
    | some c =>
      if isNameChar c then
        let name ← paramName c true
        let close ← takeJoined?
        untake close
        return (name, if close = some '}' then .length else .bad, false)
      else
        let after ← takeJoined?
        untake after
        if c ≠ '}' ∧ after = some '}' then
          if isSpecialName c then return ([c], .length, false)
          else
            return ([], .bad, false)
        else
          untake (some c)
          let (use, bare) ← paramUse
          return (['#'], use, bare)
    | none => return (['#'], .bad, false)
  | some c =>
    if isNameChar c || isSpecialName c then
      let name ← paramName c true
      let (use, bare) ← paramUse
      return (name, use, bare)
    else return ([], .bad, false)

/-! ## words -/

/-- Take the rest of a command in old quotes, with the backslashes that belong to the quotes
taken away; there are at most so many characters. -/
def quotedCommand (doubled : Bool) : Nat → Parse Bytes
  | n + 1 => do
    match ← takeJoined? with
    | none => fail "EOF in backquote substitution"
    | some c =>
      if c = '`' then return []
      else if c = '\\' then
        match ← take? with
        | none => fail "EOF in backquote substitution"
        | some e =>
          if e = '\n' then countLine
          let rest ← quotedCommand doubled n
          return if e = '\\' ∨ e = '`' ∨ e = '$' ∨ (doubled ∧ e = '"') then e :: rest
            else '\\' :: e :: rest
      else
        if c = '\n' then countLine
        return c :: (← quotedCommand doubled n)
  | 0 => fail "EOF in backquote substitution"

/-- Read a command that is written apart from the rest of the script. -/
def apart (commands : Parse Tree) (script : Bytes) : Parse Tree := do
  let r ← get
  set { r with rest := script, line := 1, back := none }
  let t ← commands
  modify fun inner => { inner with rest := r.rest, line := r.line, back := none }
  return t

/-- Read a command in parentheses, from behind the opening one. -/
def enclosed (commands : Parse Tree) (token : Parse Token) : Parse Tree := do
  let t ← commands
  match ← token with
  | .close => return t
  | _ => expecting .close

/-- The surroundings in which the word of a parameter is read. -/
def enterWord (d : Draft) (bare : Bool) : Draft :=
  let ground :=
    if bare then Ground.bare else if d.here.ground = .arith then .double else d.here.ground
  let d := if ground ≠ d.here.ground ∨ d.here.inner then
      d.push { ground, pushed := true, doubled := decide (ground ≠ .bare) }
    else d
  { d with
    here.depth := d.here.depth + 1
    here.doubledDepth := d.here.doubledDepth + (if d.here.doubled then 1 else 0) }

/-- Read what a dollar sign begins. -/
def dollar (commands : Parse Tree) (token : Parse Token) (d : Draft) : Parse Draft := do
  let c ← takeJoined?
  match c with
  | some '(' =>
    if ← takeIf '(' then return (d.push { ground := .arith, doubled := true }).add .arith
    else return d.add (.command (← enclosed commands token))
  | some '{' =>
    let (name, use, bare) ← bracedParam
    let d := d.add (.param name use)
    return if use = .value then d else enterWord d bare
  | some ch =>
    if isNameStart ch || isSpecialName ch then
      return d.add (.param (← paramName ch false) .value)
    else
      untake c
      return d.add (.char '$')
  | none => return d.add (.char '$')

/-- Take a backslash and what follows it. -/
def backslash (d : Draft) : Parse Draft := do
  match ← take? with
  | none => return d.add (.escaped '\\')
  | some c =>
    if c = '\n' then
      countLine
      return d
    else
      let keeps := d.here.doubled && c ≠ '\\' && c ≠ '`' && c ≠ '$' && c ≠ '"' &&
        (c ≠ '}' || d.here.depth = 0)
      let d := if keeps then d.add (.escaped '\\') else d
      return { d.add (.escaped c) with quoted := true }

/-- Close a quotation. -/
def endQuote (d : Draft) (c : Char) : Draft :=
  let d := if d.here.doubledDepth = 0 then
      { d with here.ground := .bare, here.doubled := false } else d
  let d := { d with quoted := true }
  (if c = '"' then d.toggle else d).add .quote

/-- Close the word of a parameter. -/
def endWord (d : Draft) : Draft :=
  if !d.here.inner && 0 < d.here.depth then
    let d := { d with here.depth := d.here.depth - 1 }
    let d := if d.here.depth = 0 && d.here.pushed then d.pop
      else { d with here.doubledDepth := d.here.doubledDepth - 1 }
    d.add .close
  else d.add (.char '}')

/-- Close a parenthesis of an expression, or the expression. -/
def endParen (d : Draft) : Parse Draft := do
  if 0 < d.here.parens then return { d.add (.char ')') with here.parens := d.here.parens - 1 }
  else if ← takeIf ')' then return (d.add .close).pop
  else return d.add (.char ')')

/-- Read a word of at most so many characters: the draft and the character that ended it. -/
def draftFrom (commands : Parse Tree) (token : Parse Token) :
    Nat → Draft → Parse (Draft × Option Char)
  | n + 1, d => do
    let go := draftFrom commands token n
    match ← take? with
    | none => return (d, none)
    | some c =>
      let s := d.here
      if c = '\n' then
        if s.ground = .bare && s.depth = 0 then return (d, some c)
        else
          countLine
          go (d.add (.char c))
      else match s.ground with
      | .single =>
        if c = '\'' then go (endQuote d c)
        else go (d.add (if isGuarded c || c = '\\' then .escaped c else .char c))
      | ground =>
        if c = '\\' then go (← backslash d)
        else if c = '$' then go (← dollar commands token d)
        else if c = '`' then
          let script ← quotedCommand s.doubled (← get).rest.length.succ
          go (d.add (.command (← apart commands script)))
        else if c = '}' then go (endWord d)
        else match ground with
        | .arith =>
          if c = '(' then go { d.add (.char c) with here.parens := s.parens + 1 }
          else if c = ')' then go (← endParen d)
          else go (d.add (.char c))
        | .double =>
          if c = '"' then go (endQuote d c)
          else go (d.add (if isGuarded c then .escaped c else .char c))
        | _ =>
          if c = '\'' then go ({ d with here.ground := .single }.add .quote)
          else if c = '"' then
            go ({ d with here.ground := .double, here.doubled := true }.toggle.add .quote)
          else if endsWord c && s.depth = 0 then return (d, some c)
          else go (d.add (.char c))
  | 0, d => return (d, none)

def checkComplete (d : Draft) : Parse Unit := do
  if d.here.ground = .arith then fail "Missing '))'"
  if d.here.ground ≠ .bare then fail "Unterminated quoted string"
  if d.here.depth ≠ 0 then fail "Missing '\x7d'"

/-- Read the sign of a redirection from behind its first character. -/
def redirectSign (c : Char) : Parse RedirectSign := do
  if c = '>' then
    if ← takeIf '>' then return .file .append
    else if ← takeIf '|' then return .file .overwrite
    else if ← takeIf '&' then return .copy
    else return .file .write
  else if ← takeIf '&' then return .copy
  else if ← takeIf '>' then return .file .readWrite
  else return .file .read

/-- Read a word, or the redirection that it turns out to be. -/
def wordToken (commands : Parse Tree) (token : Parse Token) : Parse Token := do
  let (d, c) ← draftFrom commands token ((← get).rest.length + 1) {}
  checkComplete d
  let fd? : Option (Option Nat) := match d.marks with
    | [] => some none
    | [.char c] => if c.isDigit then some (some (c.toNat - 0x30)) else none
    | _ => none
  match c, d.quoted, fd? with
  | some '>', false, some fd => return .redirect (fd.getD 1) (← redirectSign '>')
  | some '<', false, some fd => return .redirect (fd.getD 0) (← redirectSign '<')
  | c, _, _ =>
    untake c
    return .word d.pieces d.quoted

/-- Read a token of the script, past at most so many blanks and comments. -/
def rawToken (commands : Parse Tree) (token : Parse Token) : Nat → Parse Token
  | n + 1 => do
    match ← takeJoined? with
    | none => return .finish
    | some c =>
      if c = ' ' ∨ c = '\t' then rawToken commands token n
      else if c = '#' then
        modify fun r => { r with rest := r.rest.dropWhile (· ≠ '\n') }
        rawToken commands token n
      else if c = '\n' then
        countLine
        return .newline
      else if c = '&' then return if ← takeIf '&' then .and else .background
      else if c = '|' then return if ← takeIf '|' then .or else .bar
      else if c = ';' then return if ← takeIf ';' then .endArm else .semicolon
      else if c = '(' then return .open_
      else if c = ')' then return .close
      else
        untake (some c)
        wordToken commands token
  | 0 => return .finish

/-! ## tokens -/

/-- Pass over line ends, of which there are at most so many. -/
def skipNewlines (raw : Parse Token) : Nat → Token → Parse Token
  | n + 1, .newline => do skipNewlines raw n (← raw)
  | _, t => return t

def asKeyword (t : Token) : Token :=
  match t with
  | .word w false =>
    match (plainText? w).bind Keyword.ofText? with
    | some k => .keyword k
    | none => t
  | t => t

/-- Read a token, as what is looked for says. -/
def tokenWith (commands : Parse Tree) (token : Parse Token) : Parse Token := do
  let look := (← get).look
  let raw : Parse Token := do
    match (← get).back with
    | some t =>
      modify fun r => { r with back := none }
      return t
    | none => rawToken commands token ((← get).rest.length + 1)
  let t ← raw
  let t ← if look.newlines then skipNewlines raw ((← get).rest.length + 2) t else pure t
  let t := if look.keywords then asKeyword t else t
  modify fun r => { r with look := {}, last := t }
  return t

end Parse

end BlockSketch.Shell
