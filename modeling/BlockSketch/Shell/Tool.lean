import BlockSketch.Shell.Printf

/-!
# BlockSketch.Shell.Tool

The small programs: `echo` and `printf`, which write their words, and those that
do nothing.
-/

namespace BlockSketch.Shell

/-- What a program leaves behind; a signal that ended it counts negative. -/
structure Finished where
  status : Int := 0
  out : Bytes := []
  err : Bytes := []
deriving Inhabited

/-- Bytes with a blank between words. -/
def spaced (words : List Bytes) : Bytes := (words.intersperse [' ']).flatten

def complaint (program message : Bytes) : Bytes := program ++ bytes ": " ++ message ++ ['\n']

/-! ## echo -/

/-- How the words of `echo` are written. -/
structure EchoStyle where
  escapes : Bool := false
  newline : Bool := true

/-- The style after the options of a word, if it is a word of options. -/
def EchoStyle.take? (s : EchoStyle) : Bytes → Option EchoStyle
  | '-' :: c :: rest =>
    (c :: rest).foldlM (fun (s : EchoStyle) c =>
      if c = 'e' then some { s with escapes := true }
      else if c = 'E' then some { s with escapes := false }
      else if c = 'n' then some { s with newline := false }
      else none) s
  | _ => none

/-- The style that the options at the front ask for, and the other words. -/
def EchoStyle.options (s : EchoStyle) : List Bytes → EchoStyle × List Bytes
  | [] => (s, [])
  | w :: rest =>
    match s.take? w with
    | some s => s.options rest
    | none => (s, w :: rest)

/-- Words with their escapes expanded; `\c` ends the whole. -/
def echoUnescaped (escape : Bytes → Escaped) : List Bytes → Unescaped
  | [] => {}
  | w :: rest =>
    let u := unescape escape w
    if u.stopped then u
    else
      let tail := echoUnescaped escape rest
      (if rest.isEmpty then tail else tail.after [' ']).after u.out

def echoText (words : List Bytes) : Bytes :=
  let (style, words) := ({} : EchoStyle).options words
  let u := if style.escapes then echoUnescaped echoEscape words else { out := spaced words }
  u.out ++ (if style.newline && !u.stopped then ['\n'] else [])

/-! ## printf -/

def printfTool (program : Bytes) (words : List Bytes) : Finished :=
  let words := match words with
    | w :: rest => if w = ['-', '-'] then rest else w :: rest
    | [] => []
  match words with
  | [] =>
    { status := 1
      err := complaint program (bytes "missing operand") ++
        bytes "Try '" ++ program ++ bytes " --help' for more information.\n" }
  | format :: words =>
    let p := printf .tool format words
    { status := p.status, out := p.out, err := p.notes.flatMap (complaint program) }

/-! ## programs -/

/-- Run a small program under the name it was called by. -/
def runTool (tool program : Bytes) (words : List Bytes) : Finished :=
  match String.ofList tool with
  | "echo" => { out := echoText words }
  | "false" => { status := 1 }
  | "printf" => printfTool program words
  | _ => {}

end BlockSketch.Shell
