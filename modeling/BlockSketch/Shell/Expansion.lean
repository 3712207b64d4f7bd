import BlockSketch.Shell.Arith
import BlockSketch.Shell.Pathname
import BlockSketch.Shell.State

/-!
# BlockSketch.Shell.Expansion

Expanding words.  A word becomes a row of stretches, each of which says where it
may be divided into fields: nowhere, at the separators, or only at the gaps
between the words of a script.  From these come fields, texts and patterns.
-/

namespace BlockSketch.Shell

/-- A part of an expanded word. -/
inductive Glyph where
  -- a character, and whether it has no special meaning in a pattern
  | char (c : Char) (literal : Bool)
  -- the trace of a quotation mark, which keeps an empty field
  | mark
  -- the gap between two words of a script
  | gap
deriving DecidableEq, Repr

/-- Where a stretch may be divided. -/
inductive Division where
  | none
  | separators
  | gaps
deriving DecidableEq, Repr

/-- A row of glyphs that are divided alike. -/
structure Stretch where
  division : Division
  glyphs : List Glyph

/-! ## fields -/

structure FieldDraft where
  -- the field in hand, last glyph first
  current : List Glyph := []
  -- the fields before it, last first
  done : List (List Glyph) := []
  -- whether the stretch before was divided at gaps
  afterGaps : Bool := false

namespace FieldDraft

/-- Put a glyph into the field in hand. -/
def push (f : FieldDraft) (g : Glyph) : FieldDraft := { f with current := g :: f.current }

/-- End the field in hand. -/
def close (f : FieldDraft) : FieldDraft :=
  { f with current := [], done := f.current.reverse :: f.done, afterGaps := false }

def isBlankSeparator : Glyph → Bool
  | .char c _ => c = ' ' || c = '\t' || c = '\n'
  | .gap => true
  | .mark => false

/-- Whether a glyph separates fields. -/
def isSeparator (ifs : Bytes) : Glyph → Bool
  | .char c _ => ifs.contains c
  | .gap => true
  | .mark => false

/-- Divide a row of glyphs at separators.  Blanks before a field are passed over, and behind a
field any blanks and one other separator; `passing` holds while that goes on, with whether another
separator may still be passed over. -/
def separate (ifs : Bytes) : Option Bool → FieldDraft → List Glyph → FieldDraft
  | _, f, [] => f
  | passing, f, g :: rest =>
    if !isSeparator ifs g then separate ifs none (f.push g) rest
    else
      let blank := isBlankSeparator g
      match passing, blank with
      | some other, true => separate ifs (some other) f rest
      | some true, false => separate ifs (some false) f rest
      | _, _ =>
        let blank := blank && !f.afterGaps
        if f.current.isEmpty && blank then separate ifs none f rest
        else separate ifs (some blank) f.close rest

/-- Put in a stretch. -/
def add (ifs : Bytes) (f : FieldDraft) (s : Stretch) : FieldDraft :=
  match s.division with
  | .none => s.glyphs.foldl push f
  | .separators => { separate ifs none f s.glyphs with afterGaps := false }
  | .gaps =>
    let f := s.glyphs.foldl (fun f g => if g = .gap then f.close else f.push g) f
    { f with afterGaps := true }

def ofStretches (ifs : Bytes) (stretches : List Stretch) : List (List Glyph) :=
  let f := stretches.foldl (add ifs) {}
  (if f.current.isEmpty && !f.afterGaps then f else f.close).done.reverse

end FieldDraft

def glyphText (glyphs : List Glyph) : Bytes :=
  glyphs.filterMap fun
    | .char c _ => some c
    | _ => none

def glyphPattern (glyphs : List Glyph) : Bytes :=
  glyphs.flatMap fun
    | .char c literal => if literal then ['\\', c] else [c]
    | _ => []

/-- Whether quotes make a character literal.  Others have no special meaning of their own, and stay
open to a backslash before them that comes from a value. -/
def isLiteralInQuotes (c : Char) : Bool := "!*?[=~:/-]\\".toList.contains c

/-- Whether a character is literal everywhere. -/
def isAlwaysLiteral (c : Char) : Bool := 0x81 ≤ c.toNat && c.toNat ≤ 0x88

/-- The glyph of a character, inside or outside of quotes. -/
def charGlyph (quoted : Bool) (c : Char) : Glyph :=
  .char c (isAlwaysLiteral c || (quoted && isLiteralInQuotes c))

/-- The glyphs of a value, in which the gaps between words are zero bytes. -/
def valueGlyphs (quoted : Bool) (b : Bytes) : List Glyph :=
  b.map fun c => if c = '\x00' then .gap else charGlyph quoted c

/-! ## parameters -/

/-- How a word is expanded. -/
structure Manner where
  fields : Bool := false
  quoted : Bool := false
  -- whether the characters of the word itself may be divided
  inner : Bool := false
  -- whether a tilde at the start is the home folder
  tilde : Bool := false
  -- whether a tilde behind a colon is the home folder
  tildes : Bool := false

namespace Run

def joinedWords (name : Char) (quoted fields : Bool) : Run Bytes := do
  let ifs ← separators
  let between := if fields && (!quoted || name = '@') then ['\x00'] else ifs.take 1
  return ((← get).words.intersperse between).flatten

/-- The value of a parameter. -/
def param? (name : Bytes) (quoted fields : Bool) : Run (Option Bytes) := do
  let s ← get
  match name with
  | ['$'] => return some (decimalText s.process)
  | ['?'] => return some (decimalText s.status)
  | ['#'] => return some (decimalText s.words.length)
  | ['!'] => return none
  | ['-'] => return some (Setting.letters s.settings)
  | ['@'] => return some (← joinedWords '@' quoted fields)
  | ['*'] => return some (← joinedWords '*' quoted fields)
  | name =>
    if name.all Char.isDigit then
      let n := digitsValue name
      return if n = 0 then some s.name else s.words[n - 1]?
    else value? name

/-- The division of a parameter's value. -/
def paramDivision (name : Bytes) (quoted : Bool) : Run Division := do
  if !quoted then return .separators
  else if name = ['@'] && !(← get).words.isEmpty then return .gaps
  else return .none

/-- Report a parameter that is not set. -/
def notSet {α : Type} (name message : Bytes) : Run α := fail (name ++ bytes ": " ++ message)

/-! ## words -/

/-- The home folder of a user, where nobody is the user at work. -/
def home? (user : Bytes) : Run (Option Bytes) := do
  if user.isEmpty then value? (bytes "HOME")
  else if user = bytes "root" then return some (bytes "/root")
  else return none

/-- The tilde at the start of a word: its expansion and what follows. -/
def takeTilde (manner : Manner) (w : Word) : Run (List Stretch × Word) := do
  match w with
  | .char '~' :: rest =>
    let ends (c : Char) : Bool := c = '/' || (manner.tildes && c = ':')
    let user := (rest.takeWhile fun
      | .char c => !ends c
      | _ => false).filterMap fun
      | .char c => some c
      | _ => none
    let after := rest.drop user.length
    let whole := match after with
      | [] => true
      | .char _ :: _ => true
      | _ => false
    match whole, ← home? user with
    | true, some folder => return ([⟨.none, valueGlyphs true folder⟩], after)
    | _, _ => return ([], w)
  | w => return ([], w)

/-- The value of an arithmetic expression, whose assignments are made. -/
def arithmetic (expression : Bytes) : Run Bytes := do
  let s ← get
  let lookup (name : Bytes) : Option Bytes := (s.vars.get? name).bind Variable.value
  match evaluate lookup expression with
  | .ok (n, assigned) =>
    assigned.forM fun (name, n) => assign name (decimalText n)
    return decimalText n
  | .error (.expression message) =>
    fail (bytes "arithmetic expression: " ++ bytes message ++ bytes ": \"" ++ expression ++ ['"'])
  | .error (.number b) => badNumber b

/-- The characters at the front of a word that are not special in any way. -/
def takePlain : Word → Bytes × Word
  | .char c :: rest =>
    let (cs, rest) := takePlain rest
    (c :: cs, rest)
  | w => ([], w)

/-- The characters up to a colon, with it, and what follows. -/
def takeColon : Bytes → Bytes × Bytes
  | [] => ([], [])
  | ':' :: rest => ([':'], rest)
  | c :: rest =>
    let (front, rest) := takeColon rest
    (c :: front, rest)

variable (capture : Tree → Run Bytes)

mutual

/-- Expand a word in at most so many steps. -/
def expand : Nat → Manner → Word → Run (List Stretch)
  | n + 1, manner, w => do
    let (front, w) ← if manner.tilde then takeTilde manner w else pure ([], w)
    return front ++ (← expandFrom n manner false w)
  | 0, _, _ => throw .exhausted

/-- Expand the pieces of a word, inside or outside of quotes. -/
def expandFrom : Nat → Manner → Bool → Word → Run (List Stretch)
  | n + 1, manner, inQuotes, w => do
    let quoted := manner.quoted || inQuotes
    let go (inQuotes : Bool) (rest : Word) : Run (List Stretch) :=
      expandFrom n manner inQuotes rest
    match w with
    | [] => return []
    | .quote :: .param ['@'] .value [] :: .quote :: rest =>
      if inQuotes then return ⟨.none, [.mark]⟩ :: (← go false (w.drop 1))
      else return (← expandParam n { manner with quoted := true } ['@'] .value []) ++
        (← go false rest)
    | .quote :: rest => return ⟨.none, [.mark]⟩ :: (← go (!inQuotes) rest)
    | .escaped c :: rest => return ⟨.none, [.char c true]⟩ :: (← go inQuotes rest)
    | .char c :: rest =>
      let (cs, rest) := takePlain (.char c :: rest)
      let division := if manner.inner && !quoted then Division.separators else .none
      let stretch (cs : Bytes) : Stretch := ⟨division, cs.map (charGlyph inQuotes)⟩
      let (before, after) := if manner.tildes && !quoted then takeColon cs else (cs, [])
      let follows := before.getLast? = some ':' && manner.tildes && !quoted
      let rest := after.map .char ++ rest
      let (tilde, rest) ← if follows then takeTilde manner rest else pure ([], rest)
      return stretch before :: tilde ++ (← go inQuotes rest)
    | .param name use word :: rest =>
      return (← expandParam n { manner with quoted } name use word) ++ (← go inQuotes rest)
    | .command body :: rest =>
      let out ← capture body
      let division := if quoted then Division.none else .separators
      return ⟨division, valueGlyphs quoted out⟩ :: (← go inQuotes rest)
    | .arith e :: rest =>
      let text := (← expand n { quoted := true } e).flatMap fun s => glyphText s.glyphs
      let out ← arithmetic text
      let division := if quoted then Division.none else .separators
      return ⟨division, valueGlyphs quoted out⟩ :: (← go inQuotes rest)
  | 0, _, _, _ => throw .exhausted

def expandParam : Nat → Manner → Bytes → ParamUse → Word → Run (List Stretch)
  | n + 1, manner, name, use, word => do
    let quoted := manner.quoted
    let value ← param? name quoted manner.fields
    let put (b : Bytes) : Run (List Stretch) := do
      return [⟨← paramDivision name quoted, valueGlyphs quoted b⟩]
    let text (w : Word) : Run Bytes := do
      let stretches ← expand n { tilde := true, quoted } w
      return stretches.flatMap fun s => glyphText s.glyphs
    let unlessSet (b : Option Bytes) (act : Bytes → Run (List Stretch)) : Run (List Stretch) := do
      match b with
      | some b => act b
      | none => if ← isOn .nounset then notSet name (bytes "parameter not set") else act []
    match use with
    | .bad => fail (bytes "Bad substitution")
    | .value => unlessSet value put
    | .length => unlessSet value fun b => put (decimalText b.length)
    | .trim front longest =>
      unlessSet value fun b => do
        let pattern := (← expand n { tilde := true } word).flatMap fun s => glyphPattern s.glyphs
        put (trimPattern front longest pattern b)
    | .test t null =>
      let present := value.filter fun b => !null || !b.isEmpty
      let inside := { manner with tilde := true, inner := true, tildes := false }
      match t, present with
      | .default, some b => put b
      | .default, none => expand n inside word
      | .alternative, some _ => expand n inside word
      | .alternative, none => return []
      | .assign, some b | .required, some b => put b
      | .assign, none =>
        if isName name then
          assign name (← text word)
          put ((← param? name quoted manner.fields).getD [])
        else fail (name ++ bytes ": bad variable name")
      | .required, none =>
        let message ← text word
        if word.isEmpty then
          notSet name (bytes "parameter not set" ++ (if null then bytes " or null" else []))
        else notSet name message
  | 0, _, _, _, _ => throw .exhausted

end

/-- The bound on the steps in which a word is expanded. -/
def wordSteps : Nat := 100000

/-- What patterns see of the machine. -/
def sight : Run Sight := do
  let s ← get
  return {
    leads := fun path =>
      match s.store.disk.place s.folder path with
      | .missing | .underFile | .tooLong => false
      | _ => true
    names? := s.store.disk.names? s.folder }

/-- The fields of a word.  A field with special characters stands for the paths that match it, if
there are any. -/
def fieldsOf (w : Word) : Run (List Bytes) := do
  let stretches ← expand capture wordSteps { fields := true, tilde := true } w
  let fields := FieldDraft.ofStretches (← separators) stretches
  if ← isOn .noglob then return fields.map glyphText
  let sight ← sight
  return fields.flatMap fun field =>
    match sight.paths (glyphPattern field) with
    | [] => [glyphText field]
    | paths => paths

/-- The text of a word that is not divided. -/
def textOf (manner : Manner) (w : Word) : Run Bytes := do
  return (← expand capture wordSteps manner w).flatMap fun s => glyphText s.glyphs

def patternOf (w : Word) : Run Bytes := do
  return (← expand capture wordSteps { tilde := true } w).flatMap fun s => glyphPattern s.glyphs

end Run

end BlockSketch.Shell
