import BlockSketch.Format.Template
import BlockSketch.Program
import BlockSketch.Registry.Basic
import BlockSketch.Sketch.Indent
import BlockSketch.Text.Substitute

/-!
# BlockSketch.Sketch.Generator

The state of code generation and the code that a tree of blocks adds to it.  The
lines of every section are collected with the block they come from; a generator
that is used again goes on from what it has collected.
-/

namespace BlockSketch.Sketch

/-- A text of a section and the block it comes from. -/
abbrev Line := Text × Option Text

/-- The lines collected for every section. -/
structure SectionLines where
  includes : List Line := []
  globals : List Line := []
  setup : List Line := []
  loop : List Line := []
  functions : List Line := []
deriving DecidableEq, Repr, Inhabited

def SectionLines.get (s : SectionLines) : Section → List Line
  | .includes => s.includes
  | .globals => s.globals
  | .setup => s.setup
  | .loop => s.loop
  | .functions => s.functions

/-- Add lines at the end of a section. -/
def SectionLines.append (s : SectionLines) (target : Section) (ls : List Line) : SectionLines :=
  match target with
  | .includes => { s with includes := s.includes ++ ls }
  | .globals => { s with globals := s.globals ++ ls }
  | .setup => { s with setup := s.setup ++ ls }
  | .loop => { s with loop := s.loop ++ ls }
  | .functions => { s with functions := s.functions ++ ls }

structure Generator where
  lines : SectionLines := {}
  -- headers that are not yet among the lines, each once
  headers : Assoc Text (Option Text) := []
  numbers : Assoc Text (List Nat) := []
deriving DecidableEq, Repr, Inhabited

/-- Add a line to a section; an empty text adds none. -/
def Generator.addLine (g : Generator) (target : Section) (line : Line) : Generator :=
  if line.1.isEmpty then g else { g with lines := g.lines.append target [line] }

/-- Add a header, unless it is already waiting. -/
def Generator.addHeader (g : Generator) (line : Line) : Generator :=
  { g with headers := Assoc.putNew g.headers (Text.trim line.1) line.2 }

/-- A step of generation.  What was collected before a fault stays. -/
abbrev Step (α : Type) := ExceptT Fault (StateM Generator) α

/-- The values that the marks of a block's templates stand for. -/
def context (d : Definition) (id : Option Text) (values : Fields) : Fields :=
  Assoc.putNew (Assoc.ofList (d.parameters.map fun p => (p.name, values.get p.name p.default)))
    "id" (Value.ofText? id)

/-- Replace the mark of every entry by the entry's text, one entry after the other. -/
def fillMarks (entries : List (Text × Text)) (text : Text) : Text :=
  entries.foldl (fun text e => Text.substitute (Text.mark e.1) e.2 text) text

/-- A snippet, filled from a context and indented. -/
def snippet (ctx : Fields) (level : Nat) (text : Text) : Text :=
  if text.isEmpty then "" else indent level (fillMarks (Assoc.mapValues Value.shown ctx) text)

/-- Whether a snippet can be filled from a context: if it is not empty, all values of the context
need a text, also those without a mark in it. -/
def suits (ctx : Fields) (text : Text) : Bool := text.isEmpty || ctx.all fun e => e.2.hasText

/-- Fill a snippet from a context and indent it. -/
def fill (ctx : Fields) (level : Nat) (text : Text) : Outcome Text :=
  if suits ctx text then .ok (snippet ctx level text) else .error .malformed

/-- Add the lines of a section. -/
def addLine (target : Section) (line : Line) : Step Unit := modify fun g => g.addLine target line

/-- The headers, declarations and functions a block needs, and its code for `setup`. -/
def addNeeds (d : Definition) (id : Option Text) (ctx : Fields) : Step Unit := do
  for header in d.includes do
    let text ← Format.render header ctx
    modify fun g => g.addHeader (text, id)
  for text in d.globals do
    let text ← fill ctx 0 text
    addLine .globals (text, id)
  for text in d.functions do
    let text ← Format.render text ctx
    addLine .functions (text, id)
  for text in d.setup do
    let text ← fill ctx 1 text
    addLine .setup (text, id)

/-- What a block does in generation, given the section of its surroundings and its level.  The
result is its rendered code. -/
abbrev Action := Option Section → Nat → Step (Option Text)

/-- The indentation level of code directly in a section. -/
def bodyLevel (s : Section) : Nat := if s.isBody then 1 else 0

/-- Run the children of a container that has no place in a template. -/
def runContainer (c : Container) (children : List Action) : Step Unit := do
  for child in children do
    let _ ← child (some c.target) (bodyLevel c.target)

/-- The texts that children leave for the place of their container. -/
def childTexts (target : Option Section) (level : Nat) (children : List Action) :
    Step (List Text) := do
  let texts ← children.mapM fun child => child target (level + 1)
  return (texts.filterMap id).filter fun text => !text.isEmpty

/-- What takes the place of a container in a template. -/
def containerText (level : Nat) (texts : List Text) : Text :=
  let joined := Text.intercalate "\n" texts
  if joined.isEmpty then joined else indent (level + 1) joined

/-- The replacements of a template's places. -/
def places (d : Definition) (level : Nat) (children : Assoc Text (List Action)) :
    Step (Assoc Text Text) :=
  d.containers.foldlM (fun filled c => do
    let actions := Assoc.getD children c.name []
    match c.placeholder with
    | none =>
      runContainer c actions
      return Assoc.put filled c.name ""
    | some place =>
      let texts ← childTexts d.target level actions
      return Assoc.put filled place (containerText level texts)) []

/-- The code of a block's template. -/
def renderTemplate (d : Definition) (level : Nat) (ctx : Fields)
    (children : Assoc Text (List Action)) : Step Text := do
  let filled ← places d level children
  match d.template with
  | .text template => fill ctx level (fillMarks filled template)
  | _ => throw .noMember

/-- The definition of a block, or the complaint that there is none. -/
def findDefinition (r : Registry) (id : Text) : Step Definition :=
  match Assoc.get? r.definitions id with
  | some d => return d
  | none =>
    throw (.generation (.unknownBlock (Value.quoted ((Fault.unknownBlock id).message?.getD ""))))

/-- What a block does in generation, given what its children do. -/
def blockAction (r : Registry) (id : Option Text) (definition : Text) (values : Fields)
    (children : Assoc Text (List Action)) : Action := fun surrounding level => do
  let d ← findDefinition r definition
  let ctx := context d id values
  addNeeds d id ctx
  if d.template.isSet then
    match d.target.or surrounding with
    | none => throw (.generation (.noSection d.id))
    | some target =>
      let code ← renderTemplate d level ctx children
      for line in Text.lines code do addLine target (line, id)
      return some code
  else
    for c in d.containers do runContainer c (Assoc.getD children c.name [])
    return none

/-- What a tree of blocks does in generation. -/
def action (r : Registry) : Block → Action :=
  Block.fold fun b children => blockAction r b.id b.definition b.values children

end BlockSketch.Sketch
