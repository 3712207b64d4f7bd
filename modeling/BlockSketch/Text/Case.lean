import BlockSketch.Text.Basic
import BlockSketch.Text.CaseTable

/-!
# BlockSketch.Text.Case

Lower case and case folding of whole texts.  Lower case depends on its
surroundings in one place only: a capital sigma at the end of a word becomes the
final sigma.
-/

namespace BlockSketch.Text

/-- Where the first run that has a character sends it. -/
def runCase? (runs : List CaseRun) (c : Char) : Option Char :=
  (runs.findSome? (·.send? c.toNat)).map Char.ofNat

/-- The lower-case form of a character by itself. -/
def lowerChar (c : Char) : List Char :=
  if c.toNat < 0x80 then [c.toLower]
  else if c.toNat = 0x130 then [Char.ofNat 0x69, Char.ofNat 0x307]
  else [(runCase? lowerRuns c).getD c]

/-- Whether a character is passed over when the end of a word is looked for. -/
def isCaseIgnorable (c : Char) : Bool := caseIgnorableRanges.contains c

/-- Whether a word goes on here: the first character that counts is a cased letter. -/
def touchesLetter (ls : List Letter) : Bool :=
  match ls.dropWhile (·.isIn isCaseIgnorable) with
  | [] => false
  | l :: _ => l.isIn casedRanges.contains

/-- A letter sent by its character; half of a surrogate pair has no case. -/
def sendLetter (send : Char → List Char) : Letter → List Letter
  | .char c => (send c).map .char
  | .half n => [.half n]

/-- Lower case of a text, given the letters before it in reverse. -/
def lowerFrom (before : List Letter) : List Letter → List Letter
  | [] => []
  | l :: rest =>
    (if l.code = 0x3A3 then
      if touchesLetter before && !touchesLetter rest then [.ofCode 0x3C2] else [.ofCode 0x3C3]
     else sendLetter lowerChar l) ++ lowerFrom (l :: before) rest

/-- A text in lower case. -/
def lower (t : Text) : Text := ⟨lowerFrom [] t.letters⟩

/-- A character folded for comparison without regard to case. -/
def foldChar (c : Char) : List Char :=
  if c.toNat < 0x80 then [c.toLower]
  else match foldExpansions.find? fun e => e.1 == c.toNat with
    | some e => e.2.map Char.ofNat
    | none =>
      match runCase? foldRuns c with
      | some d => [d]
      | none => lowerChar c

/-- A text folded for comparison without regard to case. -/
def fold (t : Text) : Text := ⟨t.letters.flatMap (sendLetter foldChar)⟩

end BlockSketch.Text
