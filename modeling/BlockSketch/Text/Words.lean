import BlockSketch.Text.Basic

/-!
# BlockSketch.Text.Words

Splitting a command line into words by the quoting rules of a POSIX shell:
single quotes keep everything, double quotes keep everything but an escaped
quote or backslash, and a backslash outside quotes keeps the next character.
-/

namespace BlockSketch.Text

/-- Why a command line has no words. -/
inductive WordsError where
  | unclosedQuote
  | danglingEscape
deriving DecidableEq, Repr

/-- The wording of each cause. -/
def WordsError.message : WordsError → String
  | .unclosedQuote => "No closing quotation"
  | .danglingEscape => "No escaped character"

/-- Characters between words. -/
def isWordGap (c : Letter) : Bool := c = ' ' || c = '\t' || c = '\r' || c = '\n'

/-- Where the scan stands: between words, in a word, or inside quotes.  The word in hand is held
reversed. -/
inductive WordState where
  | gap
  | plain (word : List Letter)
  | escaped (word : List Letter)
  | single (word : List Letter)
  | double (word : List Letter)
  | doubleEscaped (word : List Letter)

/-- The scan over the characters. -/
def wordsFrom : WordState → List Letter → Except WordsError (List (List Letter))
  | .gap, [] => .ok []
  | .plain w, [] => .ok [w.reverse]
  | .escaped _, [] => .error .danglingEscape
  | .single _, [] => .error .unclosedQuote
  | .double _, [] => .error .unclosedQuote
  | .doubleEscaped _, [] => .error .danglingEscape
  | .gap, c :: cs =>
    if isWordGap c then wordsFrom .gap cs
    else if c = '\\' then wordsFrom (.escaped []) cs
    else if c = '\'' then wordsFrom (.single []) cs
    else if c = '"' then wordsFrom (.double []) cs
    else wordsFrom (.plain [c]) cs
  | .plain w, c :: cs =>
    if isWordGap c then (wordsFrom .gap cs).map (w.reverse :: ·)
    else if c = '\\' then wordsFrom (.escaped w) cs
    else if c = '\'' then wordsFrom (.single w) cs
    else if c = '"' then wordsFrom (.double w) cs
    else wordsFrom (.plain (c :: w)) cs
  | .escaped w, c :: cs => wordsFrom (.plain (c :: w)) cs
  | .single w, c :: cs =>
    if c = '\'' then wordsFrom (.plain w) cs else wordsFrom (.single (c :: w)) cs
  | .double w, c :: cs =>
    if c = '"' then wordsFrom (.plain w) cs
    else if c = '\\' then wordsFrom (.doubleEscaped w) cs
    else wordsFrom (.double (c :: w)) cs
  | .doubleEscaped w, c :: cs =>
    if c = '"' ∨ c = '\\' then wordsFrom (.double (c :: w)) cs
    else wordsFrom (.double (c :: '\\' :: w)) cs

/-- The words of a command line. -/
def words (t : Text) : Except WordsError (List Text) :=
  (wordsFrom .gap t.letters).map (·.map Text.mk)

end BlockSketch.Text
