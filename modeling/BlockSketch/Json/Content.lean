import BlockSketch.Json.Reader
import BlockSketch.Text.Encoding

/-!
# BlockSketch.Json.Content

Files that hold a document.
-/

namespace BlockSketch.Json

/-- What a file holds: a text is stored as UTF-8. -/
inductive Source where
  | missing
  | text (t : Text)
  | bytes (bs : List UInt8)

/-- A file to be read, with the room that there is for its document. -/
structure Content where
  source : Source
  room : Room := .usual

/-- A file that is not there. -/
def Content.missing : Content := ⟨.missing, .usual⟩

def Content.text (t : Text) (room : Room := .usual) : Content := ⟨.text t, room⟩

/-- A file with some bytes. -/
def Content.bytes (bs : List UInt8) (room : Room := .usual) : Content := ⟨.bytes bs, room⟩

/-- The text of a file. -/
def Source.read : Source → Outcome String
  | .missing => .error .noSuchFile
  | .text t =>
    match t.reread? with
    | some s => .ok s
    | none => .error .notEncodable
  | .bytes bs =>
    match Text.decode? bs with
    | some s => .ok s
    | none => .error .notUnicode

def Content.document (c : Content) : Outcome Value := c.source.read >>= parse c.room

/-- The document in a file with a text that has a form in UTF-8. -/
theorem document_text {t : Text} {cs : List Char} (h : t.letters.mapM Letter.char? = some cs)
    (room : Room) : (Content.text t room).document = parseChars room (Text.unifyChars cs) := by
  have hread : (Source.text t).read = .ok (String.ofList (Text.unifyChars cs)) := by
    unfold Source.read Text.reread? Text.plain? Text.unifyLineEnds
    simp [h]
  have hparse : (Content.text t room).document = (Source.text t).read >>= parse room := rfl
  rw [hparse, hread]
  exact congrArg (parseChars room) String.toList_ofList

end BlockSketch.Json
