import BlockSketch.Json.Problem
import BlockSketch.Text.Words

/-!
# BlockSketch.Fault

The causes for which an operation gives no result.  Documents come from outside
and may hold any value anywhere, so most causes say what was asked of a value
that could not give it; the others are the program's own.

A stack that is used up is a cause only where documents are read and copied, within
the room of `Json.Room`.  Everything else that goes down a tree, the walks over a
program and the copies of a diagram with its values, is taken to have stack enough
at any depth.
-/

namespace BlockSketch

/-- What is wrong with a block library. -/
inductive LibraryFault where
  | missing (file : Text)
  | notJson (file : Text) (problem : Json.Problem)
  -- the document is neither a list nor an object
  | wrongShape
  | noBlockList
  -- the library says nothing of code generation
  | noDefinitions
  | blocksNotListed
  -- a block lacks one of its four required fields
  | incompleteBlock
  | badContainer (block : Text)
  | badParameter (block : Text)
deriving DecidableEq, Repr

/-- The wording of each cause. -/
def LibraryFault.message : LibraryFault → Text
  | .missing file => "Не найден файл " ++ file
  | .notJson file problem => "Некорректный JSON в " ++ file ++ ": " ++ problem.message
  | .wrongShape => "Ожидался список или объект с блоками"
  | .noBlockList => "В объекте blocks.json отсутствует массив blocks"
  | .noDefinitions => "Файл blocks.json не содержит сведений, необходимых для генератора кода"
  | .blocksNotListed => "Секция 'blocks' должна быть списком"
  | .incompleteBlock => "Определение блока отсутствует или содержит неполные данные"
  | .badContainer block => "Некорректное описание контейнера блока " ++ block
  | .badParameter block => "Некорректное описание параметра блока " ++ block

/-- Why a program gives no sketch. -/
inductive GenerationFault where
  | noRoot
  -- a block has no definition; the quoted text of the complaint is kept
  | unknownBlock (quoted : Text)
  -- a block writes code and belongs to no section
  | noSection (block : Text)
deriving DecidableEq, Repr

/-- The wording of each cause. -/
def GenerationFault.message : GenerationFault → Text
  | .noRoot => "Нет корневого блока EV_START"
  | .unknownBlock quoted => quoted
  | .noSection block => "Блок " ++ block ++ " не привязан к секции и не передан target_section"

/-- Why an operation gives no result. -/
inductive Fault where
  -- a value of the wrong kind was handed to an operation
  | wrongKind
  -- a value was asked for a member that its kind does not have
  | noMember
  -- a value of the right kind does not have the right form
  | malformed
  | missingKey (name : Text)
  | outOfRange
  | tooLarge
  -- a text does not fit into memory
  | outOfMemory
  | notJson (problem : Json.Problem)
  | notUnicode
  | notEncodable
  -- lists and dictionaries lie too deep in one another
  | tooDeep
  | noSuchFile
  | notAllowed
  | notADirectory
  | isADirectory
  | nameTooLong
  | alreadyExists
  | noSuchPort
  | unknownSection (shown : Text)
  | unknownBlock (id : Text)
  | badWords (cause : Text.WordsError)
  | library (cause : LibraryFault)
  | generation (cause : GenerationFault)
deriving DecidableEq, Repr

/-- The wording of the causes that are shown with a text. -/
def Fault.message? : Fault → Option Text
  | .unknownSection shown => some ("Неизвестный раздел секции: " ++ shown)
  | .unknownBlock id => some ("Неизвестный блок '" ++ id ++ "'")
  | .badWords cause => some cause.message
  | .library cause => some cause.message
  | .generation cause => some cause.message
  | _ => none

/-- A result, or the cause for which there is none. -/
abbrev Outcome (α : Type) := Except Fault α

theorem Outcome.eq_ok_of_toOption {α : Type} {o : Outcome α} {a : α} (h : o.toOption = some a) :
    o = .ok a := by
  cases o with
  | error fault => exact nomatch h
  | ok b => rw [Option.some.inj h]

/-- What two steps one after the other give. -/
theorem Outcome.bind_eq_ok_iff {α β : Type} {o : Outcome α} {f : α → Outcome β} {b : β} :
    o >>= f = .ok b ↔ ∃ a, o = .ok a ∧ f a = .ok b := by
  cases o <;> simp [bind, Except.bind]

theorem Outcome.exists_ok_of_any {α : Type} {o : Outcome α} {test : α → Bool}
    (h : o.toOption.any test = true) : ∃ a, o = .ok a ∧ test a = true := by
  cases o with
  | error fault => exact nomatch h
  | ok a => exact ⟨a, rfl, h⟩

/-- A text that has to have a form in UTF-8. -/
def Text.encoded (t : Text) : Outcome Text :=
  if t.plain?.isSome then .ok t else .error .notEncodable

end BlockSketch
