import BlockSketch.Value.Basic

/-!
# BlockSketch.Library.Fallback

The definitions used for code generation when a library describes only the
palette.
-/

namespace BlockSketch.Library

/-- A category with its title and colour. -/
def fallbackCategory (title color : Text) : Value :=
  .dict [("title", .text title), ("color", .text color)]

/-- A parameter with its type and default. -/
def fallbackParameter (name type : Text) (default : Value) : Value :=
  .dict [("name", .text name), ("type", .text type), ("default", default)]

/-- The start block, whose two containers are the bodies of `setup` and `loop`. -/
def startBlock : Value :=
  .dict [("id", .text "EV_START"), ("name", .text "Старт"), ("category", .text "events"),
    ("kind", .text "event"),
    ("containers", .list [
      .dict [("name", .text "setup"), ("section", .text "setup")],
      .dict [("name", .text "loop"), ("section", .text "loop")]])]

/-- Switch a light on. -/
def ledOnBlock : Value :=
  .dict [("id", .text "LS_LED_ON"), ("name", .text "Включить светодиод"),
    ("category", .text "logic"), ("kind", .text "statement"), ("section", .text "loop"),
    ("template", .text "digitalWrite(\x7bpin\x7d, HIGH);"),
    ("parameters", .list [fallbackParameter "pin" "int" (.int 13)]),
    ("setup", .list [.text "pinMode(\x7bpin\x7d, OUTPUT);"])]

def delayBlock : Value :=
  .dict [("id", .text "TM_DELAY"), ("name", .text "Задержка"), ("category", .text "timing"),
    ("kind", .text "statement"), ("section", .text "loop"),
    ("template", .text "delay(\x7bms\x7d);"),
    ("parameters", .list [fallbackParameter "ms" "int" (.int 1000)])]

/-- Run the blocks of a container under a condition. -/
def ifBlock : Value :=
  .dict [("id", .text "CTL_IF"), ("name", .text "Если"), ("category", .text "logic"),
    ("kind", .text "statement"), ("section", .text "loop"),
    ("template", .text "if (\x7bcondition\x7d) \x7b\n\x7bthen\x7d\n\x7d"),
    ("parameters", .list [fallbackParameter "condition" "string" (.text "true")]),
    ("containers", .list [
      .dict [("name", .text "then"), ("section", .text "loop"), ("placeholder", .text "then")]])]

/-- The definitions as a registry document. -/
def fallback : Fields :=
  [("version", .int 1),
   ("categories", .dict [
     ("events", fallbackCategory "События" "#607D8B"),
     ("logic", fallbackCategory "Логика" "#4CAF50"),
     ("timing", fallbackCategory "Таймер" "#FFC107")]),
   ("blocks", .list [startBlock, ledOnBlock, delayBlock, ifBlock])]

end BlockSketch.Library
