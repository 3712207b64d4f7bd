import BlockSketch.Library.Bundled
import BlockSketch.Workbench.Command

/-!
# BlockSketch.Workbench.Start

Opening the workbench with a library of blocks, and the lines that report it.
-/

namespace BlockSketch.Workbench

variable [Platform]

/-- The workbench when it is ready. -/
def ready (w : Workbench) : Workbench :=
  { w with label := w.labelFor w.scene, notes := w.notes ++ [.status "Готово" 2000] }

/-- The workbench for a library of blocks. -/
def ofLibrary (lib : Library) : Outcome Workbench := do
  let library := lib.paletteEntries
  let catalog ← Catalog.ofBlocks (library.map .dict)
  return ready {
    inspector := {
      session := { scene := { catalog, arrangement := Platform.arrangement } }
      sheet := { catalog } }
    library, catalog, aliases := lib.aliases }

/-- Open the workbench; without a library that can be read it starts empty and says so. -/
def start : Outcome Library → Outcome Workbench
  | .ok lib => ofLibrary lib
  | .error (.library _) => .ok (ready {
    inspector := { session := { scene := { arrangement := Platform.arrangement } } }
    notes := [.failure "Ошибка чтения палитры"] })
  | .error f => .error f

/-- Open the workbench with the bundled library and wait for events. -/
def launch : Outcome Workbench := do
  let w ← start Library.bundled
  return { w with notes := w.notes ++ [.waiting] }

/-- The library of blocks below a folder. -/
def libraryFile (root : Text.FilePath) : Text.FilePath := root.child "data/blocks/blocks.json"

def toolkitVersion : Text := "6.6.1"

/-- The lines that report the start, given the folder that the program was started for and the
folder that it stands in. -/
def startLines (root home : Text.FilePath) : List Text :=
  ["[RoboLab] PySide6 version: " ++ toolkitVersion,
   "[RoboLab] Blocks catalog: " ++ (libraryFile root).render,
   "[RoboLab] Loading block palette from " ++ (libraryFile home).render]

/-! ## texts of empty panels -/

/-- Shown in place of a sketch that was not generated yet. -/
def codePlaceholder : Text := "Нажмите ‘Сгенерировать скетч’, чтобы увидеть результат…"

/-- Shown in the plain code view while it is empty. -/
def plainCodePlaceholder : Text := "Здесь будет показываться сгенерированный код..."

/-- Shown in the empty search field of the palette. -/
def searchPlaceholder : Text := "Поиск по названию или ID…"

/-- Shown in the empty serial monitor. -/
def monitorPlaceholder : Text := "Монитор порта будет доступен в будущих версиях"

end BlockSketch.Workbench
