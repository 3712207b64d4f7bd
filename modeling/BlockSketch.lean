import BlockSketch.Decimal.Layout
import BlockSketch.Assoc
import BlockSketch.Text.Blank
import BlockSketch.Text.Case
import BlockSketch.Text.Encoding
import BlockSketch.Text.FilePath
import BlockSketch.Text.Words
import BlockSketch.Text.Printable
import BlockSketch.Text.Digit
import BlockSketch.Value.Same
import BlockSketch.Value.Written
import BlockSketch.Value.Number
import BlockSketch.Json.Reader
import BlockSketch.Json.Writer
import BlockSketch.Library.Basic
import BlockSketch.Library.Bundled
import BlockSketch.Format.Template
import BlockSketch.Sketch.Basic
import BlockSketch.Validation
import BlockSketch.Firmware.Diagnostics
import BlockSketch.Firmware.Flasher
import BlockSketch.Diagram.Project
import BlockSketch.Canvas.Edit
import BlockSketch.Canvas.Event
import BlockSketch.Canvas.Drawing
import BlockSketch.Diagram.Outline
import BlockSketch.Sheet.Basic
import BlockSketch.Palette
import BlockSketch.Canvas.View
import BlockSketch.Files.Portable
import BlockSketch.SelfCheck
import BlockSketch.Shell.Program
import BlockSketch.Workbench.Start
import BlockSketch.Main
import BlockSketch.Proofs.Canvas.Effect
import BlockSketch.Proofs.Canvas.Run
import BlockSketch.Proofs.Canvas.Frame
import BlockSketch.Proofs.Diagram.Path
import BlockSketch.Proofs.Assoc
import BlockSketch.Proofs.Diagram.Search
import BlockSketch.Proofs.Canvas.Acyclic
import BlockSketch.Proofs.Canvas.Blocks
import BlockSketch.Proofs.Canvas.Loading
import BlockSketch.Proofs.Canvas.Closed
import BlockSketch.Proofs.Canvas.Preview
import BlockSketch.Proofs.Canvas.Completion
import BlockSketch.Proofs.Canvas.Faithful
import BlockSketch.Proofs.Canvas.Reach
import BlockSketch.Proofs.Canvas.Removal
import BlockSketch.Proofs.Canvas.Mirror
import BlockSketch.Proofs.Sketch.Emission
import BlockSketch.Proofs.Text.Split
import BlockSketch.Proofs.Sketch.Numbering
import BlockSketch.Proofs.Sketch.Obstacles
import BlockSketch.Proofs.Sketch.Validated
import BlockSketch.Proofs.Diagram.Project
import BlockSketch.Proofs.Canvas.Opening
import BlockSketch.Proofs.Format.Faults
import BlockSketch.Proofs.Sketch.Unknown
import BlockSketch.Proofs.Sketch.Brackets
import BlockSketch.Proofs.Canvas.Deletion
import BlockSketch.Proofs.Canvas.Wiring
import BlockSketch.Proofs.Sketch.Vacant
import BlockSketch.Proofs.Diagram.Migration
import BlockSketch.Proofs.Registry.Faults
import BlockSketch.Proofs.Sketch.Inheritance
import BlockSketch.Proofs.Text.Marks
import BlockSketch.Proofs.Sketch.Verbatim
import BlockSketch.Proofs.Decimal.Binary
import BlockSketch.Proofs.Value.Number
import BlockSketch.Proofs.Sketch.Overflow
import BlockSketch.Proofs.Text.Lines
import BlockSketch.Proofs.Sketch.Indent
import BlockSketch.Proofs.Firmware.Diagnostics
import BlockSketch.Proofs.Text.Words
import BlockSketch.Proofs.Format.Spelled
import BlockSketch.Proofs.Firmware.Upload
import BlockSketch.Proofs.Value.Numeral
import BlockSketch.Proofs.Sketch.Complaints
import BlockSketch.Proofs.Sketch.Pins
import BlockSketch.Proofs.Sketch.Insertion
import BlockSketch.Proofs.Sketch.Attribution
import BlockSketch.Proofs.Library.Index
import BlockSketch.Proofs.Diagram.Key
import BlockSketch.Proofs.Canvas.Filing
import BlockSketch.Proofs.Canvas.Presets
import BlockSketch.Proofs.Sheet.Editor
import BlockSketch.Proofs.Sheet.Effect
import BlockSketch.Proofs.Sheet.Looking
import BlockSketch.Proofs.Sheet.Agreement
import BlockSketch.Proofs.Diagram.Document
import BlockSketch.Proofs.Text.Order
import BlockSketch.Proofs.Palette.Tree
import BlockSketch.Proofs.Step
import BlockSketch.Proofs.Workbench.Saving
import BlockSketch.Proofs.Library.Offer
import BlockSketch.Proofs.Canvas.Tally
import BlockSketch.Proofs.Workbench.Listening
import BlockSketch.Proofs.Workbench.Adding
import BlockSketch.Proofs.Workbench.Label
import BlockSketch.Proofs.Workbench.Status
import BlockSketch.Proofs.Program
