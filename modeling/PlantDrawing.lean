import PlantDrawing.ArgumentNumber
import PlantDrawing.Arguments
import PlantDrawing.Arithmetic
import PlantDrawing.Bounds
import PlantDrawing.Catalog
import PlantDrawing.CommandLine
import PlantDrawing.Decimal
import PlantDrawing.DecimalDigit
import PlantDrawing.Double
import PlantDrawing.Drawing
import PlantDrawing.Expansion
import PlantDrawing.Fault
import PlantDrawing.FileTree
import PlantDrawing.Grammar
import PlantDrawing.HelpText
import PlantDrawing.Hypotenuse
import PlantDrawing.Json
import PlantDrawing.JsonText
import PlantDrawing.Main
import PlantDrawing.Markup
import PlantDrawing.Numeral
import PlantDrawing.OptionsObject
import PlantDrawing.Printable
import PlantDrawing.Proofs.Acceptance
import PlantDrawing.Proofs.ArgumentTexts
import PlantDrawing.Proofs.BoxSides
import PlantDrawing.Proofs.BracketCounts
import PlantDrawing.Proofs.BracketLanguage
import PlantDrawing.Proofs.Branches
import PlantDrawing.Proofs.CanonicalNumerals
import PlantDrawing.Proofs.Checks
import PlantDrawing.Proofs.CommandFailures
import PlantDrawing.Proofs.Connected
import PlantDrawing.Proofs.DecimalText
import PlantDrawing.Proofs.DeepestNesting
import PlantDrawing.Proofs.DepthCounts
import PlantDrawing.Proofs.DepthOrder
import PlantDrawing.Proofs.Derivations
import PlantDrawing.Proofs.DoubleRounding
import PlantDrawing.Proofs.DoubleSizes
import PlantDrawing.Proofs.DoubleValue
import PlantDrawing.Proofs.DrawingOutcome
import PlantDrawing.Proofs.Escapes
import PlantDrawing.Proofs.FileChanges
import PlantDrawing.Proofs.FileFaults
import PlantDrawing.Proofs.FileWays
import PlantDrawing.Proofs.Generations
import PlantDrawing.Proofs.GivenArguments
import PlantDrawing.Proofs.Grain
import PlantDrawing.Proofs.GrammarTable
import PlantDrawing.Proofs.Growth
import PlantDrawing.Proofs.Headings
import PlantDrawing.Proofs.Hull
import PlantDrawing.Proofs.InertSymbols
import PlantDrawing.Proofs.JsonBounds
import PlantDrawing.Proofs.Layers
import PlantDrawing.Proofs.Levels
import PlantDrawing.Proofs.LimitedCommands
import PlantDrawing.Proofs.Limits
import PlantDrawing.Proofs.MarkupPieces
import PlantDrawing.Proofs.MarkupReader
import PlantDrawing.Proofs.NearestWhole
import PlantDrawing.Proofs.Nestings
import PlantDrawing.Proofs.OneLine
import PlantDrawing.Proofs.OptionChecks
import PlantDrawing.Proofs.OptionDomain
import PlantDrawing.Proofs.OptionEntries
import PlantDrawing.Proofs.Outcome
import PlantDrawing.Proofs.PageExtent
import PlantDrawing.Proofs.RandomRuns
import PlantDrawing.Proofs.Renamings
import PlantDrawing.Proofs.Replacements
import PlantDrawing.Proofs.Reports
import PlantDrawing.Proofs.RunChanges
import PlantDrawing.Proofs.RunReports
import PlantDrawing.Proofs.Siblings
import PlantDrawing.Proofs.SvgContents
import PlantDrawing.Proofs.SvgFaults
import PlantDrawing.Proofs.SvgMarks
import PlantDrawing.Proofs.SvgNumbers
import PlantDrawing.Proofs.SvgStrings
import PlantDrawing.Proofs.SvgTree
import PlantDrawing.Proofs.SvgViewBox
import PlantDrawing.Proofs.TextOrder
import PlantDrawing.Proofs.Turning
import PlantDrawing.Proofs.TurtleBrackets
import PlantDrawing.Proofs.TurtleSteps
import PlantDrawing.Proofs.VisibleStrokes
import PlantDrawing.Proofs.WholeNumbers
import PlantDrawing.Quoted
import PlantDrawing.RandomPick
import PlantDrawing.Report
import PlantDrawing.Runtime
import PlantDrawing.Segment
import PlantDrawing.Settings
import PlantDrawing.SvgDocument
import PlantDrawing.SvgOptions
import PlantDrawing.Text
import PlantDrawing.Turtle
import PlantDrawing.Twister
import PlantDrawing.Word
