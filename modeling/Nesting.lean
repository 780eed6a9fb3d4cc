import Nesting.Check
import Nesting.Command
import Nesting.Config.File
import Nesting.Main
import Nesting.Proofs.Comments
import Nesting.Proofs.Lines
import Nesting.Proofs.Literals
import Nesting.Proofs.Places
import Nesting.Proofs.Positions
import Nesting.Proofs.Rendering
import Nesting.Proofs.ScanReport
import Nesting.Proofs.Settled
import Nesting.Proofs.Stack
import Nesting.Proofs.Substitution
import Nesting.Proofs.Tokens
import Nesting.Proofs.Verdict
import Nesting.Proofs.WellNested
import Nesting.Scan.Cursor
import Nesting.Source
import Nesting.Version
import Nesting.Proofs.LineNumbers
import Nesting.Proofs.LineModes
import Nesting.Proofs.Truncation
import Nesting.Proofs.FileTrees
import Nesting.Proofs.Views
import Nesting.Proofs.Configuration
import Nesting.Proofs.Decoding
import Nesting.Proofs.Deletion
import Nesting.Proofs.CheckCommand
import Nesting.Proofs.SanitizedCopy
import Nesting.Proofs.ContextWindow
import Nesting.Proofs.FileEffects
import Nesting.Proofs.Acceptance
import Nesting.Proofs.Expansion
import Nesting.Proofs.Assignments
import Nesting.Proofs.KeyCase
import Nesting.Proofs.Precedence
import Nesting.Proofs.Rounds
import Nesting.Proofs.FirstError
import Nesting.Proofs.Insertion
import Nesting.Proofs.Display
import Nesting.Proofs.Repair
import Nesting.Proofs.StrayBytes
import Nesting.Proofs.LineEnds
import Nesting.Proofs.PlainLines
import Nesting.Proofs.ScanOnce
import Nesting.Proofs.Unterminated
import Nesting.Proofs.LineSearch
