import ModalLexer.Proofs.Literal.Naive
import ModalLexer.Proofs.Mode.Combined
import ModalLexer.Proofs.Mode.Faults
import ModalLexer.Proofs.Mode.Nested
import ModalLexer.Proofs.Mode.SlotTable
import ModalLexer.Proofs.Scan.Accounted
import ModalLexer.Proofs.Scan.Appended
import ModalLexer.Proofs.Scan.Caret
import ModalLexer.Proofs.Scan.Caught
import ModalLexer.Proofs.Scan.Discarded
import ModalLexer.Proofs.Scan.Failures
import ModalLexer.Proofs.Scan.Locations
import ModalLexer.Proofs.Scan.ModeOrder
import ModalLexer.Proofs.Scan.OneMode
import ModalLexer.Proofs.Scan.Ordered
import ModalLexer.Proofs.Scan.PhysicalLine
import ModalLexer.Proofs.Scan.Pushdown
import ModalLexer.Proofs.Scan.Resume
import ModalLexer.Proofs.Scan.ValueCalls
import ModalLexer.Rule.Recipe
import ModalLexer.Scan.Diagnostic
import ModalLexer.Scan.Written
import ModalLexer.Proofs.Pattern.Seek
import ModalLexer.Proofs.Pattern.Sets
import ModalLexer.Proofs.Mode.Choice
import ModalLexer.Proofs.Mode.Merged
import ModalLexer.Proofs.Scan.Merged
import ModalLexer.Proofs.Text.BreakRuns
import ModalLexer.Proofs.Mode.Partition
import ModalLexer.Proofs.Scan.CheckpointText
