import LineBasic.Main
import LineBasic.Cursor.Matcher
import LineBasic.Proofs.Attempts
import LineBasic.Proofs.Dependence
import LineBasic.Proofs.Noninterference
import LineBasic.Proofs.Runs
import LineBasic.Proofs.InputLines
import LineBasic.Proofs.Sinks
import LineBasic.Proofs.Simulation
import LineBasic.Proofs.Spacing
import LineBasic.Proofs.Sessions
import LineBasic.Proofs.Respacing
import LineBasic.Proofs.LineEnds
import LineBasic.Proofs.Blanking
import LineBasic.Proofs.LetterCase
import LineBasic.Proofs.Decoration
import LineBasic.Proofs.FileMode
import LineBasic.Proofs.PointPosition
import LineBasic.Proofs.WholeNumbers
import LineBasic.Proofs.AlikeNames
import LineBasic.Proofs.FoldedNames
import LineBasic.Proofs.BlankLines
import LineBasic.Proofs.Causes
import LineBasic.Proofs.NestingLimit
import LineBasic.Proofs.Alternatives
import LineBasic.Proofs.Highlight
