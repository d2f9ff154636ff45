import RasterAlgebra.FileTree
import RasterAlgebra.Main
import RasterAlgebra.Session
import RasterAlgebra.Proofs.Algebra.Symmetry
import RasterAlgebra.Proofs.Evaluation.Division
import RasterAlgebra.Proofs.Evaluation.Requests
import RasterAlgebra.Proofs.Evaluation.Safety
import RasterAlgebra.Proofs.Evaluation.Tiling
import RasterAlgebra.Proofs.Formula.Recovery
import RasterAlgebra.Proofs.Formula.RoundTrip
import RasterAlgebra.Proofs.Session.History
import RasterAlgebra.Proofs.Token.Munch
import RasterAlgebra.Proofs.Evaluation.Sequencing
import RasterAlgebra.Proofs.Evaluation.Checked
import RasterAlgebra.Proofs.Formula.Nesting
import RasterAlgebra.Proofs.Formula.Spacing
import RasterAlgebra.Proofs.Formula.Viability
import RasterAlgebra.Proofs.Formula.FirstWrong
import RasterAlgebra.Proofs.FileSource.Layouts
import RasterAlgebra.Proofs.Algebra.BitTest
import RasterAlgebra.Proofs.Evaluation.Provenance
import RasterAlgebra.Proofs.Formula.Rendering
import RasterAlgebra.Proofs.Evaluation.Blocks
import RasterAlgebra.Proofs.FileSource.Confinement
import RasterAlgebra.Proofs.Grid.Rows
import RasterAlgebra.Proofs.CommandLine.Ending
import RasterAlgebra.Proofs.Formula.Progress
