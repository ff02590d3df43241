import SyntaxGraph.Main
import SyntaxGraph.Proofs.Associations
import SyntaxGraph.Proofs.Building
import SyntaxGraph.Proofs.Comments.Unit
import SyntaxGraph.Proofs.Command
import SyntaxGraph.Proofs.Composition
import SyntaxGraph.Proofs.Diagnostics
import SyntaxGraph.Proofs.Extraction.Recovery
import SyntaxGraph.Proofs.Extraction.Stores
import SyntaxGraph.Proofs.Labels
import SyntaxGraph.Proofs.Positions
import SyntaxGraph.Proofs.Ranks
import SyntaxGraph.Proofs.Records
import SyntaxGraph.Proofs.Registry
import SyntaxGraph.Proofs.Settings.Roundtrip
import SyntaxGraph.Proofs.Statistics
import SyntaxGraph.Proofs.Switches
import SyntaxGraph.Proofs.Validation
