import Reparse.CommandLine
import Reparse.Main
import Reparse.Proofs.Description.Building
import Reparse.Proofs.Document.Commutation
import Reparse.Proofs.Document.Deletion
import Reparse.Proofs.Grammar.Concatenation
import Reparse.Proofs.Grammar.LeastSets
import Reparse.Proofs.Grammar.LeftmostDerivation
import Reparse.Proofs.Parser.Completeness
import Reparse.Proofs.Parser.Containment
import Reparse.Proofs.Parser.Foresight
import Reparse.Proofs.Parser.Strictness
import Reparse.Proofs.Parser.Transparency
import Reparse.Proofs.Session.Refinement
import Reparse.Proofs.Document.Alignment
import Reparse.Proofs.Document.Difference
import Reparse.Proofs.Tree.Addresses
import Reparse.Proofs.Tree.DocumentOrder
import Reparse.Proofs.Tree.TokenSpans
import Reparse.Proofs.Parse.Reached
import Reparse.Proofs.Parse.TokenOrder
import Reparse.Proofs.Parse.Covering
import Reparse.Proofs.Parse.Outline
import Reparse.Proofs.Parse.Diagnosis
import Reparse.Proofs.Document.Resolution
import Reparse.Proofs.Document.Tiling
import Reparse.Proofs.Parser.Unread
import Reparse.Proofs.Parser.Skipping
import Reparse.Proofs.Parser.Inertness
import Reparse.Proofs.Parser.Progress
