import Wiring.Graph.Dot
import Wiring.Graph.Tree
import Wiring.PackageIndex
import Wiring.Document.Readers
import Wiring.Format
import Wiring.Config
import Wiring.Files.Tree
import Wiring.IndexFiles
import Wiring.Module
import Wiring.Generation
import Wiring.Command
import Wiring.CommandLine
import Wiring.Main
import Wiring.Proofs.Success
import Wiring.Proofs.Sharing
import Wiring.Proofs.Structure
import Wiring.Proofs.BindingOrder
import Wiring.Proofs.Economy
import Wiring.Proofs.Nesting
import Wiring.Proofs.Drafting
import Wiring.Proofs.Writing
import Wiring.Proofs.Evaluation
import Wiring.Proofs.Execution
import Wiring.Proofs.Meaning
import Wiring.Proofs.Scoping
import Wiring.Proofs.Importing
import Wiring.Proofs.Spelling
import Wiring.Proofs.Typing
import Wiring.Proofs.Hygiene
import Wiring.Proofs.Consultation
import Wiring.Proofs.Reordering
import Wiring.Proofs.Cycles
import Wiring.Proofs.ErrorResult
import Wiring.Proofs.Substitution
import Wiring.Proofs.Capture
import Wiring.Proofs.Indexing
import Wiring.Proofs.Signature
import Wiring.Proofs.Descent
import Wiring.Proofs.Indirection
import Wiring.Proofs.Listing
import Wiring.Proofs.Printout
import Wiring.Proofs.References
import Wiring.Proofs.Search
import Wiring.Proofs.Directories
import Wiring.Proofs.Loops
import Wiring.Proofs.Recording
import Wiring.Proofs.CommandReferences
import Wiring.Proofs.Documents
import Wiring.Proofs.RelativePaths
import Wiring.Proofs.DirectorySpellings
import Wiring.Proofs.Reuse
import Wiring.Proofs.Identifiers
import Wiring.Proofs.Registering
import Wiring.Proofs.FreshNames
