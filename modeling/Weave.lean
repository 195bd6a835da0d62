import Weave.Main
import Weave.Notebook.Decode
import Weave.Proofs.Artifact.Agreement
import Weave.Proofs.Artifact.Reread
import Weave.Proofs.Chunk.Image
import Weave.Proofs.Chunk.Junction
import Weave.Proofs.CommandLine.Contract
import Weave.Proofs.CommandLine.Fence
import Weave.Proofs.CommandLine.Notebook
import Weave.Proofs.CommandLine.Preview
import Weave.Proofs.Conversion.Destination
import Weave.Proofs.Conversion.Execution
import Weave.Proofs.Conversion.Order
import Weave.Proofs.Conversion.Source
import Weave.Proofs.FileTree.Removal
import Weave.Proofs.Notebook.Injectivity
import Weave.Proofs.Notebook.RoundTrip
import Weave.Proofs.Report.Dump
import Weave.Proofs.Report.Table
import Weave.Proofs.Source.Endings
import Weave.Proofs.Source.Naming
import Weave.Proofs.Source.Pairing
import Weave.Proofs.Source.Repetition
import Weave.Proofs.Source.Tailoring
