import OperationTree.Assembly
import OperationTree.Kind.Decode
import OperationTree.Main
import OperationTree.Query
import OperationTree.Walk.Script
import OperationTree.Walk.ThreadedScript
import OperationTree.Writing
import OperationTree.Proofs.Reading.Acceptance
import OperationTree.Proofs.RoundTrip
import OperationTree.Proofs.Program
import OperationTree.Proofs.Walk.GuardSoundness
import OperationTree.Proofs.Walk.Recorder
import OperationTree.Proofs.Walk.Engines
import OperationTree.Proofs.Walk.FirstFailure
import OperationTree.Proofs.Walk.Selection
import OperationTree.Proofs.Walk.Consumers
import OperationTree.Proofs.Walk.Trail
import OperationTree.Proofs.Walk.Census
import OperationTree.Proofs.Walk.Shape
import OperationTree.Proofs.Walk.Blame
import OperationTree.Proofs.Walk.Tolerance
import OperationTree.Proofs.Walk.Brackets
import OperationTree.Proofs.Walk.Scope
import OperationTree.Proofs.Walk.Folding
import OperationTree.Proofs.Walk.Budget
import OperationTree.Proofs.Delimited
import OperationTree.Proofs.Reading.SpanFaults
import OperationTree.Proofs.Reading.KindFaults
import OperationTree.Proofs.Reading.Precedence
import OperationTree.Proofs.Walk.OutlineLines
import OperationTree.Proofs.Report.Place
import OperationTree.Proofs.Spans
import OperationTree.Proofs.Teardown
import OperationTree.Proofs.Walk.Descent
import OperationTree.Proofs.Files.Discovery
