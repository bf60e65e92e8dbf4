import Lox.Main
import Lox.Routine.Meaning
import Lox.Proofs.Lexical.Agreement
import Lox.Proofs.Scope.Acceptance
import Lox.Proofs.Scope.Table
import Lox.Proofs.Grammar.Derivation
import Lox.Proofs.Grammar.Progress
import Lox.Proofs.Grammar.Promise
import Lox.Proofs.Grammar.Sound.Expression
import Lox.Proofs.Grammar.Sound.Statement
import Lox.Proofs.Grammar.Soundness
import Lox.Proofs.Grammar.Arrival
import Lox.Proofs.Grammar.Start
import Lox.Proofs.Grammar.Complete.Expression
import Lox.Proofs.Grammar.Complete.Statement
import Lox.Proofs.Grammar.Completeness
import Lox.Proofs.Token.Spelling
import Lox.Proofs.Token.Lexeme
import Lox.Proofs.Token.LongestMatch
import Lox.Proofs.Grammar.Formed
import Lox.Proofs.Session.Loading
import Lox.Proofs.Session.History
import Lox.Proofs.Session.Defect
import Lox.Proofs.Session.Frames
import Lox.Proofs.Session.Lexical
import Lox.Proofs.Session.Methods
import Lox.Proofs.Alike.Scope
import Lox.Proofs.Routine.Similar
import Lox.Proofs.Alike.Relabel
import Lox.Proofs.Alike.State
import Lox.Proofs.Alike.Evaluation
import Lox.Proofs.Alike.Parser
import Lox.Proofs.Session.Matched
import Lox.Proofs.Alike.Scanner
import Lox.Proofs.Session.Deletion
import Lox.Proofs.Grammar.Sequence
import Lox.Proofs.Scope.Sequence
import Lox.Proofs.Evaluation.Sequence
import Lox.Proofs.Session.Joined
import Lox.Proofs.Session.Sequence
import Lox.Proofs.Tree.Contents
import Lox.Proofs.Routine.Contract
import Lox.Proofs.Routine.Nesting
import Lox.Proofs.Evaluation.Realm
import Lox.Proofs.Evaluation.Confined
import Lox.Proofs.Evaluation.Reach
import Lox.Proofs.Evaluation.Bounded
import Lox.Proofs.Grammar.LoopFree
import Lox.Proofs.Session.Expression
import Lox.Proofs.Session.Host
import Lox.Proofs.Session.Loopless
import Lox.Proofs.Session.Printing
import Lox.Proofs.Routine.Conclusion
import Lox.Proofs.Evaluation.Output
import Lox.Proofs.Evaluation.Limited
import Lox.Proofs.Session.Overflow
import Lox.Proofs.Scope.Surroundings
import Lox.Proofs.Grammar.Orderly
import Lox.Proofs.Scope.Survey
import Lox.Proofs.Scope.Coverage
import Lox.Proofs.Scope.Verdict
import Lox.Proofs.Evaluation.Registers
import Lox.Proofs.Session.Registers
import Lox.Proofs.Evaluation.Unwinding
import Lox.Proofs.Evaluation.Delivery
import Lox.Proofs.Session.Returns
import Lox.Proofs.Grammar.Move
import Lox.Proofs.Grammar.Position
import Lox.Proofs.Grammar.Relaxed
import Lox.Proofs.Grammar.Strict
import Lox.Proofs.Grammar.Violations
import Lox.Proofs.Grammar.Segment
import Lox.Proofs.Grammar.Recovery
import Lox.Proofs.Routine.Growth
import Lox.Proofs.Evaluation.Receiver
import Lox.Proofs.Evaluation.Initializer
import Lox.Proofs.Session.Initializer
import Lox.Proofs.Heap.Distance
import Lox.Proofs.Heap.Graph
import Lox.Proofs.Value
import Lox.Proofs.Token.Stretch
import Lox.Proofs.Token.Respelled
import Lox.Proofs.Token.Stray
import Lox.Proofs.Number.Reading
import Lox.Proofs.Number.Shortest
import Lox.Proofs.Number.Text
import Lox.Proofs.Tree.Form
import Lox.Proofs.Tree.Printed
import Lox.Proofs.Tree.Written.Expression
import Lox.Proofs.Tree.Written.Statement
import Lox.Proofs.Tree.Constants
import Lox.Proofs.Grammar.Written
import Lox.Proofs.Session.PrintedForm
import Lox.Proofs.Routine.Onward
import Lox.Proofs.Evaluation.Graph
import Lox.Proofs.Session.Graph
import Lox.Proofs.Routine.Abreast
import Lox.Proofs.Pair.Value
import Lox.Proofs.Pair.State
import Lox.Proofs.Pair.Evaluation
import Lox.Proofs.Pair.Start
import Lox.Proofs.Evaluation.Declarations
import Lox.Proofs.Grammar.Reordering
import Lox.Proofs.Pair.Reordering
import Lox.Proofs.Session.Reordering
import Lox.Proofs.Evaluation.Loop
import Lox.Proofs.Pair.Hollow
import Lox.Proofs.Scope.Relocation
import Lox.Proofs.Scope.Listing
import Lox.Proofs.Alike.Copy
import Lox.Proofs.Scope.Clauses
import Lox.Proofs.Pair.Loop
import Lox.Proofs.Grammar.Clauses
import Lox.Proofs.Session.Loop
import Lox.Proofs.Grammar.Construction
import Lox.Proofs.Grammar.Building
import Lox.Proofs.Grammar.Build.Expression
import Lox.Proofs.Grammar.Built
import Lox.Proofs.Grammar.Process
