import ActorDiagram.Main
import ActorDiagram.Proofs.NoSilentLoss
import ActorDiagram.Proofs.Matching
import ActorDiagram.Proofs.Window
import ActorDiagram.Proofs.UnbracedChain
import ActorDiagram.Proofs.Unplaced
import ActorDiagram.Proofs.WindowDirective
import ActorDiagram.Proofs.WindowBody
import ActorDiagram.Proofs.Splice
import ActorDiagram.Proofs.Lockstep
import ActorDiagram.Proofs.LockstepScan
import ActorDiagram.Proofs.GraphAlike
import ActorDiagram.Proofs.LockstepHelper
import ActorDiagram.Proofs.Layout
import ActorDiagram.Proofs.DecisionTree
import ActorDiagram.Proofs.DecisionArms
import ActorDiagram.Proofs.DecisionReading
import ActorDiagram.Proofs.DecisionExact
import ActorDiagram.Proofs.BoundNames
import ActorDiagram.Proofs.Enclosed
import ActorDiagram.Proofs.Literals
import ActorDiagram.Proofs.GraphNodes
import ActorDiagram.Proofs.Markup
import ActorDiagram.Proofs.Answers
import ActorDiagram.Proofs.Inlining
import ActorDiagram.Proofs.Rules
import ActorDiagram.Proofs.GraphWellFormed
import ActorDiagram.Proofs.Independence
import ActorDiagram.Proofs.BracketReport
import ActorDiagram.Proofs.Concatenation
import ActorDiagram.Proofs.CommandOutcome
import ActorDiagram.Proofs.BracedBody
import ActorDiagram.Proofs.IdleBranching
import ActorDiagram.Proofs.OutputAgreement
import ActorDiagram.Proofs.TypeClause
import ActorDiagram.Proofs.TypeClosure
import ActorDiagram.Proofs.DeclarationScan
import ActorDiagram.Proofs.ScopedStates
import ActorDiagram.Proofs.StateIds
import ActorDiagram.Proofs.CallOrigin
import ActorDiagram.Proofs.Lookup
import ActorDiagram.Proofs.FollowedCalls
import ActorDiagram.Proofs.PatternLabels
import ActorDiagram.Proofs.FirstCall
import ActorDiagram.Proofs.DirectiveForms
import ActorDiagram.Proofs.LabelText
import ActorDiagram.Proofs.Positions
import ActorDiagram.Proofs.Relexing
import ActorDiagram.Proofs.UnusedIds
import ActorDiagram.Proofs.HelperBodies
import ActorDiagram.Proofs.ReadingEnds
import ActorDiagram.Proofs.FirstProblem
