import Lisplet.CommandLine.Files
import Lisplet.CommandLine.Flags
import Lisplet.CommandLine.Run
import Lisplet.Decimal.Basic
import Lisplet.Decimal.Text
import Lisplet.Diagnostic
import Lisplet.Evaluation.Basic
import Lisplet.Evaluation.Builtin
import Lisplet.Evaluation.Error
import Lisplet.Evaluation.SpecialForm
import Lisplet.Evaluation.World
import Lisplet.Forest
import Lisplet.Main
import Lisplet.Node.Basic
import Lisplet.Node.Equality
import Lisplet.Node.Payload
import Lisplet.Node.Text
import Lisplet.Piece
import Lisplet.Position
import Lisplet.Primitive
import Lisplet.Program
import Lisplet.Scan
import Lisplet.Session
import Lisplet.Source
import Lisplet.Store
import Lisplet.SymbolTable
import Lisplet.Text.Blank
import Lisplet.Text.CharRange
import Lisplet.Text.Digit
import Lisplet.Text.Graphic
import Lisplet.Text.Letter
import Lisplet.Text.Lines
import Lisplet.Text.Quoted
import Lisplet.Token
import Lisplet.Proofs.Arithmetic
import Lisplet.Proofs.Decimal.Text
import Lisplet.Proofs.Reading.Delivery
import Lisplet.Proofs.Reading.Grammar
import Lisplet.Proofs.Reading.Lexeme
import Lisplet.Proofs.Simulation.Likeness
import Lisplet.Proofs.Reading.RoundTrip
import Lisplet.Proofs.Simulation.Effect
import Lisplet.Proofs.Simulation.Evaluation
import Lisplet.Proofs.Reformatting
import Lisplet.Proofs.Isolation
import Lisplet.Proofs.Reading.Cutting
import Lisplet.Proofs.ScopeOwnership
import Lisplet.Proofs.Discipline.Effect
import Lisplet.Proofs.Reading.Verdict
import Lisplet.Proofs.Discipline.Evaluation
import Lisplet.Proofs.Discipline.Regime
import Lisplet.Proofs.Integrity
import Lisplet.Proofs.LetApplication
import Lisplet.Proofs.Congruence
import Lisplet.Proofs.FailingSink
import Lisplet.Proofs.TypeSafety
import Lisplet.Proofs.ErrorPlaces
import Lisplet.Proofs.Termination
import Lisplet.Proofs.Reading.Places
import Lisplet.Proofs.Reading.Joining
import Lisplet.Proofs.Reading.SyntaxErrors
import Lisplet.Proofs.TokenOrigin
import Lisplet.Proofs.JoinedPrograms
import Lisplet.Proofs.Resuming
import Lisplet.Proofs.Updates
import Lisplet.Proofs.Reading.Spacing
import Lisplet.Proofs.Reading.Defects
import Lisplet.Proofs.Reading.BreakingOff
import Lisplet.Proofs.Reflection
import Lisplet.Proofs.PrimitiveResults
import Lisplet.Proofs.Equality
import Lisplet.Proofs.SharedNodes
import Lisplet.Proofs.NumberOrder
import Lisplet.Proofs.Remainder
import Lisplet.Proofs.Reading.SymbolNames
import Lisplet.Proofs.Splicing
import Lisplet.Proofs.FailedCalls
import Lisplet.Proofs.ArithmeticFolds
