import TypeTest.Host.Listed
import TypeTest.Main
import TypeTest.Proofs.AddedSources
import TypeTest.Proofs.Counters
import TypeTest.Proofs.EditorAgreement
import TypeTest.Proofs.ExcerptPointing
import TypeTest.Proofs.Failure.Message
import TypeTest.Proofs.Failure.UnquotedPayload
import TypeTest.Proofs.FirstFailure
import TypeTest.Proofs.Parsing.SameLayout
import TypeTest.Proofs.Parsing.Separated
import TypeTest.Proofs.Parsing.TreeInText
import TypeTest.Proofs.Printing.RoundTrip
import TypeTest.Proofs.Received.WrittenArgument
import TypeTest.Proofs.TypeText.JoinedArguments
import TypeTest.Session.Script
import TypeTest.Proofs.AddedDiagnostics
import TypeTest.Proofs.QuietReport
import TypeTest.Proofs.Isolation.AlikeFiles
import TypeTest.Proofs.Isolation.CapturedNames
import TypeTest.Proofs.Isolation.IsolatedTests
import TypeTest.Proofs.RefusedSources
import TypeTest.Proofs.PositionOrder
import TypeTest.Proofs.Parsing.StackedTexts
import TypeTest.Proofs.Parsing.TokenTiles
import TypeTest.Proofs.TypeChains
import TypeTest.Proofs.Operators.Conditional
import TypeTest.Proofs.Operators.TypeAssertion
import TypeTest.Proofs.ReturnTypes
import TypeTest.Proofs.UndeclaredNames
import TypeTest.Proofs.StringTypes
import TypeTest.Proofs.FolderSources
import TypeTest.Proofs.SyntaxErrorPlaces
import TypeTest.Proofs.Selection.DefaultFiles
import TypeTest.Proofs.Parsing.ParserStates
