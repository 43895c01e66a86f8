import PocketLisp.Client
import PocketLisp.CommandLine
import PocketLisp.Console
import PocketLisp.Environment
import PocketLisp.Eval
import PocketLisp.Fault
import PocketLisp.Json
import PocketLisp.Json.Read
import PocketLisp.Json.Write
import PocketLisp.LineBuffer
import PocketLisp.Main
import PocketLisp.Number.Basic
import PocketLisp.Number.Bits
import PocketLisp.Number.Decimal
import PocketLisp.Number.Format
import PocketLisp.Number.Literal
import PocketLisp.Primitive
import PocketLisp.Primitive.Call
import PocketLisp.Reader
import PocketLisp.Server
import PocketLisp.Session
import PocketLisp.Settings
import PocketLisp.Store
import PocketLisp.Symbol
import PocketLisp.Text.Blank
import PocketLisp.Text.Case
import PocketLisp.Text.Case.Context
import PocketLisp.Text.Case.Lower
import PocketLisp.Text.Case.Upper
import PocketLisp.Text.Digit
import PocketLisp.Text.Integer
import PocketLisp.Text.Lines
import PocketLisp.Text.Printable
import PocketLisp.Text.Quoted
import PocketLisp.Text.Range
import PocketLisp.Token
import PocketLisp.Utf8
import PocketLisp.Value
import PocketLisp.Value.Inspect
import PocketLisp.Value.Print
import PocketLisp.Value.Same
import PocketLisp.Value.Shared
import PocketLisp.Proofs.Environment
import PocketLisp.Proofs.Frame
import PocketLisp.Proofs.LineBuffer
import PocketLisp.Proofs.Data
import PocketLisp.Proofs.Soundness
import PocketLisp.Proofs.Job
import PocketLisp.Proofs.DataOnly
import PocketLisp.Proofs.Decimal
import PocketLisp.Proofs.Literal
import PocketLisp.Proofs.NumberText
import PocketLisp.Proofs.Word
import PocketLisp.Proofs.RoundTrip
import PocketLisp.Proofs.Coupling
import PocketLisp.Proofs.Globals
import PocketLisp.Proofs.Agreement
import PocketLisp.Proofs.DefinitionOrder
import PocketLisp.Proofs.BigStep
import PocketLisp.Proofs.Grammar
import PocketLisp.Proofs.Rules
import PocketLisp.Proofs.Adequacy
import PocketLisp.Proofs.Joining
import PocketLisp.Proofs.ClientStream
import PocketLisp.Proofs.JsonScalar
import PocketLisp.Proofs.JsonLimits
import PocketLisp.Proofs.RequestLines
import PocketLisp.Proofs.Relocation
import PocketLisp.Proofs.KeptStore
import PocketLisp.Proofs.Repeatable
import PocketLisp.Proofs.ServerHistory
import PocketLisp.Proofs.ConsoleServer
import PocketLisp.Proofs.ErrorKinds
import PocketLisp.Proofs.PrintCalls
import PocketLisp.Proofs.PrintedNumber
import PocketLisp.Proofs.OutputLines
import PocketLisp.Proofs.FirstFault
import PocketLisp.Proofs.Lexing
import PocketLisp.Proofs.JsonText
import PocketLisp.Proofs.ReplyFraming
import PocketLisp.Proofs.NestingRoom
import PocketLisp.Proofs.NumberOrder
import PocketLisp.Proofs.CanonicalNumber
import PocketLisp.Proofs.ArgumentBinding
import PocketLisp.Proofs.Equality
import PocketLisp.Proofs.PrintedEquality
import PocketLisp.Proofs.EnvironmentHistory
import PocketLisp.Proofs.EnvironmentSteps
import PocketLisp.Proofs.ArgumentChecks
import PocketLisp.Proofs.NumberPattern
import PocketLisp.Proofs.ReservedNames
import PocketLisp.Proofs.LetterCase
import PocketLisp.Proofs.ConsoleCuts
import PocketLisp.Proofs.ReadingPlaces
import PocketLisp.Proofs.LineBufferState
