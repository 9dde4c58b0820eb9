import ClientGen.Main
import ClientGen.Proofs.Mention
import ClientGen.Session
import ClientGen.Proofs.Assembly
import ClientGen.Proofs.Rollback
import ClientGen.Proofs.Emission
import ClientGen.Proofs.Generation
import ClientGen.Proofs.Characters
import ClientGen.Proofs.TransportName
import ClientGen.Proofs.Docstring
import ClientGen.Proofs.Layout
import ClientGen.Proofs.Ambiguity
import ClientGen.Proofs.WireNames
import ClientGen.Proofs.OperationOrder
import ClientGen.Proofs.Annotation
import ClientGen.Proofs.ReplacedImports
import ClientGen.Descriptor
import ClientGen.Proofs.Failures
import ClientGen.Proofs.Entries
import ClientGen.Proofs.LeadingDots
import ClientGen.Proofs.Overrides
import ClientGen.Proofs.Alike
import ClientGen.Proofs.Utf8
import ClientGen.Proofs.JsonScan
import ClientGen.Proofs.JsonText
import ClientGen.Proofs.CodeNames
import ClientGen.Proofs.Keywords
import ClientGen.Proofs.Checks
import ClientGen.Proofs.ParameterNames
import ClientGen.Proofs.DocstringContent
import ClientGen.Proofs.LineWidth
import ClientGen.Proofs.Reassembly
import ClientGen.Proofs.LookUp
import ClientGen.Proofs.TransportCall
import ClientGen.Proofs.WrappedContent
import ClientGen.Proofs.ImportOrder
import ClientGen.Proofs.StableNames
import ClientGen.Proofs.NameLetters
import ClientGen.Proofs.ProfileOptions
import ClientGen.Proofs.DocumentFormat
