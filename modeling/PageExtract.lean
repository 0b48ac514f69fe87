import PageExtract.Main
import PageExtract.Command.Run
import PageExtract.Proofs.Pipelines
import PageExtract.Proofs.Reloading
import PageExtract.Proofs.NamesUsed
import PageExtract.Proofs.Registrations
import PageExtract.Proofs.Records
import PageExtract.Proofs.Elementwise
import PageExtract.Proofs.DocumentOrder
import PageExtract.Proofs.SetsInData
import PageExtract.Proofs.NodeOrder
import PageExtract.Proofs.SchemaSteps
import PageExtract.Proofs.SchemaFiles
import PageExtract.Proofs.WildcardMatching
import PageExtract.Proofs.UrlPatterns
import PageExtract.Proofs.SchemaSelection
import PageExtract.Proofs.JsonNumbers
import PageExtract.Proofs.JsonReading
import PageExtract.Proofs.JsonPrinting
import PageExtract.Proofs.CommandRuns
import PageExtract.Proofs.Conversions
import PageExtract.Proofs.Confinement
import PageExtract.Proofs.Faults
import PageExtract.Proofs.Refusals
import PageExtract.Proofs.SyntaxErrors
import PageExtract.Proofs.LossyStrings
import PageExtract.Proofs.Splitting
import PageExtract.Proofs.Cuts
import PageExtract.Proofs.BinaryArithmetic
import PageExtract.Proofs.Padding
import PageExtract.Proofs.Repetition
import PageExtract.Proofs.Substrings
import PageExtract.Proofs.IntegerArguments
import PageExtract.Proofs.NumberReading
import PageExtract.Proofs.NumberTexts
import PageExtract.Proofs.NumericStrings
import PageExtract.Proofs.NearestNumbers
import PageExtract.Proofs.Equality
import PageExtract.Proofs.PageTexts
import PageExtract.Proofs.Inflation
import PageExtract.Proofs.GzipMembers
import PageExtract.Proofs.CursorReading
import PageExtract.Proofs.CursorPlaces
import PageExtract.Proofs.CursorRuns
