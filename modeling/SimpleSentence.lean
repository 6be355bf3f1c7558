import SimpleSentence.Analysis
import SimpleSentence.Category
import SimpleSentence.CategorySet
import SimpleSentence.CommandLine.Invocation
import SimpleSentence.CommandLine.Parsing
import SimpleSentence.CommandLine.Usage
import SimpleSentence.Csv.Lemmas
import SimpleSentence.Csv.Reader
import SimpleSentence.Csv.Writer
import SimpleSentence.Diagnostic
import SimpleSentence.Disk
import SimpleSentence.Grammar
import SimpleSentence.Json
import SimpleSentence.Lexicon
import SimpleSentence.Lexicon.Starter
import SimpleSentence.Lexicon.Table
import SimpleSentence.Main
import SimpleSentence.ParseError
import SimpleSentence.Parsing
import SimpleSentence.Report.Machine
import SimpleSentence.Report.Palette
import SimpleSentence.Report.Table
import SimpleSentence.Report.Verdict
import SimpleSentence.Session
import SimpleSentence.Snippet.Cell
import SimpleSentence.Snippet.Drawing
import SimpleSentence.Snippet.Source
import SimpleSentence.Snippet.Window
import SimpleSentence.Text.Basic
import SimpleSentence.Text.Blank
import SimpleSentence.Text.Case
import SimpleSentence.Text.Combining
import SimpleSentence.Text.Ignorable
import SimpleSentence.Text.Quoted
import SimpleSentence.Text.Range
import SimpleSentence.Text.Unassigned
import SimpleSentence.Text.Unprintable
import SimpleSentence.Text.Utf8
import SimpleSentence.Text.Utf8.Lemmas
import SimpleSentence.Text.Width
import SimpleSentence.Token
import SimpleSentence.Tree
import SimpleSentence.Word
import SimpleSentence.Proofs.Derivation
import SimpleSentence.Proofs.Production
import SimpleSentence.Proofs.Stage
import SimpleSentence.Proofs.Failure
import SimpleSentence.Proofs.Acceptance
import SimpleSentence.Proofs.FirstFailure
import SimpleSentence.Proofs.Csv.Layout
import SimpleSentence.Proofs.Csv.Reading
import SimpleSentence.Proofs.Lexicon.Invariant
import SimpleSentence.Proofs.Csv.Decoding
import SimpleSentence.Proofs.Lexicon.Reads
import SimpleSentence.Proofs.Lexicon.Loading
import SimpleSentence.Proofs.Lexicon.RoundTrip
import SimpleSentence.Proofs.Lexicon.Contents
import SimpleSentence.Proofs.Relabelling
import SimpleSentence.Proofs.Words
import SimpleSentence.Proofs.Division
import SimpleSentence.Proofs.Tagging
import SimpleSentence.Proofs.Respacing
import SimpleSentence.Proofs.Trimming
import SimpleSentence.Proofs.Text.Folding
import SimpleSentence.Proofs.Lettercase
import SimpleSentence.Proofs.Csv.Faults
import SimpleSentence.Proofs.Lexicon.Verdict
import SimpleSentence.Proofs.Snippet.Shown
import SimpleSentence.Proofs.Snippet.Pointer
import SimpleSentence.Proofs.Report.Limit
import SimpleSentence.Proofs.Report.Colour
import SimpleSentence.Proofs.Tree.Legible
import SimpleSentence.Proofs.Tree.Printed
import SimpleSentence.Proofs.Sections
import SimpleSentence.Proofs.Directory
import SimpleSentence.Proofs.Run
import SimpleSentence.Proofs.Lexicon.Consulted
import SimpleSentence.Proofs.Writing
import SimpleSentence.Proofs.Export
import SimpleSentence.Proofs.Fatal
import SimpleSentence.Proofs.Json.Legible
import SimpleSentence.Proofs.Report.Listing
import SimpleSentence.Proofs.Report.ErrorLine
import SimpleSentence.Proofs.Views
import SimpleSentence.Proofs.Report.Lossless
import SimpleSentence.Proofs.Report.File
import SimpleSentence.Proofs.CommandLine.Order
import SimpleSentence.Proofs.Message
import SimpleSentence.Proofs.Report.Alignment
import SimpleSentence.Proofs.Snippet.Range
import SimpleSentence.Proofs.Snippet.Spot
import SimpleSentence.Proofs.Snippet.Caret
import SimpleSentence.Proofs.Leftover
import SimpleSentence.Proofs.Lexicon.WriteFailure
import SimpleSentence.Proofs.Selection
import SimpleSentence.Parsing.Cursor
import SimpleSentence.Proofs.Walk
import SimpleSentence.Proofs.FiniteSet
import SimpleSentence.Proofs.Text.Beginning
import SimpleSentence.Proofs.Precedence
