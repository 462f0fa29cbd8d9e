import KeywordFinder.Main
import KeywordFinder.Proofs.Line.Forms
import KeywordFinder.Proofs.Line.Fragments
import KeywordFinder.Proofs.Line.Precedence
import KeywordFinder.Proofs.Text.Utf8
import KeywordFinder.Proofs.Scan.Lines
import KeywordFinder.Proofs.Scan.Report
import KeywordFinder.Proofs.Scan.Delivery
import KeywordFinder.Proofs.Scan.FailingSink
import KeywordFinder.Proofs.Files.Entries
import KeywordFinder.Proofs.Walk.Visits
import KeywordFinder.Proofs.Walk.Files
import KeywordFinder.Proofs.Search.Checks
import KeywordFinder.Proofs.Search.Outcome
import KeywordFinder.Proofs.Line.LastUse
import KeywordFinder.Proofs.Line.Declarations
import KeywordFinder.Proofs.Line.Assignments
import KeywordFinder.Proofs.Line.Exclusion
import KeywordFinder.Proofs.Line.IgnoringCase
import KeywordFinder.Proofs.Display.Commands
import KeywordFinder.Proofs.Walk.Absence
import KeywordFinder.Proofs.Scan.Hits
import KeywordFinder.Proofs.Search.Comparison
import KeywordFinder.Proofs.Search.Display
import KeywordFinder.Proofs.Files.Resolution
import KeywordFinder.Proofs.Walk.Spelling
import KeywordFinder.Proofs.Files.Discovery
import KeywordFinder.Proofs.Search.Spelling
import KeywordFinder.Proofs.Display.Terminal
import KeywordFinder.Proofs.Files.NearestConfig
import KeywordFinder.Proofs.Glob.Assembly
import KeywordFinder.Proofs.Glob.Excludes
import KeywordFinder.Proofs.Walk.ExcludePatterns
import KeywordFinder.Proofs.Config.Extensions
import KeywordFinder.Proofs.Walk.Repositories
import KeywordFinder.Proofs.Config.Choices
import KeywordFinder.Proofs.CommandLine.Spelling
import KeywordFinder.Proofs.Config.Excludes
import KeywordFinder.Proofs.CommandLine.Reading
