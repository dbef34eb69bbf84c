import Precommit.Main
import Precommit.Proofs.Pattern.Resumption
import Precommit.Proofs.Rule.Firing
import Precommit.Proofs.Text.DebugBlock
import Precommit.Proofs.Outcome
import Precommit.Proofs.Rule.Assembly
import Precommit.Proofs.Check.Breach
import Precommit.Proofs.Audit.TextFindings
import Precommit.Proofs.Audit.Independence
import Precommit.Proofs.Audit.Provenance
import Precommit.Proofs.Pattern.Room
import Precommit.Proofs.Pattern.PlanRoom
import Precommit.Proofs.Pattern.LiteralText
import Precommit.Proofs.Rule.Subject
import Precommit.Proofs.Rule.Builtin
import Precommit.Proofs.CommandLine
import Precommit.Proofs.Directory
import Precommit.Proofs.Run
import Precommit.Proofs.Pattern.Overflow
import Precommit.Proofs.Text.LineBreaks
import Precommit.Proofs.Audit.LineBreaks
import Precommit.Proofs.Audit.Exemption
import Precommit.Proofs.Pattern.Composition
import Precommit.Proofs.Rule.Grammar
import Precommit.Proofs.Path
import Precommit.Proofs.Walk
import Precommit.Proofs.Audit.Pruning
import Precommit.Proofs.Entries
import Precommit.Proofs.CommandLine.Spelling
import Precommit.Proofs.Json.Reader
import Precommit.Proofs.Text.Boundaries
import Precommit.Proofs.Text.ScannedLines
import Precommit.Proofs.Audit.InvalidBytes
import Precommit.Proofs.Text.Decimal
import Precommit.Proofs.Json.RoundTrip
import Precommit.Proofs.Policy.Written
import Precommit.Proofs.Report.Json
import Precommit.Proofs.Audit.PolicySets
import Precommit.Proofs.Insertion
import Precommit.Proofs.Audit.Growth
import Precommit.Proofs.Audit.FurtherPhrases
import Precommit.Proofs.Audit.MatchModes
import Precommit.Proofs.Pattern.LeadingText
import Precommit.Proofs.Audit.CommentedLine
import Precommit.Proofs.Pattern.SurroundingText
import Precommit.Proofs.Text.Trim
import Precommit.Proofs.Audit.Indentation
import Precommit.Proofs.PrintedPaths
import Precommit.Proofs.WalkedPaths
import Precommit.Proofs.WiderPolicies
import Precommit.Proofs.Report.Groups
import Precommit.Proofs.Report.Text
import Precommit.Proofs.Audit.SetupFaults
import Precommit.Proofs.Policy.Decoding
import Precommit.Proofs.CommandLine.WellFormed
import Precommit.Proofs.Text.DebugNesting
import Precommit.Proofs.Pattern.Language
import Precommit.Proofs.Check.ForceUnwrap
import Precommit.Proofs.Unicode.CaseFolding
import Precommit.Proofs.Check.LineByLine
import Precommit.Proofs.Check.Secrets
import Precommit.Proofs.Check.JoinedTexts
import Precommit.Proofs.Text.ByteOrder
import Precommit.Proofs.WalkOrder
import Precommit.Proofs.FirstLine
import Precommit.Proofs.Text.Words
import Precommit.Proofs.Pattern.WordEdges
import Precommit.Proofs.Check.DebugCalls
import Precommit.Proofs.Check.BannedApis
import Precommit.Proofs.Text.Conditionals
import Precommit.Proofs.Glob.Subtrees
import Precommit.Proofs.Audit.ExemptPaths
import Precommit.Proofs.Audit.ReportedGroups
import Precommit.Proofs.Pattern.Respelling
import Precommit.Proofs.Check.Respelling
import Precommit.Proofs.HerePaths
import Precommit.Proofs.Audit.Excerpts
import Precommit.Proofs.Check.UnwrappedLiterals
import Precommit.Proofs.Check.QuotedKeys
