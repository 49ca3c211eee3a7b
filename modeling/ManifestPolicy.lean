import ManifestPolicy.SortedMap
import ManifestPolicy.Text.Blank
import ManifestPolicy.Text.Utf8
import ManifestPolicy.Decimal.Shortest
import ManifestPolicy.Json.Printer
import ManifestPolicy.Json.Draft
import ManifestPolicy.Json.Token
import ManifestPolicy.Json.Reader
import ManifestPolicy.Operation
import ManifestPolicy.Request
import ManifestPolicy.Review
import ManifestPolicy.Validation
import ManifestPolicy.FileTree.Basic
import ManifestPolicy.FileTree.Walk
import ManifestPolicy.Yaml.ScalarText
import ManifestPolicy.Yaml.Token
import ManifestPolicy.Yaml.Node
import ManifestPolicy.Yaml.Value
import ManifestPolicy.Yaml.Printer
import ManifestPolicy.Unicode.CaseFolding
import ManifestPolicy.Pattern.Expression
import ManifestPolicy.Pattern.Weight
import ManifestPolicy.Pattern.Bracket
import ManifestPolicy.Pattern.Reader
import ManifestPolicy.Focus
import ManifestPolicy.Yaml.Decode
import ManifestPolicy.Allowlist.Directory
import ManifestPolicy.ManifestDirectory
import ManifestPolicy.Configuration
import ManifestPolicy.LogFilter
import ManifestPolicy.Arguments.Reader
import ManifestPolicy.TokenSource
import ManifestPolicy.Client
import ManifestPolicy.Main
import ManifestPolicy.Proofs.Polling.Rotation
import ManifestPolicy.Proofs.Polling.Places
import ManifestPolicy.Proofs.Polling.Accounts
import ManifestPolicy.Proofs.Polling.Timing
import ManifestPolicy.Proofs.Polling.Names
import ManifestPolicy.Proofs.Polling.Passes
import ManifestPolicy.Proofs.Polling.Stopping
import ManifestPolicy.Proofs.Polling.Pacing
import ManifestPolicy.Proofs.Polling.Rounds
import ManifestPolicy.Proofs.Submission
import ManifestPolicy.Proofs.SortedMap
import ManifestPolicy.Proofs.Traversal
import ManifestPolicy.Proofs.Json.Value
import ManifestPolicy.Proofs.Json.Record
import ManifestPolicy.Proofs.Violation
import ManifestPolicy.Proofs.Operation
import ManifestPolicy.Proofs.FileTree
import ManifestPolicy.Proofs.Yaml.Cursor
import ManifestPolicy.Proofs.Review
import ManifestPolicy.Proofs.Review.Count
import ManifestPolicy.Proofs.Review.Repeats
import ManifestPolicy.Proofs.Review.Batches
import ManifestPolicy.Proofs.Review.Extension
import ManifestPolicy.Proofs.Review.Records
import ManifestPolicy.Proofs.Review.RecordNames
import ManifestPolicy.Proofs.Validation.Calls
import ManifestPolicy.Proofs.Validation.Verdict
import ManifestPolicy.Proofs.Validation.Soundness
import ManifestPolicy.Proofs.Validation.Findings
import ManifestPolicy.Proofs.Yaml.ScalarText
import ManifestPolicy.Proofs.Yaml.Moved
import ManifestPolicy.Proofs.Yaml.Stops
import ManifestPolicy.Proofs.Yaml.TagText
import ManifestPolicy.Proofs.Yaml.Reaching
import ManifestPolicy.Proofs.Yaml.Setting
import ManifestPolicy.Proofs.Yaml.Lexing
import ManifestPolicy.Proofs.Yaml.Taking
import ManifestPolicy.Proofs.Yaml.Running
import ManifestPolicy.Proofs.Yaml.Joining
import ManifestPolicy.Proofs.Yaml.Documents
import ManifestPolicy.Proofs.Yaml.Lines
import ManifestPolicy.Proofs.Yaml.Printer
import ManifestPolicy.Proofs.Allowlist.Keys
import ManifestPolicy.Proofs.Allowlist.Loading
import ManifestPolicy.Proofs.Allowlist.Accepting
import ManifestPolicy.Proofs.Base64
import ManifestPolicy.Proofs.ManifestDirectory
import ManifestPolicy.Proofs.Text.Utf8
import ManifestPolicy.Proofs.FileTree.Walk
import ManifestPolicy.Proofs.FileTree.Resolving
import ManifestPolicy.Proofs.FileTree.Saving
import ManifestPolicy.Proofs.ManifestDirectory.Partition
import ManifestPolicy.Proofs.ManifestDirectory.Files
import ManifestPolicy.Proofs.Allowlist.Lookup
import ManifestPolicy.Proofs.Base64.Canonical
import ManifestPolicy.Proofs.Request
import ManifestPolicy.Proofs.Submission.Prefix
import ManifestPolicy.Proofs.Text.Blank
import ManifestPolicy.Proofs.Duration
import ManifestPolicy.Proofs.Duration.Refusal
import ManifestPolicy.Proofs.Focus
import ManifestPolicy.Proofs.Json.Quoted
import ManifestPolicy.Proofs.Client
import ManifestPolicy.Proofs.Client.Session
