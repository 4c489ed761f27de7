import FormChain.Calendar.Date
import FormChain.Calendar.Directive
import FormChain.Calendar.Format
import FormChain.Calendar.Layout
import FormChain.Chain.Collecting
import FormChain.Chain.Effect
import FormChain.Chain.Error
import FormChain.Chain.Items
import FormChain.Chain.Loop
import FormChain.Chain.Run
import FormChain.Chain.Scope
import FormChain.Chain.Script
import FormChain.Chain.State
import FormChain.Chain.Step
import FormChain.Chain.Transform
import FormChain.Chain.Unattended
import FormChain.CommandLine.Arguments
import FormChain.CommandLine.EnvFile
import FormChain.CommandLine.Host
import FormChain.CommandLine.Report
import FormChain.Condition.Comparison
import FormChain.Condition.FileText
import FormChain.Condition.Filter
import FormChain.Config
import FormChain.Decimal.Integer
import FormChain.Decimal.Real
import FormChain.Decimal.Shortest
import FormChain.Form.Basic
import FormChain.Form.Complaint
import FormChain.Form.Decode
import FormChain.Form.LoopVariable
import FormChain.Form.Reader
import FormChain.Form.Schema
import FormChain.Form.Spelling
import FormChain.Form.Validation
import FormChain.Form.VariableName
import FormChain.Form.Words
import FormChain.Form.Writer
import FormChain.Json.Document
import FormChain.Json.Outline
import FormChain.Json.Reader
import FormChain.Keyed
import FormChain.Main
import FormChain.Pattern.Basic
import FormChain.Pattern.CharSet
import FormChain.Pattern.Parser
import FormChain.Proofs.Calendar.Chronology
import FormChain.Proofs.Calendar.DayCount
import FormChain.Proofs.Calendar.Formats
import FormChain.Proofs.Calendar.Layouts
import FormChain.Proofs.Calendar.Readings
import FormChain.Proofs.Calendar.Timestamps
import FormChain.Proofs.Chain.Adequacy
import FormChain.Proofs.Chain.Bindings
import FormChain.Proofs.Chain.Breaks
import FormChain.Proofs.Chain.Cancellation
import FormChain.Proofs.Chain.Checked
import FormChain.Proofs.Chain.Collected
import FormChain.Proofs.Chain.Commons
import FormChain.Proofs.Chain.Conditions
import FormChain.Proofs.Chain.Conduct
import FormChain.Proofs.Chain.Context
import FormChain.Proofs.Chain.Control
import FormChain.Proofs.Chain.Counting
import FormChain.Proofs.Chain.Decoding
import FormChain.Proofs.Chain.Depth
import FormChain.Proofs.Chain.Effort
import FormChain.Proofs.Chain.Failure
import FormChain.Proofs.Chain.Frames
import FormChain.Proofs.Chain.Gathering
import FormChain.Proofs.Chain.Grouping
import FormChain.Proofs.Chain.Inserting
import FormChain.Proofs.Chain.Iterations
import FormChain.Proofs.Chain.Nesting
import FormChain.Proofs.Chain.Overtaking
import FormChain.Proofs.Chain.Pages
import FormChain.Proofs.Chain.Recovery
import FormChain.Proofs.Chain.Renaming
import FormChain.Proofs.Chain.Reopening
import FormChain.Proofs.Chain.Requests
import FormChain.Proofs.Chain.Retries
import FormChain.Proofs.Chain.Rules
import FormChain.Proofs.Chain.Scope
import FormChain.Proofs.Chain.Sight
import FormChain.Proofs.Chain.Slugs
import FormChain.Proofs.Chain.Writing
import FormChain.Proofs.CommandLine.ExitCode
import FormChain.Proofs.Condition.Testing
import FormChain.Proofs.Decimal.Digits
import FormChain.Proofs.Form.Fields
import FormChain.Proofs.Form.Legible
import FormChain.Proofs.Form.Origin
import FormChain.Proofs.Form.Places
import FormChain.Proofs.Form.Reading
import FormChain.Proofs.Form.References
import FormChain.Proofs.Form.Rereading
import FormChain.Proofs.Form.Visits
import FormChain.Proofs.Form.WellFormed
import FormChain.Proofs.Script.Likeness
import FormChain.Proofs.Script.Rehearsed
import FormChain.Proofs.Script.Run
import FormChain.Proofs.Session.Armed
import FormChain.Proofs.Session.Custody
import FormChain.Proofs.Session.Deadline
import FormChain.Proofs.Session.Foreign
import FormChain.Proofs.Session.Ledger
import FormChain.Proofs.Submission.Keeping
import FormChain.Proofs.Submission.Launching
import FormChain.Proofs.Submission.Lookup
import FormChain.Proofs.Submission.Notices
import FormChain.Proofs.Submission.Overlap
import FormChain.Proofs.Submission.Required
import FormChain.Proofs.Submission.Service
import FormChain.Proofs.Template.Expansion
import FormChain.Proofs.Template.Named
import FormChain.Proofs.Template.Pieces
import FormChain.Proofs.Template.Plain
import FormChain.Proofs.Template.Shadowing
import FormChain.Proofs.Text.Bytes
import FormChain.Proofs.Unicode.Letters
import FormChain.Proofs.Unicode.Lowering
import FormChain.Proofs.Value.Comparing
import FormChain.Proofs.Value.Distance
import FormChain.Proofs.Value.FileTexts
import FormChain.Proofs.Value.Integers
import FormChain.Proofs.Value.LooseEquality
import FormChain.Proofs.Value.Rounding
import FormChain.Proofs.Vault.Alike
import FormChain.Proofs.Vault.Confinement
import FormChain.Proofs.Vault.Fences
import FormChain.Proofs.Vault.Files
import FormChain.Proofs.Vault.Frontmatter
import FormChain.Proofs.Vault.Growth
import FormChain.Proofs.Vault.Mirror
import FormChain.Proofs.Vault.Naming
import FormChain.Proofs.Vault.Numbering
import FormChain.Proofs.Vault.Paths
import FormChain.Proofs.Vault.Placing
import FormChain.Proofs.Vault.Tree
import FormChain.Proofs.Vault.Upkeep
import FormChain.Rehearsal.Chain
import FormChain.Rehearsal.CommandLine
import FormChain.Rehearsal.Schedule
import FormChain.Rehearsal.Service
import FormChain.Rehearsal.World
import FormChain.Session.Desk
import FormChain.Session.Ledger
import FormChain.Submission.Answers
import FormChain.Submission.Basic
import FormChain.Template.Basic
import FormChain.Template.Environment
import FormChain.Template.Random
import FormChain.Text.Base64
import FormChain.Text.Blank
import FormChain.Text.Pieces
import FormChain.Text.Quotation
import FormChain.Text.Utf8
import FormChain.Unicode.Alphabetic
import FormChain.Unicode.CaseOrbit
import FormChain.Unicode.Category
import FormChain.Unicode.LetterCase
import FormChain.Unicode.Printable
import FormChain.Unicode.Property
import FormChain.Unicode.RangeTable
import FormChain.Unicode.Script
import FormChain.Value.Basic
import FormChain.Value.Coercion
import FormChain.Value.Json
import FormChain.Value.Path
import FormChain.Vault.Basic
import FormChain.Vault.Disk
import FormChain.Vault.Edit
import FormChain.Vault.Error
import FormChain.Vault.Frontmatter
import FormChain.Vault.Memory
import FormChain.Vault.Naming
import FormChain.Vault.Path
import FormChain.Vault.Request
