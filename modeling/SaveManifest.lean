import SaveManifest.Yaml.ScalarText
import SaveManifest.Yaml.Token
import SaveManifest.Yaml.Printer
import SaveManifest.Discovery
import SaveManifest.Refresh
import SaveManifest.Main
import SaveManifest.Template.Document
import SaveManifest.Template.Parser
import SaveManifest.Path.Applicability
import SaveManifest.Path.Denylist
import SaveManifest.Path.Resolution
import SaveManifest.Record
import SaveManifest.Text.Blank
import SaveManifest.Text.Capital
import SaveManifest.Text.Number
import SaveManifest.Proofs.Path.Marker
import SaveManifest.Proofs.Path.Substitution
import SaveManifest.Proofs.Path.Confluence
import SaveManifest.Proofs.Template.Paired
import SaveManifest.Proofs.Template.RoundTrip
import SaveManifest.Proofs.Template.Insides
import SaveManifest.Proofs.Template.Comments
import SaveManifest.Proofs.Template.Pieces
import SaveManifest.Proofs.Template.Separator
import SaveManifest.Proofs.Template.Positions
import SaveManifest.Proofs.Template.Places
import SaveManifest.Proofs.Template.Unnamed
import SaveManifest.Proofs.Path.Braces
import SaveManifest.Proofs.Template.Balance
import SaveManifest.Proofs.Extraction.Accounting
import SaveManifest.Proofs.Cache
import SaveManifest.Proofs.Cache.File
import SaveManifest.Proofs.Refresh.InStep
import SaveManifest.Proofs.Refresh.Effect
import SaveManifest.Proofs.Refresh.Pending
import SaveManifest.Proofs.Refresh.Report
import SaveManifest.Proofs.Record
import SaveManifest.Proofs.Path.Separators
import SaveManifest.Proofs.Extraction.Entries
import SaveManifest.Proofs.Extraction.Homomorphism
import SaveManifest.Proofs.Path.Resolved
import SaveManifest.Proofs.Extraction.WellFormed
import SaveManifest.Proofs.Extraction.Order
import SaveManifest.Proofs.Yaml.Passage
import SaveManifest.Proofs.Yaml.Plain
import SaveManifest.Proofs.FileSystem
import SaveManifest.Proofs.FileSystem.Directories
import SaveManifest.Proofs.Storage.Changes
import SaveManifest.Proofs.CommandLine.Persistence
import SaveManifest.Proofs.Manifest
import SaveManifest.Proofs.Path.Unknown
import SaveManifest.Proofs.Path.Final
import SaveManifest.Proofs.Path.Segments
import SaveManifest.Proofs.Path.SelfReference
import SaveManifest.Proofs.Extraction.Tightening
import SaveManifest.Proofs.CommandLine.Foresight
import SaveManifest.Proofs.Path.Denylist
import SaveManifest.Proofs.Wiki.Attempts
import SaveManifest.Proofs.Wiki.Batches
import SaveManifest.Proofs.Wiki.Answers
import SaveManifest.Proofs.Discovery
