import CatalogAudit.Main
import CatalogAudit.Proofs.Manifest.Catalog
import CatalogAudit.Proofs.Scan.Listing
import CatalogAudit.Proofs.Report.Findings
import CatalogAudit.Proofs.Scan.Order
import CatalogAudit.Proofs.Scan.Reported
import CatalogAudit.Proofs.Manifest.Layout.Document
import CatalogAudit.Proofs.Text.Spelled
import CatalogAudit.Proofs.Manifest.Decoding.Quoted
import CatalogAudit.Proofs.Manifest.Decoding.Passes
import CatalogAudit.Proofs.Manifest.Decoding.Scalar
import CatalogAudit.Proofs.Manifest.Decoding.Key
import CatalogAudit.Proofs.Manifest.Decoding.FlowList
import CatalogAudit.Proofs.Manifest.Decoding.Entry
import CatalogAudit.Proofs.Manifest.Layout.OneLine
import CatalogAudit.Proofs.Manifest.Decoding.Document
import CatalogAudit.Proofs.Yaml.Cursor
import CatalogAudit.Proofs.Yaml.Skipping
import CatalogAudit.Proofs.Yaml.Scalar.Quoted
import CatalogAudit.Proofs.Yaml.Scalar.Plain
import CatalogAudit.Proofs.Yaml.Token.Spot
import CatalogAudit.Proofs.Yaml.Token.Block
import CatalogAudit.Proofs.Yaml.Token.Flow
import CatalogAudit.Proofs.Manifest.Layout.Markup
import CatalogAudit.Proofs.Manifest.Markup.Passing
import CatalogAudit.Proofs.Manifest.Markup.Scalar
import CatalogAudit.Proofs.Manifest.Markup.FlowList
import CatalogAudit.Proofs.Manifest.Markup.Modes
import CatalogAudit.Proofs.Manifest.Markup.Entry
import CatalogAudit.Proofs.Manifest.Markup.Document
import CatalogAudit.Proofs.Yaml.Node.Reader
import CatalogAudit.Proofs.Manifest.Markup.Nodes
import CatalogAudit.Proofs.Number.Decimal
import CatalogAudit.Proofs.Number.Literal
import CatalogAudit.Proofs.Manifest.Markup.Spelling
import CatalogAudit.Proofs.Manifest.Markup.Numerals
import CatalogAudit.Proofs.Manifest.Numerals
import CatalogAudit.Proofs.Yaml.Value
import CatalogAudit.Proofs.Yaml.Parts
import CatalogAudit.Proofs.Manifest.Markup.Values
import CatalogAudit.Proofs.Manifest.Agreement
import CatalogAudit.Proofs.Manifest.Validation
import CatalogAudit.Proofs.Path.Pieces
import CatalogAudit.Proofs.Path.Below
import CatalogAudit.Proofs.Path.Display
import CatalogAudit.Proofs.Path.FileName
import CatalogAudit.Proofs.FileTree.WellFormed
import CatalogAudit.Proofs.FileTree.Route
import CatalogAudit.Proofs.FileTree.Walk
import CatalogAudit.Proofs.FileTree.Reach
import CatalogAudit.Proofs.Scan.Traversal
import CatalogAudit.Proofs.Scan.Roots
import CatalogAudit.Proofs.FileTree.Location
import CatalogAudit.Proofs.FileTree.Growth
import CatalogAudit.Proofs.Scan.Accounting
import CatalogAudit.Proofs.Scan.Hidden
import CatalogAudit.Proofs.Audit.Diagnostics
import CatalogAudit.Proofs.Json.Spelling
import CatalogAudit.Proofs.Json.Reading
import CatalogAudit.Proofs.Report.Decoding
import CatalogAudit.Proofs.FileTree.Finding
import CatalogAudit.Proofs.FileTree.Change
import CatalogAudit.Proofs.FileTree.LastStep
import CatalogAudit.Proofs.Artifact
import CatalogAudit.Proofs.Artifact.Replacement
import CatalogAudit.Proofs.Artifact.Atomicity
import CatalogAudit.Proofs.CommandLine.Delivery
import CatalogAudit.Proofs.CommandLine.Arguments
import CatalogAudit.Proofs.Config.Loading
import CatalogAudit.Proofs.CommandLine.Layers
import CatalogAudit.Proofs.CommandLine.Verdict
import CatalogAudit.Proofs.Snapshot.Reading
import CatalogAudit.Proofs.Manifest.Runs.Lines
import CatalogAudit.Proofs.Manifest.Runs.Spacing
import CatalogAudit.Proofs.Manifest.Runs.ExtraKeys
import CatalogAudit.Proofs.Manifest.Runs.IgnoredKeys
import CatalogAudit.Proofs.Manifest.Runs.Indentation
import CatalogAudit.Proofs.Manifest.Runs.Blocks
import CatalogAudit.Proofs.Manifest.Runs.Coherence
import CatalogAudit.Proofs.Manifest.Runs.Behind
import CatalogAudit.Proofs.Manifest.Runs.Stored
import CatalogAudit.Proofs.Manifest.PlainTokens
import CatalogAudit.Proofs.Report.Summary
import CatalogAudit.Proofs.Pattern.Trails
import CatalogAudit.Proofs.Scan.Registrations
