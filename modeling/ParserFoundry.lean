import ParserFoundry.Artifact.Parts
import ParserFoundry.Artifact.Reading
import ParserFoundry.Bootstrap.Command
import ParserFoundry.Generation.WriteTo
import ParserFoundry.Json.Table
import ParserFoundry.Main
import ParserFoundry.Parser.Run
import ParserFoundry.Proofs.Checked
import ParserFoundry.Proofs.Numbering
import ParserFoundry.Proofs.Numbering.Declarations
import ParserFoundry.Proofs.Numbering.Exactness
import ParserFoundry.Proofs.Naming.Shapes
import ParserFoundry.Proofs.Naming.Nameable
import ParserFoundry.Proofs.Naming.Idempotence
import ParserFoundry.Proofs.Naming.Words
import ParserFoundry.Proofs.Naming.Inverse
import ParserFoundry.Proofs.NameTable
import ParserFoundry.Proofs.Unicode.UpperCase
import ParserFoundry.Proofs.Productions
import ParserFoundry.Proofs.Table.Encoding
import ParserFoundry.Proofs.Table.Exactness
import ParserFoundry.Proofs.Table.ConflictAccounting
import ParserFoundry.Proofs.Table.Shape
import ParserFoundry.Proofs.Parser.Reading
import ParserFoundry.Proofs.Parser.Steps
import ParserFoundry.Proofs.Parser.Cells
import ParserFoundry.Proofs.Parser.Trees
import ParserFoundry.Proofs.Parser.Soundness
import ParserFoundry.Proofs.Parser.Conservation
import ParserFoundry.Proofs.Parser.Safety
import ParserFoundry.Proofs.Parser.ExpectedTerminals
import ParserFoundry.Proofs.Parser.Rejection
import ParserFoundry.Proofs.Parser.LeadingBlanks
import ParserFoundry.Proofs.Parser.Stacks
import ParserFoundry.Proofs.Pattern.Search
import ParserFoundry.Proofs.Pattern.Anchoring
import ParserFoundry.Proofs.Pattern.InGroup
import ParserFoundry.Proofs.Layout.Spelling
import ParserFoundry.Proofs.Code.Reading
import ParserFoundry.Proofs.Code.Data
import ParserFoundry.Proofs.Code.Items
import ParserFoundry.Proofs.Code.Kinds
import ParserFoundry.Proofs.Code.Names
import ParserFoundry.Proofs.Artifact.Tables
import ParserFoundry.Proofs.Artifact.Kinds
import ParserFoundry.Proofs.Artifact.Payloads
import ParserFoundry.Proofs.Artifact.Definitions
import ParserFoundry.Proofs.Generation.Stages
import ParserFoundry.Proofs.Generation.Blueprint
import ParserFoundry.Proofs.Generation.Reports
import ParserFoundry.Proofs.Generation.Tables
import ParserFoundry.Proofs.Generation.Payloads
import ParserFoundry.Proofs.Files.Within
import ParserFoundry.Proofs.Files.Bytes
import ParserFoundry.Proofs.Files.Components
import ParserFoundry.Proofs.Files.Directories
import ParserFoundry.Proofs.Bootstrap.Staging
import ParserFoundry.Proofs.Bootstrap.Finishing
import ParserFoundry.Proofs.Bootstrap.Command
import ParserFoundry.Proofs.Bootstrap.Clearing
import ParserFoundry.Proofs.Bootstrap.SnapshotPath
import ParserFoundry.Proofs.Bootstrap.Locations
import ParserFoundry.Proofs.Json.Tables
import ParserFoundry.Proofs.Table.Changes
import ParserFoundry.Proofs.Table.Recording
import ParserFoundry.Proofs.Generation.AccessingSymbols
import ParserFoundry.Proofs.Generation.AugmentingStart
import ParserFoundry.Proofs.Generation.WriteTo
