import MigrationConfig.Session
import MigrationConfig.Proofs.Catalog
import MigrationConfig.Proofs.Pass
import MigrationConfig.Proofs.Conclusion
import MigrationConfig.Proofs.Configure
import MigrationConfig.Proofs.Digits
import MigrationConfig.Proofs.VersionText
import MigrationConfig.Proofs.VersionForm
import MigrationConfig.Proofs.VersionOrder
import MigrationConfig.Proofs.Stored
import MigrationConfig.Proofs.Exported
import MigrationConfig.Proofs.Restored
import MigrationConfig.Proofs.Escaped
import MigrationConfig.Proofs.Lines
import MigrationConfig.Proofs.Scan
import MigrationConfig.Proofs.Split
import MigrationConfig.Proofs.Broken
import MigrationConfig.Proofs.Separated
import MigrationConfig.Proofs.EntryLine
import MigrationConfig.Proofs.Unsplit
import MigrationConfig.Proofs.Written
import MigrationConfig.Proofs.Format
import MigrationConfig.Proofs.Refusal
import MigrationConfig.Proofs.Residue
import MigrationConfig.Proofs.Agreement
import MigrationConfig.Proofs.Order
import MigrationConfig.Proofs.Layers
import MigrationConfig.Proofs.Invariant
import MigrationConfig.Proofs.Gated
import MigrationConfig.Proofs.Change
import MigrationConfig.Proofs.Encodings
import MigrationConfig.Proofs.Copies
import MigrationConfig.Proofs.Coherent
import MigrationConfig.Proofs.Derived
import MigrationConfig.Proofs.Valid
import MigrationConfig.Proofs.Ownership
import MigrationConfig.Proofs.Faults
import MigrationConfig.Proofs.Loading
import MigrationConfig.Proofs.Joined
import MigrationConfig.Proofs.Variables
import MigrationConfig.Proofs.Sources
import MigrationConfig.Proofs.Summary
import MigrationConfig.Proofs.Lockstep
import MigrationConfig.Proofs.Upgrade
import MigrationConfig.Proofs.Unseen
import MigrationConfig.Proofs.Veiled
import MigrationConfig.Proofs.Secrets
import MigrationConfig.Proofs.SelfCopy
import MigrationConfig.Proofs.Stepwise
import MigrationConfig.Proofs.Translated
import MigrationConfig.Proofs.Quoted
import MigrationConfig.Proofs.Printed
import MigrationConfig.Proofs.ListText
import MigrationConfig.Proofs.Partition
import MigrationConfig.Proofs.Leaves
import MigrationConfig.Proofs.Nulls
import MigrationConfig.Proofs.OverrideForm
import MigrationConfig.Proofs.Front
import MigrationConfig.Proofs.Awaited
import MigrationConfig.Proofs.Writable
import MigrationConfig.Proofs.Yields
import MigrationConfig.Proofs.Lexed
import MigrationConfig.Proofs.Converted
import MigrationConfig.Proofs.Uncaught
import MigrationConfig.Proofs.OverrideText
import MigrationConfig.Proofs.Picking
import MigrationConfig.Proofs.Incomplete
import MigrationConfig.Proofs.TopLevel
