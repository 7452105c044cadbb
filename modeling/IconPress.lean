import IconPress.Command
import IconPress.Main
import IconPress.Proofs.Nesting
import IconPress.Proofs.Packing
import IconPress.Proofs.Compile
import IconPress.Proofs.Settings
import IconPress.Proofs.ReadBack
import IconPress.Proofs.Walks
import IconPress.Proofs.WellFormed
import IconPress.Proofs.Changes
import IconPress.Proofs.Publish
import IconPress.Proofs.Conservation
import IconPress.Proofs.Effects
import IconPress.Proofs.Declarations
import IconPress.Proofs.Header
import IconPress.Proofs.Pictures
import IconPress.Proofs.Numerals
import IconPress.Proofs.Verdict
import IconPress.Proofs.Press
import IconPress.Proofs.Reported
import IconPress.Proofs.Occupied
import IconPress.Proofs.Calls
import IconPress.Proofs.Comments
import IconPress.Proofs.Export
import IconPress.Proofs.Detours
import IconPress.Proofs.Directories
import IconPress.Proofs.Turnover
import IconPress.Proofs.History
import IconPress.Text.Lowercase
import IconPress.Proofs.Unpacking
import IconPress.Proofs.LineEnds
import IconPress.Proofs.Drawings
import IconPress.Proofs.DeclarationLines
import IconPress.Proofs.DeclarationPattern
import IconPress.Proofs.HeaderLines
import IconPress.Proofs.Surroundings
import IconPress.Proofs.Literals
import IconPress.Proofs.Agreement
import IconPress.Proofs.ArchiveNames
import IconPress.Proofs.Tokens
import IconPress.Proofs.Sources
import IconPress.Proofs.Validation
