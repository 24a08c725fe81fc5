import AsmBridge.Main
import AsmBridge.Proofs.Body.Annotation
import AsmBridge.Proofs.Body.Blocks
import AsmBridge.Proofs.Body.References
import AsmBridge.Proofs.Body.Splicing
import AsmBridge.Proofs.Body.Theorems
import AsmBridge.Proofs.Code.Assembler
import AsmBridge.Proofs.Code.Bytes
import AsmBridge.Proofs.CommandLine.Exit
import AsmBridge.Proofs.Conversion.Composition
import AsmBridge.Proofs.Conversion.Constants
import AsmBridge.Proofs.Conversion.Theorems
import AsmBridge.Proofs.Conversion.Totality
import AsmBridge.Proofs.Declaration.Count
import AsmBridge.Proofs.Frame.Theorems
import AsmBridge.Proofs.Line.Call
import AsmBridge.Proofs.Line.Comment
import AsmBridge.Proofs.Line.Disabled
import AsmBridge.Proofs.Line.Theorems
import AsmBridge.Proofs.Listing.Extent
import AsmBridge.Proofs.Listing.Section
import AsmBridge.Proofs.Listing.Sequences
import AsmBridge.Proofs.Pool.Data
import AsmBridge.Proofs.Pool.History
import AsmBridge.Proofs.Pool.Layout
import AsmBridge.Proofs.Pool.Operands
import AsmBridge.Proofs.Pool.Restriction
import AsmBridge.Proofs.Pool.Strings
