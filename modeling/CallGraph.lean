import CallGraph.Main
import CallGraph.Cancellation
import CallGraph.Proofs.Lists
import CallGraph.Proofs.Graph
import CallGraph.Proofs.Replay
import CallGraph.Proofs.Text
import CallGraph.Proofs.Walk
import CallGraph.Proofs.Files
import CallGraph.Proofs.Positions
import CallGraph.Proofs.Sink
import CallGraph.Proofs.Slices
import CallGraph.Proofs.Chunks
import CallGraph.Proofs.ChunkPaths
import CallGraph.Proofs.Grammar
import CallGraph.Proofs.Json
import CallGraph.Proofs.Rows
import CallGraph.Proofs.Table
import CallGraph.Proofs.Holdings
import CallGraph.Proofs.Telling
import CallGraph.Proofs.Memory
import CallGraph.Proofs.Reference
import CallGraph.Proofs.Streaming
import CallGraph.Proofs.Extraction
import CallGraph.Proofs.Parts
import CallGraph.Proofs.Exclusion
import CallGraph.Proofs.Looks
import CallGraph.Proofs.Repetition
import CallGraph.Proofs.Freezing
import CallGraph.Proofs.Directories
import CallGraph.Proofs.Disk
import CallGraph.Proofs.Breakdown
import CallGraph.Proofs.Footprint
import CallGraph.Proofs.Cancellation
import CallGraph.Proofs.Sources
import CallGraph.Proofs.Variation
import CallGraph.Proofs.Spellings
import CallGraph.Proofs.Quoting
import CallGraph.Proofs.Integers
import CallGraph.Proofs.Written
import CallGraph.Proofs.Statements
import CallGraph.Proofs.SettingsDocument
import CallGraph.Proofs.SettingsFile
import CallGraph.Proofs.Frames
import CallGraph.Proofs.History
import CallGraph.Proofs.Cursor
import CallGraph.Proofs.Accounts
import CallGraph.Proofs.Detail
import CallGraph.Proofs.Pruning
import CallGraph.Proofs.SiteLines
import CallGraph.Proofs.ClassNames
import CallGraph.Proofs.SourceFiles
import CallGraph.Proofs.Respelling
import CallGraph.Proofs.Signatures
import CallGraph.Proofs.Capacity
import CallGraph.Proofs.Trees
import CallGraph.Proofs.Scanning
import CallGraph.Proofs.Artifacts
import CallGraph.Proofs.ByteOrder
import CallGraph.Proofs.Entries
import CallGraph.Proofs.DirectoryArchives
import CallGraph.Proofs.LineTables
