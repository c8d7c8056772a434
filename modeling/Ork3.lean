import Ork3.Library.Run
import Ork3.Library.Text
import Ork3.Library.Table
import Ork3.Library.Except
import Ork3.Library.Incremental
import Ork3.Library.Paging
import Ork3.Library.Ranked
import Ork3.Model.Layout
import Ork3.Model.TerminalKey
import Ork3.Model.RawInput
import Ork3.Model.AgentIdentity
import Ork3.Model.TerminalState
import Ork3.Model.TerminalReports
import Ork3.Model.TerminalOperations
import Ork3.Model.ProjectDomain
import Ork3.Model.ProjectCatalog
import Ork3.Model.SessionPages
import Ork3.Model.SemanticTopics
import Ork3.Model.CatalogReopening
import Ork3.Model.BackgroundScan
import Ork3.Model.Workspace
import Ork3.Proofs.Layout
import Ork3.Proofs.Tab
import Ork3.Proofs.WorkspaceChange
import Ork3.Proofs.Workspace
import Ork3.Proofs.RawInputFraming
import Ork3.Proofs.ColorReply
import Ork3.Proofs.ColorReplyFlush
import Ork3.Proofs.Arbitration
import Ork3.Proofs.RejectedReports
import Ork3.Proofs.HookTables
import Ork3.Proofs.HookSuppression
import Ork3.Proofs.SessionPages
import Ork3.Proofs.ProjectCatalog
import Ork3.Proofs.CandidateWrites
import Ork3.Proofs.DirectoryAssignment
import Ork3.Proofs.FieldMerging
import Ork3.Proofs.TopicMerges
import Ork3.Proofs.LockedSessions
import Ork3.Proofs.AliasResolution
import Ork3.Proofs.BackgroundScans
import Ork3.Model.Snapshot
import Ork3.Library.Increasing
import Ork3.Library.Numbering
import Ork3.Model.Restore
import Ork3.Proofs.Restore
import Ork3.Proofs.RestoredWorkspaces
import Ork3.Proofs.SessionRoundTrip
import Ork3.Library.GlyphRow
import Ork3.Library.NumberedLog
import Ork3.Library.Scanner
import Ork3.Library.SplitStream
import Ork3.Model.ClientWriterQueue
import Ork3.Model.EventHub
import Ork3.Model.HostTerminal
import Ork3.Model.Osc
import Ork3.Model.RenderAnsi
import Ork3.Model.Wire
import Ork3.Proofs.ClientWriterQueue
import Ork3.Proofs.ClipboardForwarding
import Ork3.Proofs.EventDelivery
import Ork3.Proofs.Framing
import Ork3.Library.Nested
import Ork3.Library.Newest
import Ork3.Model.KittyGraphics
import Ork3.Proofs.TerminalFrame
import Ork3.Proofs.HeardReports
import Ork3.Proofs.Presentation
import Ork3.Proofs.HandoffAliases
import Ork3.Proofs.GraphicsSync
import Ork3.Proofs.IdentityRuns
import Ork3.Proofs.Foreground
import Ork3.Proofs.ProjectRuntime
import Ork3.Proofs.PtyHandshake
import Ork3.Proofs.PtyQuiescence
import Ork3.Proofs.PtyWrites
import Ork3.Proofs.AgentExits
import Ork3.Proofs.ScreenSkips
import Ork3.Library.Decimal
import Ork3.Library.RingStack
import Ork3.Model.KittyKeyboard
import Ork3.Model.KeyboardTerminal
import Ork3.Proofs.KittyKeyboard
import Ork3.Proofs.KeyboardProtocol
import Ork3.Library.Tiling
import Ork3.Proofs.PaneNavigation
import Ork3.Library.Utf8
import Ork3.Model.KeyEncoding
import Ork3.Proofs.KeyEncoding
import Ork3.Proofs.LegacyKeys
import Ork3.Model.Keybinds
import Ork3.Model.KeybindRegistry
import Ork3.Library.Tokens
import Ork3.Proofs.KeyLabels
import Ork3.Proofs.KeybindRegistry
import Ork3.Library.Runs
import Ork3.Model.RetainedText
import Ork3.Model.WordMotion
import Ork3.Proofs.WordMotion
import Ork3.Proofs.WordWindows
import Ork3.Model.RoundedLayout
import Ork3.Proofs.LayoutTiling
import Ork3.Proofs.PaneResize
import Ork3.Library.History
import Ork3.Model.CursorShape
import Ork3.Proofs.CursorShape
import Ork3.Model.Xtgettcap
import Ork3.Proofs.Xtgettcap
import Ork3.Model.OrderedResponses
import Ork3.Proofs.OrderedResponses
import Ork3.Library.Lines
import Ork3.Model.ManifestRegion
import Ork3.Proofs.ManifestRegion
import Ork3.Model.HookConfig
import Ork3.Proofs.HookConfig
import Ork3.Library.LineJoin
import Ork3.Model.KimiConfig
import Ork3.Proofs.KimiConfig
import Ork3.Library.Excision
import Ork3.Proofs.ScrollbackClear
import Ork3.Proofs.TabEdits
import Ork3.Library.RowScan
import Ork3.Proofs.ChangedCells
import Ork3.Library.Slices
import Ork3.Proofs.FramerSlices
import Ork3.Proofs.PasteDelivery
import Ork3.Proofs.MalformedInput
import Ork3.Proofs.SplitMouse
import Ork3.Model.LayoutApply
import Ork3.Proofs.LayoutDescription
import Ork3.Proofs.LayoutBuilding
import Ork3.Proofs.LayoutApply
import Ork3.Model.RenderStream
import Ork3.Proofs.HostCursor
import Ork3.Library.Repaint
import Ork3.Proofs.Repainting
import Ork3.Library.Reservations
import Ork3.Library.Grouping
import Ork3.Library.Chunks
import Ork3.Library.Base64
import Ork3.Library.JsonText
import Ork3.Library.Words
import Ork3.Library.Occurrence
import Ork3.Library.Columns
import Ork3.Model.PendingSessions
import Ork3.Model.TopicReplies
import Ork3.Model.InjectedPreamble
import Ork3.Model.KittyData
import Ork3.Model.PlacementClipping
import Ork3.Model.VisibleCells
import Ork3.Model.WordBounds
import Ork3.Proofs.ResumedSessions
import Ork3.Proofs.PendingSessions
import Ork3.Proofs.SourceStreaks
import Ork3.Proofs.TopicReplies
import Ork3.Proofs.InjectedPreamble
import Ork3.Proofs.KittyData
import Ork3.Proofs.PlacementClipping
import Ork3.Proofs.VisibleCells
import Ork3.Proofs.WordBounds
import Ork3.Library.Dialogue
import Ork3.Model.LiveHandoff
import Ork3.Proofs.HandoffOutcomes
import Ork3.Proofs.HandoffTermination
