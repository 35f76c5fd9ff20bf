import LeanMiniViews.Runs
import LeanMiniViews.MathCore
import LeanMiniViews.MirrorCore
import LeanMiniViews.MirrorFrames
import LeanMiniViews.MirrorClip
import LeanMiniViews.FixRatio
import LeanMiniViews.Visibility
import LeanMiniViews.ClipAgreement
import LeanMiniViews.OverlayCore
import LeanMiniViews.ClipSession
import LeanMiniViews.ClipRestore
import LeanMiniViews.SavedValue
import LeanMiniViews.AcidAtomicity
import LeanMiniViews.EffectiveHistory
import LeanMiniViews.Containment
import LeanMiniViews.AcidHistory
import LeanMiniViews.ThreadsCore
import LeanMiniViews.ThreadsSteps
import LeanMiniViews.SyncCount
import LeanMiniViews.LockDiscipline
import LeanMiniViews.WorkerContainment
import LeanMiniViews.RequestTypes
import LeanMiniViews.WakeUps
import LeanMiniViews.Memory
import LeanMiniViews.Zerocmp
import LeanMiniViews.LockedRatio
import LeanMiniViews.Forwarding
import LeanMiniViews.LoggerCore
import LeanMiniViews.LoggerRouting
import LeanMiniViews.LoggerStreams
import LeanMiniViews.SharedStreams
import LeanMiniViews.SourceOverlay
import LeanMiniViews.EditMode
import LeanMiniViews.PreferencesCore
import LeanMiniViews.FirstRun
import LeanMiniViews.Resting
import LeanMiniViews.DialogCore
import LeanMiniViews.ViewsTab
import LeanMiniViews.ClipAcceptance
import LeanMiniViews.ClipEdges
import LeanMiniViews.Letterbox
import LeanMiniViews.FrozenImage
import LeanMiniViews.Buffers
import LeanMiniViews.EditControlCore
import LeanMiniViews.NumberFields
import LeanMiniViews.OpacityField
import LeanMiniViews.HexText
import LeanMiniViews.BinaryText
import LeanMiniViews.CheckedInt
import LeanMiniViews.CheckedRatio
import LeanMiniViews.TypedSizes
import LeanMiniViews.Reversible
import LeanMiniViews.CompositeUndo
import LeanMiniViews.Bisection
import LeanMiniViews.DeviceContextCore
import LeanMiniViews.WordWrap
import LeanMiniViews.LineCache
import LeanMiniViews.GdiOwnership
import LeanMiniViews.Loops
import LeanMiniViews.Tables
import LeanMiniViews.GridViewCore
import LeanMiniViews.GridStorage
import LeanMiniViews.GridFocus
import LeanMiniViews.OrderedWalk
import LeanMiniViews.TabOrder
import LeanMiniViews.GridSelection
import LeanMiniViews.ListBatch
import LeanMiniViews.DecimalFields
import LeanMiniViews.NearestQuotient
import LeanMiniViews.LoggerSilence
import LeanMiniViews.WindowCreation
import LeanMiniViews.BuildVersion
import LeanMiniViews.Bits
import LeanMiniViews.IcuCore
import LeanMiniViews.Unicode
import LeanMiniViews.IcuToUtf8
import LeanMiniViews.IcuFromUtf8
import LeanMiniViews.SimpleIcu
import LeanMiniViews.WindowText
import LeanMiniViews.TextBox
import LeanMiniViews.IcuSequences
import LeanMiniViews.CommandLocker
import LeanMiniViews.CommandQueue
import LeanMiniViews.GridDeletion
import LeanMiniViews.Shutdown
import LeanMiniViews.Chunks
import LeanMiniViews.ConcurrentHistory
import LeanMiniViews.FrameLoop
import LeanMiniViews.IcuFromCapacity
import LeanMiniViews.IcuToCapacity
import LeanMiniViews.AdvancedRefresh
import LeanMiniViews.AdvancedRuns
import LeanMiniViews.Canvas
import LeanMiniViews.ClientArea
import LeanMiniViews.SizeLimits
import LeanMiniViews.FieldsRuns
import LeanMiniViews.GridDraft
import LeanMiniViews.MiniViewPainting
import LeanMiniViews.PaintedFrames
