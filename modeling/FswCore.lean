import FswCore.App.Autosave
import FswCore.App.Reboot
import FswCore.Fdir.Causality
import FswCore.Fdir.Commanding
import FswCore.Pktstore.Retrieval
import FswCore.Pus.EventReport
import FswCore.Pus.Verification
import FswCore.Schedule.Drain
import FswCore.App.Buffers
import FswCore.App.Capacity
import FswCore.App.Generation
import FswCore.App.MainLoop
import FswCore.Nvstore.ReadBack
import FswCore.Nvstore.TransientLoad
import FswCore.App.Release
import FswCore.App.SequenceCount
import FswCore.Largedata.Reassembly
import FswCore.Library.ShiftRegister
import FswCore.Nvstore.PlainLoad
import FswCore.Nvstore.RecordKinds
import FswCore.Nvstore.RecordMap
import FswCore.Nvstore.Wraparound
import FswCore.Pus.Acceptance
import FswCore.Pus.ErrorDetection
import FswCore.Pus.ReadOnly
import FswCore.App.HkCounters
import FswCore.Pus.AppData
import FswCore.Pus.ScheduleRequests
import FswCore.Pus.SetRequests
import FswCore.Hkstore.DueOrder
import FswCore.Hkstore.Rearm
import FswCore.Nvstore.StrayTail
import FswCore.App.Framer
import FswCore.App.LargestReports
import FswCore.Fdir.EventQueue
import FswCore.Library.CheckedAccess
import FswCore.Library.FixedCodec
import FswCore.Mode.Table
import FswCore.Pus.DecoderBounds
import FswCore.Pus.HeaderCodecs
import FswCore.Pus.ReportSet
import FswCore.Hkstore.RestoreBounds
import FswCore.Library.CheckedWord
import FswCore.Nvstore.LocateBounds
import FswCore.Nvstore.SaveBounds
import FswCore.Restore.FlashDecoders
import FswCore.App.ComponentCalls
import FswCore.App.Mission
import FswCore.App.PowerCycle
import FswCore.App.Safing
import FswCore.App.Acknowledgement
import FswCore.App.Diagnostics
import FswCore.App.EventLog
import FswCore.App.Frames
import FswCore.App.OverflowReports
import FswCore.App.Provenance
import FswCore.App.StoredCommands
import FswCore.App.Transfer
import FswCore.Nvstore.Partition
import FswCore.App.Delivery
import FswCore.App.Execution
import FswCore.App.Answers
