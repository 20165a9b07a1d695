import AahRtp.Media.Basic
import AahRtp.Trtp.Wire
import AahRtp.Pump.Basic
import AahRtp.Pump.Worker
import AahRtp.Pump.System
import AahRtp.Pump.Render
import AahRtp.Pump.ErrorBudget
import AahRtp.Pump.Safety
import AahRtp.Pump.Reset
import AahRtp.Substream.Basic
import AahRtp.Substream.Completion
import AahRtp.Substream.PayloadStart
import AahRtp.Substream.PayloadCont
import AahRtp.Substream.System
import AahRtp.Substream.StartChecks
import AahRtp.Substream.Fill
import AahRtp.Substream.Reassembly
import AahRtp.Substream.Delivery
import AahRtp.Substream.SplitDelivery
import AahRtp.Substream.RapGate
import AahRtp.Substream.HeaderRejections
import AahRtp.Substream.Ownership
import AahRtp.Substream.Format
import AahRtp.Substream.UnitMeta
import AahRtp.Substream.PumpLifecycle
import AahRtp.Substream.PumpRefinement
import AahRtp.Substream.DecodeOrder
import AahRtp.Substream.FatalStatus
import AahRtp.Substream.LearnedTypes
