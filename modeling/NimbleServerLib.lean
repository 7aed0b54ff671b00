import NimbleServerLib.Steps
import NimbleServerLib.Datagram
import NimbleServerLib.Connections
import NimbleServerLib.Game
import NimbleServerLib.ReqStep
import NimbleServerLib.State
import NimbleServerLib.Requests
import NimbleServerLib.Server
import NimbleServerLib.Feed
import NimbleServerLib.Run
import NimbleServerLib.AuthoritativeRing
import NimbleServerLib.RingRuns
import NimbleServerLib.GameStateTiming
import NimbleServerLib.ReplySequence
import NimbleServerLib.ReInit
import NimbleServerLib.SlotLifecycle
import NimbleServerLib.DatagramFlow
import NimbleServerLib.FeedSlots
import NimbleServerLib.DrainSlots
import NimbleServerLib.SlotIsolation
import NimbleServerLib.WellFormed
import NimbleServerLib.ParticipantRings
import NimbleServerLib.BlobDownload
import NimbleServerLib.Composer
import NimbleServerLib.GameStepIngest
import NimbleServerLib.ParticipantRegistry
import NimbleServerLib.StepRanges
import NimbleServerLib.ParticipantReferences
import NimbleServerLib.StepStream
import NimbleServerLib.DatagramSize
