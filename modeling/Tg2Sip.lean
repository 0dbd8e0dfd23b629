import Tg2Sip.Cpp.Registry
import Tg2Sip.Cpp.Session
import Tg2Sip.Cpp.Login
import Tg2Sip.Cpp.FloodWait
import Tg2Sip.Cpp.Extension
import Tg2Sip.Cpp.Directory
import Tg2Sip.Cpp.Client
import Tg2Sip.Cpp.LoopRuns
import Tg2Sip.Go.SelfWait
import Tg2Sip.Go.BlockRace
import Tg2Sip.Go.CSeq
import Tg2Sip.Go.CallState
import Tg2Sip.Go.Renames
import Tg2Sip.Go.Refresh
import Tg2Sip.Go.Orphans
import Tg2Sip.Go.FloodWait
import Tg2Sip.Go.SetOrder
import Tg2Sip.Go.Redial
import Tg2Sip.Go.Digits
import Tg2Sip.Go.Invite
import Tg2Sip.Go.Reinvite
import Tg2Sip.Go.Delivery
import Tg2Sip.Config.Getters
import Tg2Sip.Voip.Extras
import Tg2Sip.Voip.JitterDelay
import Tg2Sip.Voip.MessageSchedule
import Tg2Sip.Voip.AudioBitrate
import Tg2Sip.Voip.AudioStream
import Tg2Sip.Voip.Envelope
import Tg2Sip.Voip.VideoStream
import Tg2Sip.Voip.Wire
