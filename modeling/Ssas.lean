import Ssas.Std.Types
import Ssas.Std.Bit
import Ssas.Com.Config
import Ssas.Com.Signal
import Ssas.Com.SignalValue
import Ssas.Com.Api
import Ssas.Com.Ipdu
import Ssas.Com.Group
import Ssas.Com.Pdu
import Ssas.Com.System
import Ssas.Com.GroupStatus
import Ssas.Com.TxSchedule
import Ssas.Com.TxTick
import Ssas.Com.RxTimeout
import Ssas.Com.DataInit
import Ssas.Com.UpdateBit
import Ssas.Com.Layout
import Ssas.Com.Transport
import Ssas.Com.Stopped
import Ssas.Com.Independence
import Ssas.Can.Simulator
import Ssas.Can.Frame
import Ssas.Can.Online
import Ssas.Can.Resources
