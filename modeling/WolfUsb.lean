import WolfUsb.Protocol.CodecTheorems
import WolfUsb.Server.RegistryTheorems
import WolfUsb.Server.AuthorityTheorems
import WolfUsb.Server.OwnershipTheorems
import WolfUsb.Server.CleanupTheorems
import WolfUsb.Server.AuthTheorems
import WolfUsb.Server.BridgeTheorems
import WolfUsb.Server.TakeoverTheorems
import WolfUsb.Server.ExclusionTheorems
import WolfUsb.Server.SessionTheorems
import WolfUsb.Server.VerdictTheorems
import WolfUsb.Server.ReplySizeTheorems
import WolfUsb.Client.ImportTheorems
import WolfUsb.Network.HandshakeTheorems
import WolfUsb.Network.ModeSwitchTheorems
import WolfUsb.Network.ExchangeTheorems
import WolfUsb.Client.CommandTheorems
import WolfUsb.Client.MountPortTheorems
import WolfUsb.Network.ReplySizes
import WolfUsb.Server.OperationTheorems
import WolfUsb.Server.SweepTheorems
import WolfUsb.Server.InterfaceTheorems
import WolfUsb.Server.DriverTheorems
import WolfUsb.Protocol.FrameTheorems
import WolfUsb.Client.ImportReplyTheorems
import WolfUsb.Server.SysfsTheorems
import WolfUsb.Server.TransferTheorems
import WolfUsb.Client.SpellingTheorems
import WolfUsb.Client.HexDumpTheorems
import WolfUsb.Client.ArgumentTheorems
import WolfUsb.Client.HelloTheorems
import WolfUsb.Bridge.AttachTheorems
import WolfUsb.Server.LookupTheorems
import WolfUsb.Client.PortLostTheorems
import WolfUsb.Lib.Progress
import WolfUsb.Network.CallReturns
import WolfUsb.Server.BridgeEnds
import WolfUsb.Network.MountEnds
import WolfUsb.Network.RemoteCallTheorems
import WolfUsb.Server.ManagerRuns
import WolfUsb.Server.HostRuns
import WolfUsb.Server.Availability
import WolfUsb.Server.Confinement
import WolfUsb.Server.InFlightTheorems
import WolfUsb.Network.AnyPeer
import WolfUsb.Network.MountedDevice
import WolfUsb.Network.KeyAgreement
import WolfUsb.Network.ByteServerBooks
import WolfUsb.Network.ServerBuffers
import WolfUsb.Network.ByteServerGate
import WolfUsb.Server.Catalogue
import WolfUsb.Client.Printing
