/-
WolfUsb.Protocol.Messages — the protocol messages
(`protocol/messages.rs`), every constructor with all its fields.
-/
import WolfUsb.Protocol.Types

namespace WolfUsb

def protocolVersion : UInt32 := 1

/-! ## Handshake -/

/-- `authProof` is HMAC(key, nonce || "wolfusb-client"). -/
structure HelloRequest where
  protocolVersion : UInt32
  clientName : String
  authNonce : Vector UInt8 32
  authProof : Bytes
  deriving DecidableEq, Repr

structure HelloResponse where
  protocolVersion : UInt32
  serverName : String
  authAccepted : Bool
  authChallengeResponse : Bytes
  errorMessage : Option String
  deriving DecidableEq, Repr

/-! ## Device enumeration -/

structure DeviceListResponse where
  devices : List DeviceInfo
  deriving DecidableEq, Repr

structure GetDescriptorsRequest where
  deviceId : DeviceId
  deriving DecidableEq, Repr

structure DescriptorDataResponse where
  deviceId : DeviceId
  descriptors : DeviceDescriptorTree
  deriving DecidableEq, Repr

/-! ## Attach and detach -/

structure AttachRequest where
  deviceId : DeviceId
  deriving DecidableEq, Repr

structure AttachResponse where
  deviceId : DeviceId
  success : Bool
  errorMessage : Option String
  sessionId : Option UInt64
  deriving DecidableEq, Repr

structure DetachRequest where
  deviceId : DeviceId
  sessionId : UInt64
  deriving DecidableEq, Repr

structure DetachResponse where
  deviceId : DeviceId
  success : Bool
  errorMessage : Option String
  deriving DecidableEq, Repr

/-! ## USB transfers -/

structure ControlTransferRequest where
  sessionId : UInt64
  deviceId : DeviceId
  requestType : UInt8
  request : UInt8
  value : UInt16
  index : UInt16
  data : Bytes
  length : UInt16
  timeoutMs : UInt64
  deriving DecidableEq, Repr

structure BulkTransferRequest where
  sessionId : UInt64
  deviceId : DeviceId
  endpoint : UInt8
  data : Bytes
  length : UInt32
  timeoutMs : UInt64
  deriving DecidableEq, Repr

structure InterruptTransferRequest where
  sessionId : UInt64
  deviceId : DeviceId
  endpoint : UInt8
  data : Bytes
  length : UInt32
  timeoutMs : UInt64
  deriving DecidableEq, Repr

structure TransferResponse where
  sessionId : UInt64
  deviceId : DeviceId
  success : Bool
  data : Bytes
  bytesTransferred : UInt32
  errorMessage : Option String
  deriving DecidableEq, Repr

/-! ## Interface and configuration management -/

structure ClaimInterfaceRequest where
  sessionId : UInt64
  deviceId : DeviceId
  interfaceNumber : UInt8
  deriving DecidableEq, Repr

structure ClaimInterfaceResponse where
  success : Bool
  errorMessage : Option String
  deriving DecidableEq, Repr

structure ReleaseInterfaceRequest where
  sessionId : UInt64
  deviceId : DeviceId
  interfaceNumber : UInt8
  deriving DecidableEq, Repr

structure ReleaseInterfaceResponse where
  success : Bool
  errorMessage : Option String
  deriving DecidableEq, Repr

structure SetConfigurationRequest where
  sessionId : UInt64
  deviceId : DeviceId
  configuration : UInt8
  deriving DecidableEq, Repr

structure SetConfigurationResponse where
  success : Bool
  errorMessage : Option String
  deriving DecidableEq, Repr

/-! ## Virtual USB bridge -/

structure BridgeRequest where
  deviceId : DeviceId
  deriving DecidableEq, Repr

/-- `busid` is what the client is to send in OP_REQ_IMPORT; the fields
after it are informational. -/
structure BridgeAcceptedResponse where
  deviceId : DeviceId
  busid : String
  devid : UInt32
  speed : UInt8
  vendorId : UInt16
  productId : UInt16
  bcdDevice : UInt16
  deviceClass : UInt8
  deviceSubclass : UInt8
  deviceProtocol : UInt8
  numConfigurations : UInt8
  numInterfaces : UInt8
  configValue : UInt8
  deriving DecidableEq, Repr

structure BridgeRejectedResponse where
  errorMessage : String
  deriving DecidableEq, Repr

/-! ## Errors -/

inductive ErrorCode where
  | protocolVersionMismatch
  | authenticationFailed
  | deviceNotFound
  | deviceAlreadyAttached
  | deviceNotAttached
  | invalidSession
  | transferFailed
  | usbError
  | internalError
  deriving DecidableEq, Repr

structure ErrorResponse where
  code : ErrorCode
  message : String
  deriving DecidableEq, Repr

/-! ## Messages -/

inductive Message where
  | hello (req : HelloRequest)
  | helloResponse (resp : HelloResponse)
  | listDevices
  | deviceList (resp : DeviceListResponse)
  | getDescriptors (req : GetDescriptorsRequest)
  | descriptorData (resp : DescriptorDataResponse)
  | attach (req : AttachRequest)
  | attachResult (resp : AttachResponse)
  | detach (req : DetachRequest)
  | detachResult (resp : DetachResponse)
  | controlTransfer (req : ControlTransferRequest)
  | bulkTransfer (req : BulkTransferRequest)
  | interruptTransfer (req : InterruptTransferRequest)
  | transferResult (resp : TransferResponse)
  | claimInterface (req : ClaimInterfaceRequest)
  | claimInterfaceResult (resp : ClaimInterfaceResponse)
  | releaseInterface (req : ReleaseInterfaceRequest)
  | releaseInterfaceResult (resp : ReleaseInterfaceResponse)
  | setConfiguration (req : SetConfigurationRequest)
  | setConfigurationResult (resp : SetConfigurationResponse)
  | bridge (req : BridgeRequest)
  | bridgeAccepted (resp : BridgeAcceptedResponse)
  | bridgeRejected (resp : BridgeRejectedResponse)
  | error (resp : ErrorResponse)
  | ping
  | pong
  deriving DecidableEq, Repr

end WolfUsb
