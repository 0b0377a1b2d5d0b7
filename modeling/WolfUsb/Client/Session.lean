/-
WolfUsb.Client.Session — the client's side of the protocol
(`client/session.rs`, and `do_hello` of `client/mount.rs`).

A function that sends a message and waits for the next is modelled by what
it sends and by what it makes of the outcome: whether the message was
sent, and what `framed.next()` then yields. The text `{:?}` gives a
message is a parameter.
-/
import WolfUsb.Server.Connection
import WolfUsb.Server.Sysfs

namespace WolfUsb

/-- What `framed.next().await` yields: a message, an error, or the end of
the stream. -/
abbrev NextFrame := Option (Except WolfUsbError Message)

namespace Session

variable {W : Type} (p : Platform W) (debug : Message → String)

/-! ## Hello -/

/-- The proof a client sends: nothing without a key. -/
def authProof (sharedKey : Option Bytes) (authNonce : Vector UInt8 32) : Bytes :=
  match sharedKey with
  | some key => Connection.proof p key authNonce Connection.clientSuffix
  | none => []

/-- The Hello `connect` sends. -/
def helloMessage (clientName : String) (sharedKey : Option Bytes) (authNonce : Vector UInt8 32) :
    Message :=
  .hello { protocolVersion := protocolVersion, clientName, authNonce,
           authProof := authProof p sharedKey authNonce }

/-- The server's proof is wrong; without a key there is none to check. -/
def badServerProof (sharedKey : Option Bytes) (authNonce : Vector UInt8 32) (response : Bytes) :
    Bool :=
  match sharedKey with
  | some key => Connection.proof p key authNonce Connection.serverSuffix != response
  | none => false

/-- `connect` on the HelloResponse; the result is the server's name. -/
def checkHello (sharedKey : Option Bytes) (authNonce : Vector UInt8 32) (resp : HelloResponse) :
    Except WolfUsbError String :=
  if !resp.authAccepted then
    .error (.authenticationFailed (resp.errorMessage.getD "Unknown auth error"))
  else if badServerProof p sharedKey authNonce resp.authChallengeResponse then
    .error (.authenticationFailed "Server HMAC verification failed")
  else if resp.protocolVersion ≠ protocolVersion then
    .error (.versionMismatch protocolVersion resp.protocolVersion)
  else .ok resp.serverName

/-- `connect` after the stream is there. -/
def connect (sharedKey : Option Bytes) (authNonce : Vector UInt8 32)
    (sent : Except WolfUsbError Unit) (next : NextFrame) : Except WolfUsbError String :=
  match sent with
  | .error e => .error e
  | .ok () =>
      match next with
      | none => .error .connectionClosed
      | some (.error e) => .error e
      | some (.ok (.helloResponse resp)) => checkHello p sharedKey authNonce resp
      | some (.ok other) => .error (.unexpectedMessage "HelloResponse" (debug other))

/-! ## Requests -/

/-- The error that answers a request. -/
def refused {α : Type} (e : ErrorResponse) : Except WolfUsbError α :=
  .error (.protocolError e.message)

def unexpected {α : Type} (expected : String) (other : Message) : Except WolfUsbError α :=
  .error (.unexpectedMessage expected (debug other))

/-- The outcome of a result that is a flag and an error message. -/
def outcome (failed : String) (success : Bool) (errorMessage : Option String) :
    Except WolfUsbError Unit :=
  if success then .ok () else .error (.protocolError (errorMessage.getD failed))

def listDevices : Message → Except WolfUsbError (List DeviceInfo)
  | .deviceList resp => .ok resp.devices
  | .error e => refused e
  | other => unexpected debug "DeviceList" other

def getDescriptors : Message → Except WolfUsbError DeviceDescriptorTree
  | .descriptorData resp => .ok resp.descriptors
  | .error e => refused e
  | other => unexpected debug "DescriptorData" other

def attach : Message → Except WolfUsbError UInt64
  | .attachResult resp =>
      if resp.success then
        match resp.sessionId with
        | some sessionId => .ok sessionId
        | none => .error (.protocolError "Server returned success but no session_id")
      else .error (.protocolError (resp.errorMessage.getD "Attach failed"))
  | .error e => refused e
  | other => unexpected debug "AttachResult" other

def detach : Message → Except WolfUsbError Unit
  | .detachResult resp => outcome "Detach failed" resp.success resp.errorMessage
  | .error e => refused e
  | other => unexpected debug "DetachResult" other

/-- `control_transfer`, `bulk_transfer` and `interrupt_transfer`. -/
def transfer : Message → Except WolfUsbError TransferResponse
  | .transferResult resp => .ok resp
  | .error e => refused e
  | other => unexpected debug "TransferResult" other

def claimInterface : Message → Except WolfUsbError Unit
  | .claimInterfaceResult resp => outcome "Claim interface failed" resp.success resp.errorMessage
  | .error e => refused e
  | other => unexpected debug "ClaimInterfaceResult" other

def releaseInterface : Message → Except WolfUsbError Unit
  | .releaseInterfaceResult resp =>
      outcome "Release interface failed" resp.success resp.errorMessage
  | .error e => refused e
  | other => unexpected debug "ReleaseInterfaceResult" other

def setConfiguration : Message → Except WolfUsbError Unit
  | .setConfigurationResult resp =>
      outcome "Set configuration failed" resp.success resp.errorMessage
  | .error e => refused e
  | other => unexpected debug "SetConfigurationResult" other

/-- A method call with its arguments. -/
inductive Call where
  | listDevices
  | getDescriptors (deviceId : DeviceId)
  | attach (deviceId : DeviceId)
  | detach (deviceId : DeviceId) (sessionId : UInt64)
  | controlTransfer (req : ControlTransferRequest)
  | bulkTransfer (req : BulkTransferRequest)
  | interruptTransfer (req : InterruptTransferRequest)
  | claimInterface (sessionId : UInt64) (deviceId : DeviceId) (interfaceNumber : UInt8)
  | releaseInterface (sessionId : UInt64) (deviceId : DeviceId) (interfaceNumber : UInt8)
  | setConfiguration (sessionId : UInt64) (deviceId : DeviceId) (configuration : UInt8)
  deriving DecidableEq

/-- What a method returns. -/
inductive Returned where
  | devices (devices : List DeviceInfo)
  | descriptors (descriptors : DeviceDescriptorTree)
  | session (sessionId : UInt64)
  | done
  | transfer (resp : TransferResponse)
  deriving DecidableEq

/-- The message a method sends. -/
def Call.request : Call → Message
  | .listDevices => .listDevices
  | .getDescriptors deviceId => .getDescriptors { deviceId }
  | .attach deviceId => .attach { deviceId }
  | .detach deviceId sessionId => .detach { deviceId, sessionId }
  | .controlTransfer req => .controlTransfer req
  | .bulkTransfer req => .bulkTransfer req
  | .interruptTransfer req => .interruptTransfer req
  | .claimInterface sessionId deviceId interfaceNumber =>
      .claimInterface { sessionId, deviceId, interfaceNumber }
  | .releaseInterface sessionId deviceId interfaceNumber =>
      .releaseInterface { sessionId, deviceId, interfaceNumber }
  | .setConfiguration sessionId deviceId configuration =>
      .setConfiguration { sessionId, deviceId, configuration }

/-- What a method makes of the response. -/
def Call.result (call : Call) (response : Message) : Except WolfUsbError Returned :=
  match call with
  | .listDevices => (Session.listDevices debug response).map .devices
  | .getDescriptors _ => (Session.getDescriptors debug response).map .descriptors
  | .attach _ => (Session.attach debug response).map .session
  | .detach _ _ => (Session.detach debug response).map fun _ => .done
  | .controlTransfer _ => (transfer debug response).map .transfer
  | .bulkTransfer _ => (transfer debug response).map .transfer
  | .interruptTransfer _ => (transfer debug response).map .transfer
  | .claimInterface _ _ _ => (Session.claimInterface debug response).map fun _ => .done
  | .releaseInterface _ _ _ => (Session.releaseInterface debug response).map fun _ => .done
  | .setConfiguration _ _ _ => (Session.setConfiguration debug response).map fun _ => .done

/-- `send_and_recv` and the method's match: whether the request was sent,
and the next frame. -/
def Call.run (call : Call) (sent : Except WolfUsbError Unit) (next : NextFrame) :
    Except WolfUsbError Returned :=
  match sent with
  | .error e => .error e
  | .ok () =>
      match next with
      | none => .error .connectionClosed
      | some (.error e) => .error e
      | some (.ok response) => call.result debug response

end Session

namespace Mount

variable {W : Type} (p : Platform W) (debug : Message → String)

/-- The Hello `do_hello` sends. -/
def helloMessage (key : Option Bytes) (authNonce : Vector UInt8 32) : Message :=
  .hello { protocolVersion := protocolVersion, clientName := "wolfusb-mount", authNonce,
           authProof := Session.authProof p key authNonce }

/-- `do_hello`. Unlike `connect` it does not look at the version the
response carries. -/
def doHello (key : Option Bytes) (authNonce : Vector UInt8 32) (sent : Except WolfUsbError Unit)
    (next : NextFrame) : Except AnyhowError Unit :=
  match sent with
  | .error e => .error ["Failed to send Hello", e.text p]
  | .ok () =>
      match next with
      | some (.ok (.helloResponse resp)) =>
          if !resp.authAccepted then
            .error ["Authentication failed: " ++ resp.errorMessage.getD ""]
          else if Session.badServerProof p key authNonce resp.authChallengeResponse then
            .error ["Server HMAC verification failed"]
          else .ok ()
      | some (.ok other) => .error ["Unexpected response: " ++ debug other]
      | some (.error e) => .error ["Protocol error: " ++ e.text p]
      | none => .error ["Connection closed during handshake"]

end Mount

end WolfUsb
