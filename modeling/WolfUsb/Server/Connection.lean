/-
WolfUsb.Server.Connection — one client connection
(`server/connection.rs`): the dispatch of a message, the handlers, and
the cleanup when the connection ends.

Atomicity. A handler locks the shared manager at most once (a transfer
locks it for the check and the handle, and runs on the handle after that),
and the connection's own table is touched by no other task, so one message
is one step of the server.

`spawn_blocking` either runs its closure and returns what it returns, or
the task is lost and `.await` yields a `JoinError`. No closure handed to
it can panic half way: `rusb` reports errors as values, and every map
update comes after the last call. A lost task therefore has not run. Its
error text is a parameter.
-/
import WolfUsb.Server.DeviceManager
import WolfUsb.Server.Transfer

namespace WolfUsb

/-- The stream under a connection; only its kind matters here. -/
inductive ServerStream where
  | plain
  | tls
  deriving DecidableEq, Repr

/-- `Connection`, less its framed stream's buffers and the shared manager. -/
structure Connection where
  stream : ServerStream
  peerAddr : SocketAddr
  authenticated : Bool
  sharedKey : Option Bytes
  sessions : HashMap UInt64 DeviceId
  deriving DecidableEq

/-- Send a reply, or switch to bridge mode. -/
inductive Action where
  | reply (message : Message)
  | bridge (reply : Message) (target : DeviceId)
  deriving DecidableEq

/-- The message an action sends. -/
def Action.message : Action → Message
  | .reply msg => msg
  | .bridge msg _ => msg

/-- What all connections share: the device manager behind its mutex, and
the USB side it works on. -/
structure Shared (W : Type) where
  manager : DeviceManager
  bus : Bus W

/-- `tokio::task::spawn_blocking(task).await`: `some e` is a task that was
lost with the join error `e`. -/
def spawnBlocking {W α : Type} (join : Option String) (task : Shared W → α × Shared W)
    (sh : Shared W) : Except String α × Shared W :=
  match join with
  | some e => (.error e, sh)
  | none =>
      let (r, sh) := task sh
      (.ok r, sh)

/-- Run a manager operation under the lock. -/
def Shared.locked {W α : Type} (op : DeviceManager → Bus W → α × DeviceManager × Bus W)
    (sh : Shared W) : α × Shared W :=
  let (r, m, u) := op sh.manager sh.bus
  (r, ⟨m, u⟩)

/-- Run an operation that only reads the manager. -/
def Shared.reading {W α : Type} (op : Bus W → α × Bus W) (sh : Shared W) : α × Shared W :=
  let (r, u) := op sh.bus
  (r, { sh with bus := u })

namespace Connection

variable {W : Type} (p : Platform W)

def new (stream : ServerStream) (peerAddr : SocketAddr) (sharedKey : Option Bytes) :
    Connection where
  stream := stream
  peerAddr := peerAddr
  authenticated := false
  sharedKey := sharedKey
  sessions := ∅

/-! ## Hello -/

def clientSuffix : Bytes := "wolfusb-client".toUTF8.toList

def serverSuffix : Bytes := "wolfusb-server".toUTF8.toList

/-- The HMAC of the nonce and a suffix. -/
def proof (key : Bytes) (nonce : Vector UInt8 32) (suffix : Bytes) : Bytes :=
  p.hmacSha256 key (nonce.toList ++ suffix)

def helloRefused (errorMessage : String) : Message :=
  .helloResponse
    { protocolVersion := protocolVersion, serverName := "wolfusb", authAccepted := false,
      authChallengeResponse := [], errorMessage := some errorMessage }

def helloAccepted (authChallengeResponse : Bytes) : Message :=
  .helloResponse
    { protocolVersion := protocolVersion, serverName := "wolfusb", authAccepted := true,
      authChallengeResponse, errorMessage := none }

def handleHello (conn : Connection) (req : HelloRequest) : Message × Connection :=
  if req.protocolVersion ≠ protocolVersion then
    (helloRefused ("Protocol version mismatch: server=" ++ toString protocolVersion ++
      ", client=" ++ toString req.protocolVersion), conn)
  else
    match conn.sharedKey with
    | some key =>
        if proof p key req.authNonce clientSuffix ≠ req.authProof then
          (helloRefused "Authentication failed", conn)
        else
          (helloAccepted (proof p key req.authNonce serverSuffix),
            { conn with authenticated := true })
    | none => (helloAccepted [], { conn with authenticated := true })

/-! ## Enumeration -/

def internalError (message : String) : Message := .error { code := .internalError, message }

def handleListDevices (join : Option String) (sh : Shared W) : Message × Shared W :=
  match spawnBlocking join (Shared.reading (DeviceManager.listDevices p)) sh with
  | (.ok (.ok devices), sh) => (.deviceList { devices }, sh)
  | (.ok (.error e), sh) => (.error { code := .usbError, message := e.text p }, sh)
  | (.error e, sh) => (internalError e, sh)

def handleGetDescriptors (join : Option String) (req : GetDescriptorsRequest) (sh : Shared W) :
    Message × Shared W :=
  match spawnBlocking join (Shared.reading (DeviceManager.getDescriptors p req.deviceId)) sh with
  | (.ok (.ok descriptors), sh) =>
      (.descriptorData { deviceId := req.deviceId, descriptors }, sh)
  | (.ok (.error e), sh) => (.error { code := .deviceNotFound, message := e.text p }, sh)
  | (.error e, sh) => (internalError e, sh)

/-! ## Attach and detach -/

def attachRefused (deviceId : DeviceId) (message : String) : Message :=
  .attachResult { deviceId, success := false, errorMessage := some message, sessionId := none }

def handleAttach (join : Option String) (conn : Connection) (req : AttachRequest)
    (sh : Shared W) : Message × Connection × Shared W :=
  match spawnBlocking join
      (Shared.locked fun m => m.attach p req.deviceId conn.peerAddr) sh with
  | (.ok (.ok sessionId), sh) =>
      (.attachResult { deviceId := req.deviceId, success := true, errorMessage := none,
                       sessionId := some sessionId },
        { conn with sessions := conn.sessions.insert sessionId req.deviceId }, sh)
  | (.ok (.error e), sh) => (attachRefused req.deviceId (e.text p), conn, sh)
  | (.error e, sh) => (attachRefused req.deviceId e, conn, sh)

def detachRefused (deviceId : DeviceId) (message : String) : Message :=
  .detachResult { deviceId, success := false, errorMessage := some message }

def handleDetach (join : Option String) (conn : Connection) (req : DetachRequest)
    (sh : Shared W) : Message × Connection × Shared W :=
  if req.sessionId ∉ conn.sessions then
    (detachRefused req.deviceId "Session does not belong to this connection", conn, sh)
  else
    match spawnBlocking join
        (Shared.locked fun m => m.detach p req.deviceId req.sessionId) sh with
    | (.ok (.ok ()), sh) =>
        (.detachResult { deviceId := req.deviceId, success := true, errorMessage := none },
          { conn with sessions := conn.sessions.erase req.sessionId }, sh)
    | (.ok (.error e), sh) =>
        -- "Clean up stale session even on error"
        (detachRefused req.deviceId (e.text p),
          { conn with sessions := conn.sessions.erase req.sessionId }, sh)
    | (.error e, sh) => (detachRefused req.deviceId e, conn, sh)

/-! ## Transfers -/

def transferError (sessionId : UInt64) (deviceId : DeviceId) (message : String) : Message :=
  .transferResult (Transfer.failure sessionId deviceId message)

/-- The block the three transfer handlers begin with: the connection's own
table, then the manager's check and its handle under one lock. -/
def transferHandle (conn : Connection) (sessionId : UInt64) (deviceId : DeviceId)
    (sh : Shared W) : Except String Handle × Shared W :=
  if sessionId ∉ conn.sessions then (.error "Invalid session", sh)
  else
    match sh.manager.validateSession sessionId deviceId with
    | .error e => (.error (e.text p), sh)
    | .ok () =>
        match sh.manager.getHandle p deviceId sh.bus with
        | (.error e, u) => (.error (e.text p), { sh with bus := u })
        | (.ok h, u) => (.ok h, { sh with bus := u })

/-- A transfer handler with its session, its device and what it runs on
the handle. -/
def handleTransfer (join : Option String) (conn : Connection) (sessionId : UInt64)
    (deviceId : DeviceId) (execute : Handle → Bus W → TransferResponse × Bus W)
    (sh : Shared W) : Message × Shared W :=
  match transferHandle p conn sessionId deviceId sh with
  | (.error e, sh) => (transferError sessionId deviceId e, sh)
  | (.ok handle, sh) =>
      match spawnBlocking join (Shared.reading (execute handle)) sh with
      | (.ok resp, sh) => (.transferResult resp, sh)
      | (.error e, sh) => (internalError e, sh)

def handleControlTransfer (join : Option String) (conn : Connection)
    (req : ControlTransferRequest) : Shared W → Message × Shared W :=
  handleTransfer p join conn req.sessionId req.deviceId
    (fun handle => Transfer.executeControlTransfer p handle req)

def handleBulkTransfer (join : Option String) (conn : Connection)
    (req : BulkTransferRequest) : Shared W → Message × Shared W :=
  handleTransfer p join conn req.sessionId req.deviceId
    (fun handle => Transfer.executeBulkTransfer p handle req)

def handleInterruptTransfer (join : Option String) (conn : Connection)
    (req : InterruptTransferRequest) : Shared W → Message × Shared W :=
  handleTransfer p join conn req.sessionId req.deviceId
    (fun handle => Transfer.executeInterruptTransfer p handle req)

/-! ## Interfaces and configuration -/

/-- The claim, release and configuration handlers: the connection's own
table, then one manager operation, whose outcome is the reply. -/
def handleInterface (join : Option String) (conn : Connection) (sessionId : UInt64)
    (op : DeviceManager → Bus W → Except WolfUsbError Unit × DeviceManager × Bus W)
    (result : Bool → Option String → Message) (sh : Shared W) : Message × Shared W :=
  if sessionId ∉ conn.sessions then (result false (some "Invalid session"), sh)
  else
    match spawnBlocking join (Shared.locked op) sh with
    | (.ok (.ok ()), sh) => (result true none, sh)
    | (.ok (.error e), sh) => (result false (some (e.text p)), sh)
    | (.error e, sh) => (result false (some e), sh)

def handleClaimInterface (join : Option String) (conn : Connection)
    (req : ClaimInterfaceRequest) : Shared W → Message × Shared W :=
  handleInterface p join conn req.sessionId
    (fun m => m.claimInterface p req.deviceId req.interfaceNumber)
    (fun success errorMessage => .claimInterfaceResult { success, errorMessage })

def handleReleaseInterface (join : Option String) (conn : Connection)
    (req : ReleaseInterfaceRequest) : Shared W → Message × Shared W :=
  handleInterface p join conn req.sessionId
    (fun m => m.releaseInterface p req.deviceId req.interfaceNumber)
    (fun success errorMessage => .releaseInterfaceResult { success, errorMessage })

def handleSetConfiguration (join : Option String) (conn : Connection)
    (req : SetConfigurationRequest) : Shared W → Message × Shared W :=
  handleInterface p join conn req.sessionId
    (fun m => m.setConfiguration p req.deviceId req.configuration)
    (fun success errorMessage => .setConfigurationResult { success, errorMessage })

/-! ## Bridge -/

/-- `format!("{}-{}-{}", bus_number, address, port_number)`. -/
def bridgeBusid (device : UsbDevice) : String :=
  toString device.busNumber ++ "-" ++ toString device.address ++ "-" ++ toString device.portNumber

/-- The closure of `handle_bridge`: the first device of the global list at
the requested bus and address. -/
def lookupBridgeBusid (deviceId : DeviceId) (u : Bus W) : Option String × Bus W :=
  match p.call .globalDevices u with
  | (.error _, u) => (none, u)
  | (.ok devices, u) =>
      ((devices.find? (fun d => d.busNumber == deviceId.busNumber &&
        d.address == deviceId.address)).map bridgeBusid, u)

/-- `.await.ok().flatten()`. -/
def joinFlatten {α : Type} : Except String (Option α) → Option α
  | .ok r => r
  | .error _ => none

def bridgeAccepted (deviceId : DeviceId) (busid : String) : Message :=
  .bridgeAccepted
    { deviceId, busid, devid := 0, speed := 0, vendorId := 0, productId := 0, bcdDevice := 0,
      deviceClass := 0, deviceSubclass := 0, deviceProtocol := 0, numConfigurations := 0,
      numInterfaces := 0, configValue := 0 }

def handleBridge (join : Option String) (req : BridgeRequest) (sh : Shared W) :
    Action × Shared W :=
  let (r, sh) := spawnBlocking join (Shared.reading (lookupBridgeBusid p req.deviceId)) sh
  match joinFlatten r with
  | none =>
      (.reply (.bridgeRejected
        { errorMessage := "Device not found at bus=" ++ toString req.deviceId.busNumber ++
            " addr=" ++ toString req.deviceId.address }), sh)
  | some busid => (.bridge (bridgeAccepted req.deviceId busid) req.deviceId, sh)

/-! ## Dispatch -/

/-- The guard of the third match arm. -/
def gated (conn : Connection) : Bool := conn.sharedKey.isSome && !conn.authenticated

def notAuthenticated : Message :=
  .error { code := .authenticationFailed, message := "Not authenticated. Send Hello first." }

/-- The arms of `handle_message` after the gate. -/
def dispatch (join : Option String) (conn : Connection) (msg : Message) (sh : Shared W) :
    Action × Connection × Shared W :=
  -- the handlers that leave the connection as it is
  let keep (r : Message × Shared W) : Action × Connection × Shared W := (.reply r.1, conn, r.2)
  match msg with
  | .listDevices => keep (handleListDevices p join sh)
  | .getDescriptors req => keep (handleGetDescriptors p join req sh)
  | .attach req =>
      let (r, conn, sh) := handleAttach p join conn req sh
      (.reply r, conn, sh)
  | .detach req =>
      let (r, conn, sh) := handleDetach p join conn req sh
      (.reply r, conn, sh)
  | .controlTransfer req => keep (handleControlTransfer p join conn req sh)
  | .bulkTransfer req => keep (handleBulkTransfer p join conn req sh)
  | .interruptTransfer req => keep (handleInterruptTransfer p join conn req sh)
  | .claimInterface req => keep (handleClaimInterface p join conn req sh)
  | .releaseInterface req => keep (handleReleaseInterface p join conn req sh)
  | .setConfiguration req => keep (handleSetConfiguration p join conn req sh)
  | .bridge req =>
      let (action, sh) := handleBridge p join req sh
      (action, conn, sh)
  | _ => (.reply (internalError "Unexpected message type"), conn, sh)

def handleMessage (join : Option String) (conn : Connection) (msg : Message) (sh : Shared W) :
    Action × Connection × Shared W :=
  match msg with
  | .hello req =>
      let (r, conn) := handleHello p conn req
      (.reply r, conn, sh)
  | .ping => (.reply .pong, conn, sh)
  | msg => if conn.gated then (.reply notAuthenticated, conn, sh) else dispatch p join conn msg sh

/-! ## Cleanup -/

/-- `cleanup`, with the keys of the table in the order the map yields
them. The join error of the blocking task is dropped by `.ok()`. -/
def cleanup (join : Option String) (keys : List UInt64) (conn : Connection) (sh : Shared W) :
    Connection × Shared W :=
  if conn.sessions.keys = ∅ then (conn, sh)
  else
    let (_, sh) := spawnBlocking join
      (fun sh =>
        let (m, u) := DeviceManager.detachAllForSessions p keys sh.manager sh.bus
        ((), ⟨m, u⟩)) sh
    ({ conn with sessions := ∅ }, sh)

end Connection

end WolfUsb
