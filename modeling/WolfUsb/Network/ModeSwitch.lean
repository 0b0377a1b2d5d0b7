/-
WolfUsb.Network.ModeSwitch — `cmd_mount` and one connection of the server,
byte by byte, from the Hello to the traffic of the two kernels.

Both sides begin with a `Framed` codec on the socket and end with the bare
socket: `into_inner` drops whatever the codec has buffered. A side reads
any number of bytes that are on their way, writes any number of the bytes
it has to write, and goes on where what it waits for is complete; the
sides take their steps in any order. A side that fails takes no further
step.

Of the server there is this connection: what the rest of it does shows in
the shared state a message is handled with, and what sysfs and the device
do, in the environment of the bridge task.
-/
import WolfUsb.Client.Mount
import WolfUsb.Client.Session
import WolfUsb.Lib.Channel
import WolfUsb.Protocol.Codec
import WolfUsb.Server.Import

namespace WolfUsb

open WolfUsb.Lib

/-- The two buffers of a `Framed`. -/
structure Framed where
  read : Bytes
  write : Bytes
  deriving DecidableEq

/-! ## The client -/

/-- Where `cmd_mount` is. `unsent` is what it has left to write. -/
inductive ClientPc where
  | start
  | sendHello (f : Framed)
  | awaitHello (f : Framed)
  | sendBridge (f : Framed)
  | awaitBridge (f : Framed)
  /-- At `into_inner`. -/
  | switching (f : Framed) (busid : String)
  | sendImport (busid : String) (req unsent : Bytes)
  | readHeader (busid : String) (req hdr : Bytes)
  | readDevice (req hdr dev : Bytes)
  /-- OP_REP_IMPORT is read; the fd is handed over next. -/
  | attaching (req rep : Bytes)
  /-- The kernel has the fd, and has sent and received. -/
  | handed (req rep sent got : Bytes)
  deriving DecidableEq

section Client

variable {W : Type} (p : Platform W) (debug : Message → String) (b : Bincode)
  (key : Option Bytes) (authNonce : Vector UInt8 32) (bus addr : UInt8)

namespace ClientPc

/-- Bytes arrive. `Framed` reads only when it has no whole frame, and
`read_exact` no more than it was asked for. -/
def receive (chunk : Bytes) : ClientPc → Option ClientPc
  | .awaitHello f =>
      match Codec.decode b f.read with
      | .more => some (.awaitHello { f with read := f.read ++ chunk })
      | _ => none
  | .awaitBridge f =>
      match Codec.decode b f.read with
      | .more => some (.awaitBridge { f with read := f.read ++ chunk })
      | _ => none
  | .readHeader busid req hdr =>
      if (hdr ++ chunk).length ≤ 8 then some (.readHeader busid req (hdr ++ chunk)) else none
  | .readDevice req hdr dev =>
      if (dev ++ chunk).length ≤ 312 then some (.readDevice req hdr (dev ++ chunk)) else none
  | .handed req rep sent got => some (.handed req rep sent (got ++ chunk))
  | _ => none

/-- What is left to write, and the place after the first `n` bytes of it. -/
def write (n : Nat) : ClientPc → Option (Bytes × ClientPc)
  | .sendHello f => some (f.write.take n, .sendHello { f with write := f.write.drop n })
  | .sendBridge f => some (f.write.take n, .sendBridge { f with write := f.write.drop n })
  | .sendImport busid req unsent => some (unsent.take n, .sendImport busid req (unsent.drop n))
  | _ => none

/-- `framed.send`: the message goes to the write buffer first. -/
def send (m : Message) (f : Framed) (next : Framed → ClientPc) : Option ClientPc :=
  match Codec.encode b m f.write with
  | .error _ => none
  | .ok write => some (next { f with write })

/-- The next place, when what this one waits for is complete; `some none`
is an error that ends the command. -/
def advance : ClientPc → Option (Option ClientPc)
  | .start => some (send b (Mount.helloMessage p key authNonce) ⟨[], []⟩ .sendHello)
  | .sendHello f => if f.write = [] then some (some (.awaitHello f)) else none
  | .awaitHello f =>
      match Codec.decode b f.read with
      | .more => none
      | .failed _ => some none
      | .item m rest =>
          match Mount.doHello p debug key authNonce (.ok ()) (some (.ok m)) with
          | .error _ => some none
          | .ok () => some (send b (Mount.bridgeRequest bus addr) { f with read := rest } .sendBridge)
  | .sendBridge f => if f.write = [] then some (some (.awaitBridge f)) else none
  | .awaitBridge f =>
      match Codec.decode b f.read with
      | .more => none
      | .failed _ => some none
      | .item m rest =>
          match Mount.sendBridge debug (.ok ()) (some (.ok m)) with
          | .error _ => some none
          | .ok busid => some (some (.switching { f with read := rest } busid))
  | .switching _ busid =>
      -- the buffers are dropped here
      match Mount.importRequest busid with
      | .error _ => some none
      | .ok req => some (some (.sendImport busid req req))
  | .sendImport busid req unsent =>
      if unsent = [] then some (some (.readHeader busid req [])) else none
  | .readHeader busid req hdr =>
      if hdr.length = 8 then
        match Mount.checkHeader busid hdr with
        | .error _ => some none
        | .ok () => some (some (.readDevice req hdr []))
      else none
  | .readDevice req hdr dev =>
      if dev.length = 312 then some (some (.attaching req (hdr ++ dev))) else none
  | .attaching req rep => some (some (.handed req rep [] []))
  | .handed _ _ _ _ => none

/-- The kernel sends. -/
def kernelSend (bytes : Bytes) : ClientPc → Option ClientPc
  | .handed req rep sent got => some (.handed req rep (sent ++ bytes) got)
  | _ => none

end ClientPc

end Client

/-! ## The server -/

/-- The bridge task after `into_inner`: its place, what `from_sysfs` gave,
the bytes of the request read so far, the reply it made with what of it is
unsent, and what the kernel has sent and received. -/
structure Bridging where
  task : Bridge.Pc
  info : Option KernelUsbip.DeviceInfo := none
  req : Bytes := []
  reply : Bytes := []
  unsent : Bytes := []
  sent : Bytes := []
  got : Bytes := []

inductive ServerPc where
  | serving (conn : Connection) (f : Framed)
  /-- The reply is being sent, before the loop goes on or the connection
  is handed off to a device's bridge. -/
  | replying (conn : Connection) (f : Framed) (target : Option DeviceId)
  /-- At `into_inner`. -/
  | switching (f : Framed) (target : DeviceId)
  | bridging (g : Bridging)

/-- What the outside decides for one step of the server. -/
structure ServerEnv (W : Type) where
  /-- The join error of the handler's blocking task, if it is lost. -/
  join : Option String := none
  /-- The shared state a message is handled with. -/
  shared : Shared W
  bridge : Bridge.BridgeEnv
  device : KernelUsbip.SysfsDevice
  /-- What `from_sysfs` reads. -/
  info : KernelUsbip.DeviceInfo

namespace ServerPc

variable {W : Type} (p : Platform W) (b : Bincode)

def receive (chunk : Bytes) : ServerPc → Option ServerPc
  | .serving conn f =>
      match Codec.decode b f.read with
      | .more => some (.serving conn { f with read := f.read ++ chunk })
      | _ => none
  | .bridging g =>
      match g.task with
      | .readRequest =>
          if (g.req ++ chunk).length ≤ 40 then some (.bridging { g with req := g.req ++ chunk })
          else none
      | .wait => some (.bridging { g with got := g.got ++ chunk })
      | _ => none
  | _ => none

def write (n : Nat) : ServerPc → Option (Bytes × ServerPc)
  | .replying conn f target =>
      some (f.write.take n, .replying conn { f with write := f.write.drop n } target)
  | .bridging g =>
      match g.task with
      | .sendReply => some (g.unsent.take n, .bridging { g with unsent := g.unsent.drop n })
      | _ => none
  | _ => none

/-- After the request is read: the reply is made, if that goes well. -/
def requestRead (g : Bridging) : Bridge.Pc → Option Bridging
  | .sendReply =>
      g.info.map fun info =>
        { g with
          task := .sendReply
          reply := Bridge.importReply info
          unsent := Bridge.importReply info }
  | task => some { g with task }

/-- One operation of the bridge task. `read_exact` needs all 40 bytes and
`write_all` all 320, unless they fail. -/
def operate (env : ServerEnv W) (g : Bridging) : Option Bridging :=
  match g.task with
  | .readInfo =>
      some { g with task := (Bridge.step env.bridge .readInfo env.device).1, info := some env.info }
  | .readRequest =>
      match env.bridge.request with
      | none => some { g with task := (Bridge.step env.bridge .readRequest env.device).1 }
      | some _ =>
          if h : g.req.length = 40 then
            let request : Vector UInt8 40 := ⟨g.req.toArray, by simpa using h⟩
            requestRead g
              (Bridge.step { env.bridge with request := some request } .readRequest env.device).1
          else none
  | .sendReply =>
      if env.bridge.replySent && g.unsent ≠ [] then none
      else some { g with task := (Bridge.step env.bridge .sendReply env.device).1 }
  | task => some { g with task := (Bridge.step env.bridge task env.device).1 }

/-- The message the action carries, and the device of a hand-off. -/
def targetOf : Action → Option DeviceId
  | .reply _ => none
  | .bridge _ target => some target

/-- The next place and the reply that was put in the write buffer, if one
was; `some none` is the end of the connection. -/
def advance (env : ServerEnv W) : ServerPc → Option (Option (ServerPc × Option Message))
  | .serving conn f =>
      match Codec.decode b f.read with
      | .more => none
      | .failed _ => some none
      | .item m rest =>
          match conn.handleMessage p env.join m env.shared with
          | (action, conn, _) =>
              match Codec.encode b action.message f.write with
              | .error _ => some none
              | .ok write =>
                  some (some (.replying conn ⟨rest, write⟩ (targetOf action), some action.message))
  | .replying conn f target =>
      if f.write = [] then
        match target with
        | none => some (some (.serving conn f, none))
        | some target => some (some (.switching f target, none))
      else none
  | .switching _ _ =>
      -- the buffers are dropped here
      some (some (.bridging { task := .lookup }, none))
  | .bridging g => (operate env g).map fun g => some (.bridging g, none)

def kernelSend (bytes : Bytes) : ServerPc → Option ServerPc
  | .bridging g =>
      match g.task with
      | .wait => some (.bridging { g with sent := g.sent ++ bytes })
      | _ => none
  | _ => none

end ServerPc

/-! ## Both -/

/-- The client, the server's connection, and the two directions of the
stream. `replies` are the messages the server has put in its write buffer
so far. -/
structure Switchover where
  client : ClientPc
  clientLive : Bool
  server : ServerPc
  serverLive : Bool
  up : Channel UInt8
  down : Channel UInt8
  replies : List Message

inductive SwitchEvent (W : Type) where
  | client
  | clientRead (n : Nat)
  | clientWrite (n : Nat)
  | clientKernel (bytes : Bytes)
  /-- An I/O error or the end of the stream. -/
  | clientFails
  | server (env : ServerEnv W)
  | serverRead (n : Nat)
  | serverWrite (n : Nat)
  | serverKernel (bytes : Bytes)
  | serverFails

namespace Switchover

variable {W : Type} (p : Platform W) (debug : Message → String) (b : Bincode)
  (key : Option Bytes) (authNonce : Vector UInt8 32) (bus addr : UInt8)

/-- A client about to say hello on a connection just accepted. -/
def start (peerAddr : SocketAddr) (sharedKey : Option Bytes) : Switchover where
  client := .start
  clientLive := true
  server := .serving (.new .plain peerAddr sharedKey) ⟨[], []⟩
  serverLive := true
  up := {}
  down := {}
  replies := []

/-- What a living client does. -/
def clientStep (s : Switchover) : SwitchEvent W → Option Switchover
  | .client =>
      (s.client.advance p debug b key authNonce bus addr).map fun
        | none => { s with clientLive := false }
        | some client => { s with client }
  | .clientRead n =>
      (s.client.receive b (s.down.pending.take n)).map fun client =>
        { s with client, down := s.down.read n }
  | .clientWrite n =>
      (s.client.write n).map fun (bytes, client) => { s with client, up := s.up.write bytes }
  | .clientKernel bytes =>
      (s.client.kernelSend bytes).map fun client => { s with client, up := s.up.write bytes }
  | .clientFails => some { s with clientLive := false }
  | _ => none

/-- What a living connection does. -/
def serverStep (s : Switchover) : SwitchEvent W → Option Switchover
  | .server env =>
      (s.server.advance p b env).map fun
        | none => { s with serverLive := false }
        | some (server, reply) => { s with server, replies := s.replies ++ reply.toList }
  | .serverRead n =>
      (s.server.receive b (s.up.pending.take n)).map fun server =>
        { s with server, up := s.up.read n }
  | .serverWrite n =>
      (s.server.write n).map fun (bytes, server) => { s with server, down := s.down.write bytes }
  | .serverKernel bytes =>
      (s.server.kernelSend bytes).map fun server => { s with server, down := s.down.write bytes }
  | .serverFails => some { s with serverLive := false }
  | _ => none

def step (s : Switchover) (e : SwitchEvent W) : Option Switchover :=
  match e with
  | .client | .clientRead _ | .clientWrite _ | .clientKernel _ | .clientFails =>
      if s.clientLive then s.clientStep p debug b key authNonce bus addr e else none
  | _ => if s.serverLive then s.serverStep p b e else none

end Switchover

end WolfUsb
