/-
WolfUsb.Error — `WolfUsbError` and its texts (`error.rs`).

The payload of a variant that wraps an error of another crate is that
error's own text, except for `usbError`, whose `rusb::Error` the server
looks at.
-/
import WolfUsb.Server.Usb

namespace WolfUsb

inductive WolfUsbError where
  | connectionFailed (source : String)
  | protocolError (message : String)
  | versionMismatch (localVersion remoteVersion : UInt32)
  | serializationError (source : String)
  | deserializationError (source : String)
  | usbError (source : RusbError)
  | deviceNotFound (bus addr : UInt8)
  | deviceAlreadyAttached
  | deviceNotAttached
  | invalidSession (sessionId : UInt64)
  | authenticationFailed (message : String)
  | frameTooLarge (size max : UInt32)
  | unexpectedMessage (expected got : String)
  | connectionClosed
  deriving DecidableEq, Repr

/-- `e.to_string()`. -/
def WolfUsbError.text {W : Type} (p : Platform W) : WolfUsbError → String
  | connectionFailed source => "Connection failed: " ++ source
  | protocolError message => "Protocol error: " ++ message
  | versionMismatch l r =>
      "Protocol version mismatch: local=" ++ toString l ++ ", remote=" ++ toString r
  | serializationError source => "Serialization error: " ++ source
  | deserializationError source => "Deserialization error: " ++ source
  | usbError source => "USB error: " ++ p.usbErrorText source
  | deviceNotFound bus addr =>
      "Device not found: bus=" ++ toString bus ++ " addr=" ++ toString addr
  | deviceAlreadyAttached => "Device already attached by another client"
  | deviceNotAttached => "Device not attached (no active session)"
  | invalidSession sessionId => "Invalid session ID: " ++ toString sessionId
  | authenticationFailed message => "Authentication failed: " ++ message
  | frameTooLarge size max =>
      "Frame too large: " ++ toString size ++ " bytes (max " ++ toString max ++ ")"
  | unexpectedMessage expected got =>
      "Unexpected message: expected " ++ expected ++ ", got " ++ got
  | connectionClosed => "Connection closed"

end WolfUsb
