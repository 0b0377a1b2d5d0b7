/-
WolfUsb.Client.Arguments — the arguments the CLI parses itself (`main.rs`):
the numbers of a control, bulk or interrupt command and its `--data`.

clap parses the others. `none` is a panic.
-/
import WolfUsb.Client.Commands
import WolfUsb.Client.Display

namespace WolfUsb

open Lib

namespace Arguments

/-- `parse_u8_hex` and `parse_u16_hex`, for a type whose greatest value is
`max`: hexadecimal behind `0x` or `0X`, else decimal. -/
def parseHex (max : Nat) (s : String) : Except AnyhowError Nat :=
  let number :=
    match (stripPrefix "0x" s).or (stripPrefix "0X" s) with
    | some hex => fromStrRadix 16 max hex
    | none => fromStrRadix 10 max s
  number.mapError fun e => [e.text]

def parseU8Hex (s : String) : Except AnyhowError UInt8 := (parseHex 255 s).map UInt8.ofNat

def parseU16Hex (s : String) : Except AnyhowError UInt16 := (parseHex 65535 s).map UInt16.ofNat

/-- The bytes of `--data`. -/
def dataBytes : Option String → Option (Except AnyhowError Bytes)
  | some hex => Display.parseHexData hex
  | none => some (.ok [])

end Arguments

open Arguments

/-- `wolfusb control`. -/
structure ControlArgs where
  sessionId : UInt64
  bus : UInt8
  addr : UInt8
  requestType : String
  request : String
  value : String
  index : String
  length : UInt16 := 0
  data : Option String := none
  timeout : UInt64 := 5000

/-- The numbers are parsed before the data. -/
def ControlArgs.command (args : ControlArgs) : Option (Except AnyhowError Command) :=
  let numbers : Except AnyhowError (UInt8 × UInt8 × UInt16 × UInt16) := do
    let requestType ← parseU8Hex args.requestType
    let request ← parseU8Hex args.request
    let value ← parseU16Hex args.value
    let index ← parseU16Hex args.index
    return (requestType, request, value, index)
  match numbers with
  | .error e => some (.error e)
  | .ok (requestType, request, value, index) =>
      (dataBytes args.data).map (·.map fun data =>
        .control args.sessionId args.bus args.addr requestType request value index args.length data
          args.timeout)

/-- `wolfusb bulk` and `wolfusb interrupt`. -/
structure EndpointArgs where
  sessionId : UInt64
  bus : UInt8
  addr : UInt8
  endpoint : String
  length : UInt32 := 0
  data : Option String := none
  timeout : UInt64 := 5000

/-- The command, of these values, an endpoint and bytes. -/
def EndpointArgs.command
    (make : UInt64 → UInt8 → UInt8 → UInt8 → UInt32 → Bytes → UInt64 → Command)
    (args : EndpointArgs) : Option (Except AnyhowError Command) :=
  match parseU8Hex args.endpoint with
  | .error e => some (.error e)
  | .ok endpoint =>
      (dataBytes args.data).map (·.map fun data =>
        make args.sessionId args.bus args.addr endpoint args.length data args.timeout)

def EndpointArgs.bulk : EndpointArgs → Option (Except AnyhowError Command) := command .bulk

def EndpointArgs.interrupt : EndpointArgs → Option (Except AnyhowError Command) :=
  command .interrupt

end WolfUsb
