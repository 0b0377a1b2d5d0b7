/-
WolfUsb.Client.Display — bytes as text (`client/display.rs`): the dump of
what a transfer returned, and the `--data` of a command.

`parse_hex_data` takes slices of a string at byte offsets; where Rust
would panic on one the model is `none`.
-/
import WolfUsb.Lib.Columns
import WolfUsb.Lib.Slices
import WolfUsb.Protocol.Types
import WolfUsb.Server.Sysfs

namespace WolfUsb.Display

open Lib

/-! ## `hex_dump` -/

/-- `format!("{n:0width$x}")`. -/
def lowerHex (width n : Nat) : List Char := zeroPadded 16 width n

/-- A byte between the bars: `is_ascii_graphic` or a blank, else a point. -/
def shown (byte : UInt8) : Char :=
  if 0x21 ≤ byte ∧ byte ≤ 0x7e ∨ byte = 0x20 then Char.ofNat byte.toNat else '.'

/-- The loop over the bytes of a chunk. -/
def hexColumns (chunk : Bytes) : List Char :=
  chunk.zipIdx.flatMap fun (byte, j) =>
    (if j = 8 then [' '] else []) ++ lowerHex 2 byte.toNat ++ [' ']

/-- The loop that pads a short line. -/
def padding (length : Nat) : List Char :=
  (List.range (16 - length)).flatMap fun j =>
    (if length + j = 8 then [' '] else []) ++ [' ', ' ', ' ']

def dumpLine (offset : Nat) (chunk : Bytes) : List Char :=
  lowerHex 8 offset ++ [' ', ' '] ++ hexColumns chunk ++ padding chunk.length ++ [' ', '|'] ++
    chunk.map shown ++ ['|', '\n']

def hexDump (data : Bytes) : String :=
  String.ofList ((chunks 16 data).zipIdx.flatMap fun (chunk, i) => dumpLine (i * 16) chunk)

/-! ## `parse_hex_data` -/

/-- Without blanks, colons and tabs, then without `0x`, then without `0X`. -/
def strip (hexStr : String) : String :=
  remove "0X" (remove "0x" (removeChars [' ', ':', '\t'] hexStr))

/-- What the closure makes of its slice. -/
def pairByte (i : Nat) (pair : String) : Except AnyhowError UInt8 :=
  match fromStrRadix 16 255 pair with
  | .ok n => .ok (UInt8.ofNat n)
  | .error e => .error ["Invalid hex at position " ++ toString i ++ ": " ++ e.text]

/-- The closure of the `map`. -/
def hexByte (hexStr : String) (i : Nat) : Option (Except AnyhowError UInt8) :=
  (slice hexStr i (i + 2)).map (pairByte i)

/-- `collect`, which stops at the first error. -/
def collect (f : Nat → Option (Except AnyhowError UInt8)) :
    List Nat → Option (Except AnyhowError Bytes)
  | [] => some (.ok [])
  | i :: rest =>
      match f i with
      | none => none
      | some (.error e) => some (.error e)
      | some (.ok byte) => (collect f rest).map (·.map (byte :: ·))

def parseHexData (hexStr : String) : Option (Except AnyhowError Bytes) :=
  let hexStr := strip hexStr
  let len := byteLength hexStr.toList
  if len % 2 ≠ 0 then some (.error ["Hex string must have even number of characters"])
  else collect (hexByte hexStr) (List.range' 0 ((len + 1) / 2) 2)

/-- Two spellings, and a character of two bytes in the place of a pair. -/
example :
    parseHexData "0x1A:ff" = some (.ok [0x1a, 0xff]) ∧
      parseHexData "é" = some (.error
        ["Invalid hex at position 0: invalid digit found in string"]) := by
  decide +kernel

end WolfUsb.Display
