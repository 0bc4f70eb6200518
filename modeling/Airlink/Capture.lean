import Airlink.Bytes.Hex
import Airlink.Descriptor.Document
import Airlink.Error
import Airlink.Text.Blank
import Airlink.Text.Json.Bounded
import Airlink.Text.Json.Reader
import Airlink.Text.Quoted
import Airlink.Text.Utf8

/-!
# Captures

A capture is a list of frames from firmware, frames from the host, and turns of the backlogs. It is
read from JSON, with the octets of frames as hexadecimal text that may have blanks and colons in it.
-/

namespace Airlink

open Text (Doc Json)

/-- One entry of a capture. -/
inductive CapturedFrame where
  /-- A frame from firmware, with its receive descriptor. -/
  | rx (data : String)
  /-- A frame from the host. -/
  | tx (bss : UInt8) (data : String) (hints : TransmitHints)
  /-- The backlogs get so many turns. -/
  | service (rounds : UInt64)
  deriving DecidableEq, Repr

namespace CapturedFrame

/-- The entry with a name and the fields that a document holds. -/
def ofDoc? (name : String) (d : Doc) : Option CapturedFrame := do
  if name = "rx" then
    match ← d.record? ["data"] with
    | [data] => return .rx (← Doc.required? Doc.text? data)
    | _ => none
  else if name = "tx" then
    match ← d.record? ["bss_num", "data", "hints"] with
    | [bss, data, hints] =>
      return .tx (← Doc.required? Doc.uint8? bss) (← Doc.required? Doc.text? data)
        (← Doc.field? .none TransmitHints.ofDoc? hints)
    | _ => none
  else if name = "service" then
    match ← d.record? ["rounds"] with
    | [rounds] => return .service (← Doc.required? Doc.uint64? rounds)
    | _ => none
  else none

/-- The number of lists and objects that may stand within each other in an entry, itself one. -/
def depthLimit : Nat := 125

/-- The entry that a JSON value is: an object whose member `dir` says which one, or a list of this
name and the fields in their order. -/
def ofJson? (v : Json) : Option CapturedFrame :=
  if v.isBounded depthLimit then
    match v with
    | .object members =>
      match members.filter fun m => m.1 = some "dir" with
      | [(_, .text (some name))] =>
        ofDoc? name (Json.object (members.filter fun m => m.1 ≠ some "dir")).toDoc
      | _ => none
    | .array (.text (some name) :: items) => ofDoc? name (Json.array items).toDoc
    | _ => none
  else none

end CapturedFrame

namespace Capture

/-- The entries of the capture that a JSON value is. -/
def entries? : Json → Option (List Json)
  | .array [.array items] => some items
  | .object members =>
    if members.all fun m => m.1.isSome then
      match members.filter fun m => m.1 = some "frames" with
      | [(_, .array items)] => some items
      | _ => none
    else none
  | _ => none

/-- The capture that a text is. -/
def parse (text : String) : Except Error (List CapturedFrame) :=
  match (Json.parse? text).bind entries? with
  | none => .error .json
  | some items =>
    match items.mapM CapturedFrame.ofJson? with
    | some frames => .ok frames
    | none => .error .json

/-- The sentence about a text that is not hexadecimal. -/
def faultText : Bytes.Hex.Fault → String
  | .oddLength => "Odd number of digits"
  | .invalidDigit octet index =>
    let shown := Text.Quoted.char (Char.ofNat octet.toNat)
    s!"Invalid character {shown} at position {index}"

/-- The octets that a hexadecimal text with blanks and colons in it stands for. -/
def octets (text : String) : Except Error Bytes :=
  let digits := text.toList.filter fun c => !Text.isBlank c && c ≠ ':'
  match Bytes.Hex.decode (Text.Utf8.encode (String.ofList digits)) with
  | .ok data => .ok data
  | .error fault => .error (.invalidParameter s!"bad hex input: {faultText fault}")

end Capture

end Airlink
