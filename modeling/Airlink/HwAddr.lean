import Airlink.Bytes.Hex

/-!
# Hardware addresses

Six octets. The lowest bit of the first octet marks a group address; all ones is the broadcast
address. In text an address is six groups of two characters with `:` or `-` between them; `format`
writes lower-case digits and colons. `ofText?` also takes a plus sign as the first of the two
characters, as readers of signed numbers do.
-/

namespace Airlink

/-- A hardware address. -/
structure HwAddr where
  b0 : UInt8
  b1 : UInt8
  b2 : UInt8
  b3 : UInt8
  b4 : UInt8
  b5 : UInt8
  deriving DecidableEq, Repr, Inhabited

namespace HwAddr

/-- The number of octets of an address. -/
def size : Nat := 6

/-- The address all of whose bits are set. -/
def broadcast : HwAddr := ⟨0xff, 0xff, 0xff, 0xff, 0xff, 0xff⟩

/-- The octets in transmission order. -/
def toBytes (a : HwAddr) : Bytes := [a.b0, a.b1, a.b2, a.b3, a.b4, a.b5]

/-- The address with the given six octets. -/
def ofBytes? : Bytes → Option HwAddr
  | [b0, b1, b2, b3, b4, b5] => some ⟨b0, b1, b2, b3, b4, b5⟩
  | _ => none

/-- The address at a position of a frame, if the frame reaches that far. -/
def at? (data : Bytes) (pos : Nat) : Option HwAddr :=
  (Bytes.slice? data pos size).bind ofBytes?

/-- The address at a position of a frame, with zeros for octets behind the end. -/
def ofSlice (data : Bytes) (pos : Nat) : HwAddr :=
  ⟨data.byteAt pos, data.byteAt (pos + 1), data.byteAt (pos + 2),
    data.byteAt (pos + 3), data.byteAt (pos + 4), data.byteAt (pos + 5)⟩

@[simp] theorem length_toBytes (a : HwAddr) : a.toBytes.length = 6 := rfl

@[simp] theorem ofBytes?_toBytes (a : HwAddr) : ofBytes? a.toBytes = some a := rfl

/-- Whether the address names a group of stations (the broadcast address included). -/
def isGroup (a : HwAddr) : Bool := a.b0 &&& 0x01 != 0

/-- Whether the address is the broadcast address. -/
def isBroadcast (a : HwAddr) : Bool := a == broadcast

/-! ## Text -/

/-- The characters of the written form, two digits to the octet and colons between. -/
def chars (a : HwAddr) : List Char :=
  Bytes.Hex.pair a.b0 ++ ':' :: Bytes.Hex.pair a.b1 ++ ':' :: Bytes.Hex.pair a.b2 ++
    ':' :: Bytes.Hex.pair a.b3 ++ ':' :: Bytes.Hex.pair a.b4 ++ ':' :: Bytes.Hex.pair a.b5

/-- The written form of an address, such as `02:00:00:00:00:0a`. -/
def format (a : HwAddr) : String := String.ofList a.chars

/-- The characters that separate the groups of an address. -/
def isSeparator (c : Char) : Bool := c == ':' || c == '-'

/-- The groups between separators; there is one more of them than there are separators. -/
def groups : List Char → List (List Char)
  | [] => [[]]
  | c :: cs =>
    if isSeparator c then [] :: groups cs
    else
      match groups cs with
      | g :: gs => (c :: g) :: gs
      | [] => [[c]]

/-- The octet that a group stands for: two digits, or a plus sign and one digit. -/
def octet? : List Char → Option UInt8
  | [hi, lo] =>
    if hi = '+' then (Bytes.Hex.value? lo).map UInt8.ofNat
    else
      (Bytes.Hex.value? hi).bind fun h =>
        (Bytes.Hex.value? lo).map fun l => UInt8.ofNat (16 * h + l)
  | _ => none

/-- The address a list of characters names. -/
def ofChars? (cs : List Char) : Option HwAddr :=
  ((groups cs).mapM octet?).bind ofBytes?

/-- The address a text names. -/
def ofText? (text : String) : Option HwAddr := ofChars? text.toList

end HwAddr

end Airlink
