import Airlink.Bytes
import Airlink.Capabilities

/-!
# Information elements

Management frames describe a station by a sequence of elements: an identifier, a length and a body
of that many octets. `Element.cut` finds the elements of a sequence and what is left over;
`Capabilities.ofElements` joins what they announce.
-/

namespace Airlink

/-- An information element. -/
structure Element where
  id : UInt8
  body : Bytes
  deriving DecidableEq, Repr, Inhabited

namespace Element

/-- HT capabilities. -/
def htId : UInt8 := 45
/-- QoS capability. -/
def qosId : UInt8 := 46
/-- Extended capabilities. -/
def extendedId : UInt8 := 127
/-- VHT capabilities. -/
def vhtId : UInt8 := 191
/-- An element of a vendor, named by the first octets of the body. -/
def vendorId : UInt8 := 221
/-- An element whose first body octet is a further identifier. -/
def extensionId : UInt8 := 255
/-- The further identifier of HE capabilities. -/
def heExtension : UInt8 := 35
/-- The octets that open a WMM element. -/
def wmm : Bytes := [0x00, 0x50, 0xf2, 0x02]

/-- The octets of an element. -/
def encode (e : Element) : Bytes := e.id :: UInt8.ofNat e.body.length :: e.body

/-- The elements of a sequence in order, up to one that is cut short. -/
def cut : Bytes → List Element
  | id :: length :: rest =>
    if rest.length < length.toNat then []
    else ⟨id, rest.take length.toNat⟩ :: cut (rest.drop length.toNat)
  | _ => []
termination_by data => data.length
decreasing_by
  simp only [List.length_cons, List.length_drop]
  omega

/-- What an element announces. -/
def capabilities (e : Element) : Capabilities :=
  if e.id = htId then Capabilities.ht.union .ampdu
  else if e.id = qosId then .qos
  else if e.id = extendedId then .extended
  else if e.id = vhtId then .vht
  else if e.id = extensionId then
    if e.body.head? = some heExtension then .he else .none
  else if e.id = vendorId then
    if wmm.isPrefixOf e.body then .qos else .none
  else .none

end Element

/-- What a sequence of elements announces, legacy modulation included. -/
def Capabilities.ofElements (data : Bytes) : Capabilities :=
  (Element.cut data).foldl (fun caps e => caps.union e.capabilities) .legacy

end Airlink
