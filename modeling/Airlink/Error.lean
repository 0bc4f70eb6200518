import Airlink.Bytes.Hex
import Airlink.Ieee80211.Error

/-!
# Errors

Every way in which an operation of the data path, of the configuration or of the command line can
fail, and the sentence each failure is reported with.
-/

namespace Airlink

/-- Why a file could not be read or written. -/
inductive FileError where
  | notFound
  | permissionDenied
  | notDirectory
  | isDirectory
  | nameTooLong
  | nulInName
  /-- The file holds octets that are no text. -/
  | notText
  | other (reason : String)
  deriving DecidableEq, Repr

/-- What the system says of a file error: its number, its kind and its text. -/
def FileError.system? : FileError → Option (Nat × String × String)
  | .notFound => some (2, "NotFound", "No such file or directory")
  | .permissionDenied => some (13, "PermissionDenied", "Permission denied")
  | .notDirectory => some (20, "NotADirectory", "Not a directory")
  | .isDirectory => some (21, "IsADirectory", "Is a directory")
  | .nameTooLong => some (36, "InvalidFilename", "File name too long")
  | .nulInName => none
  | .notText => none
  | .other _ => none

/-- The text of a file error. -/
def FileError.text : FileError → String
  | .nulInName => "file name contained an unexpected NUL byte"
  | .notText => "stream did not contain valid UTF-8"
  | .other reason => reason
  | e => (e.system?.map (·.2.2)).getD ""

/-- The sentence a file error is reported with. -/
def FileError.message (e : FileError) : String :=
  match e.system? with
  | some (number, _, text) => s!"{text} (os error {number})"
  | none => e.text

/-- Why an operation failed. -/
inductive Error where
  | malformedDescriptor (detail : String)
  | unsupportedFrameClass (code : UInt16)
  /-- A payload of `size` octets where at most `limit` are allowed. -/
  | oversizedPayload (size limit : Nat)
  | transportFailure (reason : String)
  | deliveryFailure (reason : String)
  /-- `part` takes `need` octets and only `have_` are there. -/
  | truncated (part : String) (need have_ : Nat)
  | stationTableFull (capacity : Nat)
  | noSuchInterface (bss : UInt8)
  | invalidParameter (detail : String)
  | config (detail : String)
  /-- A level of the log that is no list of filter directives. -/
  | logFilter (level : String)
  | frame (cause : Ieee80211.Error)
  | file (cause : FileError)
  /-- A document that is not the JSON it should be. -/
  | json
  deriving DecidableEq, Repr

/-- The sentence an error is reported with. -/
def Error.message : Error → String
  | .malformedDescriptor detail => s!"Malformed descriptor: {detail}"
  | .unsupportedFrameClass code =>
    s!"Unsupported frame class: 0x{Bytes.Hex.padded 2 code.toNat}"
  | .oversizedPayload size limit => s!"Payload of {size} bytes exceeds the {limit} byte limit"
  | .transportFailure reason => s!"Transport failure: {reason}"
  | .deliveryFailure reason => s!"Delivery failure: {reason}"
  | .truncated part need have_ => s!"Truncated {part}: need {need} bytes, have {have_}"
  | .stationTableFull capacity => s!"Station table full ({capacity} entries)"
  | .noSuchInterface bss => s!"No interface with bss_num {bss.toNat}"
  | .invalidParameter detail => s!"Invalid parameter: {detail}"
  | .config detail => s!"Configuration error: {detail}"
  | .logFilter level => s!"Configuration error: Invalid log level '{level}'"
  | .frame cause => s!"802.11 error: {cause.message}"
  | .file cause => s!"IO error: {cause.message}"
  | .json => "JSON error: unexpected document"

/-- The name of an error's kind. -/
def Error.kind : Error → String
  | .malformedDescriptor _ => "MalformedDescriptor"
  | .unsupportedFrameClass _ => "UnsupportedFrameClass"
  | .oversizedPayload _ _ => "OversizedPayload"
  | .transportFailure _ => "TransportFailure"
  | .deliveryFailure _ => "DeliveryFailure"
  | .truncated _ _ _ => "Truncated"
  | .stationTableFull _ => "StationTableFull"
  | .noSuchInterface _ => "NoSuchInterface"
  | .invalidParameter _ => "InvalidParameter"
  | .config _ => "Config"
  | .logFilter _ => "Config"
  | .frame cause => cause.kind
  | .file _ => "Io"
  | .json => "Json"

end Airlink
