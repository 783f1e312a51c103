import Vigil.Json.Fault
import Vigil.Number.Parts
import Vigil.Text.Loose
import Vigil.Text.Utf8

/-!
# Mishaps

Failures that are none of the client's own errors: what the operating system reports, what a
callback or a transport raises, and conversions of numbers and texts that have no answer. They
either become one of the client's errors on the way out or reach the caller as they are.
-/

namespace Vigil

/-- A failure the operating system reports. -/
structure OsFault where
  number : Option Int
  text : String
  /-- Whether it says that something does not exist. -/
  missing : Bool := false
  /-- The code of the Windows API, if the failure has one. -/
  code : Option Int := none
  deriving Repr, DecidableEq

/-- The failure in words. -/
def OsFault.message (f : OsFault) : String :=
  match f.number with
  | some n => s!"[Errno {n}] {f.text}"
  | none => f.text

/-- Nothing of that name exists. -/
def OsFault.noSuchFile : OsFault := ⟨some 2, "No such file or directory", true, none⟩

/-- A failure of the operating system about a path. -/
def OsFault.at (number : Int) (text path : String) (missing : Bool := false) : OsFault :=
  ⟨some number, s!"{text}: {Text.quotedString path}", missing, none⟩

/-- A failure that is none of the client's own errors. -/
inductive Mishap where
  | os (fault : OsFault)
  /-- Raised by code the client calls, with the name and the text it gave. -/
  | raised (label text : String)
  | notWhole (reason : Number.NotWhole)
  | integerTooLarge
  | quotientTooLarge
  | tooLongToWrite
  | unknownState (state : UInt32)
  | noFloat (text : String)
  | noTime (x : Float)
  | yearTooLarge
  | nulInPath
  | notUtf8 (fault : Text.Utf8Fault)
  /-- A text that is to be written holds what UTF-8 has no bytes for. -/
  | torn (fault : TornFault)
  | document (fault : Json.Fault)

/-- The mishap in words. -/
def Mishap.message : Mishap → String
  | .os fault => fault.message
  | .raised _ text => text
  | .notWhole reason => reason.message
  | .integerTooLarge => "int too large to convert to float"
  | .quotientTooLarge => "integer division result too large for a float"
  | .tooLongToWrite => Number.tooLongToWriteMessage
  | .unknownState state => s!"{state} is not a valid ServiceState"
  | .noFloat text => s!"could not convert string to float: {Text.quotedString text}"
  | .noTime _ => "timestamp out of range for platform time_t"
  | .yearTooLarge => "signed integer is greater than maximum"
  | .nulInPath => "embedded null byte"
  | .notUtf8 fault => fault.message
  | .torn fault => fault.message
  | .document fault => fault.message

end Vigil
