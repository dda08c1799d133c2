import CredRelay.Wire.Record
import CredRelay.Wire.Request
/-! Replies and their form on the wire: a record as JSON, nothing at all for success, or a
line that starts with `error: `. -/
namespace CredRelay

open Text

/-- A reply. -/
inductive Reply where
  | record (c : Credential)
  | empty
  | error (reason : String)
  deriving DecidableEq, Repr

namespace Reply

/-- What the reply for a failure starts with. -/
def errorMark : String := "error: "

/-- A reply as a text. -/
def text : Reply → String
  | .record c => Wire.recordText c
  | .empty => ""
  | .error reason => errorMark ++ Request.withoutBreaks reason

/-- A reply on the wire. -/
def encode (r : Reply) : ByteArray :=
  utf8 r.text

/-- What is said of a reply that should have been empty. -/
def unexpectedBody : String := "unexpected body"

/-- What is said of a reply that should have been a record. -/
def notARecord : String := "not a credential record"

/-- The reply that a trimmed text is. -/
def ofTrimmed (expectRecord : Bool) (s : String) : Except WireFault Reply :=
  match after? "error:".toList s.toList with
  | some reason => .ok (.error (trim (String.ofList reason)))
  | none =>
    if s.isEmpty then .ok .empty
    else if !expectRecord then .error (.malformedReply unexpectedBody)
    else
      match Wire.recordOfText? s with
      | some c => .ok (.record c)
      | none => .error (.malformedReply notARecord)

/-- The reply that some octets are; a record only where one is expected. -/
def decode (octets : ByteArray) (expectRecord : Bool) : Except WireFault Reply :=
  match ofUtf8? octets with
  | some s => ofTrimmed expectRecord (trim s)
  | none => .error .notUtf8

end Reply

end CredRelay
