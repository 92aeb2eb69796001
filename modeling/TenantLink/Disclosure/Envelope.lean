import TenantLink.Disclosure.Markers
import TenantLink.Json.Printer

/-!
# The body of a server error

What a backend says about its own failure is shown only if it is a short sentence without marks
of internals. `safeMessage` picks that sentence, and `errorBody` puts it into an envelope of three
members.
-/

namespace TenantLink.Disclosure

def genericMessage : String := "An unexpected server error occurred. Please try again later."

/-- The greatest size of a message that is shown, in bytes. -/
def maxMessageSize : Nat := 300

/-- The members that may hold a message, in the order in which they are looked at. -/
def messageFields : List String := ["message", "detail"]

/-- The first member of an object that may hold a message and is a string. -/
def statement? (body : Json) : Option String :=
  messageFields.findSome? fun field => (body.member? field).bind Json.asString?

def isPresentable (message : String) : Bool :=
  message ≠ "" && message.utf8ByteSize ≤ maxMessageSize && !isInternal message

/-- The message to show for the body of a server error. -/
def safeMessage (body : Bytes) : String :=
  match ((Json.read? body).bind statement?).map Text.trimmed with
  | some message => if isPresentable message then message else genericMessage
  | none => genericMessage

def errorTitle : String := "Internal Server Error"

def errorCode : String := "SERVER_ERROR"

def envelope (message : String) : Json :=
  .object [("code", .string errorCode), ("error", .string errorTitle), ("message", .string message)]

def errorBody (message : String) : Bytes := (envelope message).bytes

end TenantLink.Disclosure
