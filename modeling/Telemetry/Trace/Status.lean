/-!
# Status of a span

How the operation of a span ended: a code, of which seventeen have names and zero means success, and
possibly a message.
-/

namespace Telemetry

/-- The codes with names. -/
inductive StatusCode where
  | ok
  | cancelled
  | unknown
  | invalidArgument
  | deadlineExceeded
  | notFound
  | alreadyExists
  | permissionDenied
  | resourceExhausted
  | failedPrecondition
  | aborted
  | outOfRange
  | unimplemented
  | internal
  | unavailable
  | dataLoss
  | unauthenticated
  deriving DecidableEq, Repr

namespace StatusCode

/-- The number of the code. -/
def toInt (code : StatusCode) : Int := code.ctorIdx

/-- The name of the code. -/
def name : StatusCode → String
  | .ok => "Ok"
  | .cancelled => "Cancelled"
  | .unknown => "Unknown"
  | .invalidArgument => "InvalidArgument"
  | .deadlineExceeded => "DeadlineExceeded"
  | .notFound => "NotFound"
  | .alreadyExists => "AlreadyExists"
  | .permissionDenied => "PermissionDenied"
  | .resourceExhausted => "ResourceExhausted"
  | .failedPrecondition => "FailedPrecondition"
  | .aborted => "Aborted"
  | .outOfRange => "OutOfRange"
  | .unimplemented => "Unimplemented"
  | .internal => "Internal"
  | .unavailable => "Unavailable"
  | .dataLoss => "DataLoss"
  | .unauthenticated => "Unauthenticated"

/-- All codes with names, in the order of their numbers. -/
def all : List StatusCode :=
  [.ok, .cancelled, .unknown, .invalidArgument, .deadlineExceeded, .notFound, .alreadyExists,
    .permissionDenied, .resourceExhausted, .failedPrecondition, .aborted, .outOfRange,
    .unimplemented, .internal, .unavailable, .dataLoss, .unauthenticated]

/-- The code with the given name. -/
def ofName? (name : String) : Option StatusCode := all.find? fun code => code.name == name

end StatusCode

/-- How an operation ended. -/
structure Status where
  /-- The code, which need not have a name. -/
  code : Int
  /-- What there is to say about it. -/
  message : Option String
  deriving DecidableEq, Repr

namespace Status

/-- Success. -/
def ok : Status := ⟨0, none⟩

instance : Inhabited Status := ⟨ok⟩

/-- Failure for a reason without a code of its own. -/
def unknown (message : String) : Status := ⟨StatusCode.unknown.toInt, some message⟩

/-- Whether the status is success. -/
def isOk (status : Status) : Bool := status.code == 0

end Status

end Telemetry
