import GreetingCheck.Text.Decimal

/-!
# Input and output errors

An error of an output stream is reported by the operating system under a number, or it is of a kind
that stands for itself or comes with a message of its own. Only its text and whether it is an
interruption matter here: an interrupted operation is simply tried again.
-/

namespace GreetingCheck

/-- The kinds of error that do not come from the operating system. -/
inductive ErrorKind
  | brokenPipe
  | interrupted
  | invalidData
  | notFound
  | other
  | permissionDenied
  | storageFull
  | timedOut
  | unexpectedEof
  | wouldBlock
  | writeZero
  deriving DecidableEq

/-- The text of a kind that comes without a message. -/
def ErrorKind.description : ErrorKind → String
  | .brokenPipe => "broken pipe"
  | .interrupted => "operation interrupted"
  | .invalidData => "invalid data"
  | .notFound => "entity not found"
  | .other => "other error"
  | .permissionDenied => "permission denied"
  | .storageFull => "no storage space"
  | .timedOut => "timed out"
  | .unexpectedEof => "unexpected end of file"
  | .wouldBlock => "operation would block"
  | .writeZero => "write zero"

/-- The errors of the operating system. -/
inductive SystemError
  | notPermitted
  | noSuchFile
  | interruptedCall
  | inputOutput
  | badDescriptor
  | unavailable
  | outOfMemory
  | permissionDenied
  | invalidArgument
  | fileTooLarge
  | noSpace
  | brokenPipe
  | connectionReset
  | connectionTimedOut
  deriving DecidableEq

namespace SystemError

/-- The number by which the operating system knows an error. -/
def number : SystemError → Nat
  | .notPermitted => 1
  | .noSuchFile => 2
  | .interruptedCall => 4
  | .inputOutput => 5
  | .badDescriptor => 9
  | .unavailable => 11
  | .outOfMemory => 12
  | .permissionDenied => 13
  | .invalidArgument => 22
  | .fileTooLarge => 27
  | .noSpace => 28
  | .brokenPipe => 32
  | .connectionReset => 104
  | .connectionTimedOut => 110

/-- The operating system's own words for an error. -/
def description : SystemError → String
  | .notPermitted => "Operation not permitted"
  | .noSuchFile => "No such file or directory"
  | .interruptedCall => "Interrupted system call"
  | .inputOutput => "Input/output error"
  | .badDescriptor => "Bad file descriptor"
  | .unavailable => "Resource temporarily unavailable"
  | .outOfMemory => "Cannot allocate memory"
  | .permissionDenied => "Permission denied"
  | .invalidArgument => "Invalid argument"
  | .fileTooLarge => "File too large"
  | .noSpace => "No space left on device"
  | .brokenPipe => "Broken pipe"
  | .connectionReset => "Connection reset by peer"
  | .connectionTimedOut => "Connection timed out"

/-- Every error of the operating system that is told apart here. -/
def all : List SystemError :=
  [.notPermitted, .noSuchFile, .interruptedCall, .inputOutput, .badDescriptor, .unavailable,
    .outOfMemory, .permissionDenied, .invalidArgument, .fileTooLarge, .noSpace, .brokenPipe,
    .connectionReset, .connectionTimedOut]

/-- The error with a given number. -/
def ofNumber? (n : Nat) : Option SystemError := all.find? (·.number = n)

end SystemError

/-- An error of an output stream. -/
inductive IoError
  /-- An error of a kind that has nothing to add. -/
  | plain (kind : ErrorKind)
  /-- An error of a kind with a message in its place. -/
  | custom (kind : ErrorKind) (message : String)
  /-- An error that the operating system reported. -/
  | system (error : SystemError)
  deriving DecidableEq

namespace IoError

/-- The text of an error. -/
def message : IoError → String
  | .plain kind => kind.description
  | .custom _ message => message
  | .system error => error.description ++ " (os error " ++ Text.Decimal.render error.number ++ ")"

/-- Whether an error says that an operation was interrupted and may be tried again. -/
def isInterruption : IoError → Bool
  | .plain kind => kind = .interrupted
  | .custom kind _ => kind = .interrupted
  | .system error => error = .interruptedCall

/-- The error of a stream that takes no more bytes and gives no reason. -/
def wholeBuffer : IoError := .custom .writeZero "failed to write whole buffer"

end IoError

end GreetingCheck
