import SupervisedShell.Number.Decimal
/-!
Failures of input and output: those that the system reports by number, and those that are found
before or instead of a call to it.
-/

set_option autoImplicit false

namespace SupervisedShell

def systemTexts : List String :=
  ["Success", "Operation not permitted", "No such file or directory", "No such process",
   "Interrupted system call", "Input/output error", "No such device or address",
   "Argument list too long", "Exec format error", "Bad file descriptor", "No child processes",
   "Resource temporarily unavailable", "Cannot allocate memory", "Permission denied",
   "Bad address", "Block device required", "Device or resource busy", "File exists",
   "Invalid cross-device link", "No such device", "Not a directory", "Is a directory",
   "Invalid argument", "Too many open files in system", "Too many open files",
   "Inappropriate ioctl for device", "Text file busy", "File too large", "No space left on device",
   "Illegal seek", "Read-only file system", "Too many links", "Broken pipe",
   "Numerical argument out of domain", "Numerical result out of range",
   "Resource deadlock avoided", "File name too long", "No locks available",
   "Function not implemented", "Directory not empty", "Too many levels of symbolic links",
   "Unknown error 41", "No message of desired type", "Identifier removed",
   "Channel number out of range", "Level 2 not synchronized", "Level 3 halted", "Level 3 reset",
   "Link number out of range", "Protocol driver not attached", "No CSI structure available",
   "Level 2 halted", "Invalid exchange", "Invalid request descriptor", "Exchange full", "No anode",
   "Invalid request code", "Invalid slot", "Unknown error 58", "Bad font file format",
   "Device not a stream", "No data available", "Timer expired", "Out of streams resources",
   "Machine is not on the network", "Package not installed", "Object is remote",
   "Link has been severed", "Advertise error", "Srmount error", "Communication error on send",
   "Protocol error", "Multihop attempted", "RFS specific error", "Bad message",
   "Value too large for defined data type", "Name not unique on network",
   "File descriptor in bad state", "Remote address changed",
   "Can not access a needed shared library", "Accessing a corrupted shared library",
   ".lib section in a.out corrupted", "Attempting to link in too many shared libraries",
   "Cannot exec a shared library directly", "Invalid or incomplete multibyte or wide character",
   "Interrupted system call should be restarted", "Streams pipe error", "Too many users",
   "Socket operation on non-socket", "Destination address required", "Message too long",
   "Protocol wrong type for socket", "Protocol not available", "Protocol not supported",
   "Socket type not supported", "Operation not supported", "Protocol family not supported",
   "Address family not supported by protocol", "Address already in use",
   "Cannot assign requested address", "Network is down", "Network is unreachable",
   "Network dropped connection on reset", "Software caused connection abort",
   "Connection reset by peer", "No buffer space available",
   "Transport endpoint is already connected", "Transport endpoint is not connected",
   "Cannot send after transport endpoint shutdown", "Too many references: cannot splice",
   "Connection timed out", "Connection refused", "Host is down", "No route to host",
   "Operation already in progress", "Operation now in progress", "Stale file handle",
   "Structure needs cleaning", "Not a XENIX named type file", "No XENIX semaphores available",
   "Is a named type file", "Remote I/O error", "Disk quota exceeded", "No medium found",
   "Wrong medium type", "Operation canceled", "Required key not available", "Key has expired",
   "Key has been revoked", "Key was rejected by service", "Owner died", "State not recoverable",
   "Operation not possible due to RF-kill", "Memory page has hardware error"]

def systemText (code : Int) : String :=
  (if code < 0 then none else systemTexts[code.toNat]?).getD s!"Unknown error {code}"

inductive IoError where
  | system (code : Int)
  | interiorNul
  | nothingWritten
  | illFormedText
  | device (reason : String)
  deriving DecidableEq, Repr

def IoError.message : IoError → String
  | .system code => s!"{systemText code} (os error {code})"
  | .interiorNul => "nul byte found in provided data"
  | .nothingWritten => "failed to write whole buffer"
  | .illFormedText => "stream did not contain valid UTF-8"
  | .device reason => reason

def IoError.pieces : IoError → List String
  | .system code => [systemText code, " (os error "] ++ Decimal.pieces code ++ [")"]
  | e => [e.message]

@[simp] theorem IoError.join_pieces (e : IoError) : String.join e.pieces = e.message := by
  cases e <;> simp [pieces, message, Decimal.join_pieces, toString, String.append_assoc]

namespace Errno

def notPermitted : IoError := .system 1
def notFound : IoError := .system 2
def noSuchProcess : IoError := .system 3
def interrupted : IoError := .system 4
def noSuchDevice : IoError := .system 6
def tooBig : IoError := .system 7
def notExecutable : IoError := .system 8
def badDescriptor : IoError := .system 9
def noChild : IoError := .system 10
def denied : IoError := .system 13
def exists_ : IoError := .system 17
def notDirectory : IoError := .system 20
def isDirectory : IoError := .system 21
def invalid : IoError := .system 22
def tooManyFiles : IoError := .system 24
def tooLarge : IoError := .system 27
def noSpace : IoError := .system 28
def noReader : IoError := .system 32
def nameTooLong : IoError := .system 36
def tooManyLevels : IoError := .system 40

end Errno

end SupervisedShell
