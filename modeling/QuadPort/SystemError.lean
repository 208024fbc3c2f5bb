/-!
# Error codes of system calls

The text of a failed system call is a description of its code followed by the code.
-/

namespace QuadPort.SystemError

def noEntry : Nat := 2

def inputOutput : Nat := 5

def accessDenied : Nat := 13

def isDirectory : Nat := 21

def invalidArgument : Nat := 22

def description : Nat → String
  | 1 => "Operation not permitted"
  | 2 => "No such file or directory"
  | 4 => "Interrupted system call"
  | 5 => "Input/output error"
  | 6 => "No such device or address"
  | 9 => "Bad file descriptor"
  | 11 => "Resource temporarily unavailable"
  | 12 => "Cannot allocate memory"
  | 13 => "Permission denied"
  | 14 => "Bad address"
  | 16 => "Device or resource busy"
  | 17 => "File exists"
  | 19 => "No such device"
  | 20 => "Not a directory"
  | 21 => "Is a directory"
  | 22 => "Invalid argument"
  | 23 => "Too many open files in system"
  | 24 => "Too many open files"
  | 25 => "Inappropriate ioctl for device"
  | 27 => "File too large"
  | 28 => "No space left on device"
  | 30 => "Read-only file system"
  | 32 => "Broken pipe"
  | 36 => "File name too long"
  | 40 => "Too many levels of symbolic links"
  | 71 => "Protocol error"
  | 90 => "Message too long"
  | 95 => "Operation not supported"
  | 108 => "Cannot send after transport endpoint shutdown"
  | 110 => "Connection timed out"
  | code => s!"Unknown error {code}"

def message (code : Nat) : String :=
  s!"{description code} (os error {code})"

end QuadPort.SystemError
