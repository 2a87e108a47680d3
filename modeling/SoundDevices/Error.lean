set_option autoImplicit false

namespace SoundDevices

/-- A failure of the operating system: a numbered one, or one that only has a text. -/
inductive OsError where
  | code (number : Int)
  | custom (text : String)
  deriving DecidableEq, Repr

namespace OsError

def notFound : OsError := .code 2
def interrupted : OsError := .code 4
def wouldBlock : OsError := .code 11
def notADirectory : OsError := .code 20
def isADirectory : OsError := .code 21
def nameTooLong : OsError := .code 36

def notUtf8 : OsError := .custom "stream did not contain valid UTF-8"

/-- A path holds a NUL, which no file name can. -/
def nulInPath : OsError := .custom "file name contained an unexpected NUL byte"

/-- The system's own words for a numbered failure. -/
def describe (number : Int) : String :=
  match number with
  | 0 => "Success"
  | 1 => "Operation not permitted"
  | 2 => "No such file or directory"
  | 3 => "No such process"
  | 4 => "Interrupted system call"
  | 5 => "Input/output error"
  | 6 => "No such device or address"
  | 9 => "Bad file descriptor"
  | 11 => "Resource temporarily unavailable"
  | 12 => "Cannot allocate memory"
  | 13 => "Permission denied"
  | 14 => "Bad address"
  | 16 => "Device or resource busy"
  | 17 => "File exists"
  | 19 => "No such device"
  | 20 => "Not a directory"
  | 21 => "Is a directory"
  | 22 => "Invalid argument"
  | 23 => "Too many open files in system"
  | 24 => "Too many open files"
  | 25 => "Inappropriate ioctl for device"
  | 28 => "No space left on device"
  | 30 => "Read-only file system"
  | 32 => "Broken pipe"
  | 36 => "File name too long"
  | 38 => "Function not implemented"
  | 40 => "Too many levels of symbolic links"
  | 71 => "Protocol error"
  | 75 => "Value too large for defined data type"
  | 95 => "Operation not supported"
  | 110 => "Connection timed out"
  | 111 => "Connection refused"
  | 116 => "Stale file handle"
  | 122 => "Disk quota exceeded"
  | other => "Unknown error " ++ toString other

def message : OsError → String
  | code number => describe number ++ " (os error " ++ toString number ++ ")"
  | custom text => text

end OsError

inductive Error where
  | noMemory
  | systemResources (what : String)
  | openingDevice (what : String)
  deriving DecidableEq, Repr

namespace Error

def message : Error → String
  | noMemory => "out of memory"
  | systemResources what => "system resources exhausted: " ++ what
  | openingDevice what => "unable to open device: " ++ what

/-- Sorts a failure met while acquiring the resource `what`. Out of memory (12) is a cause of its
own; a full process or system table (24, 23), a full disk (28) and a resource that is not there
for the moment (11) are exhausted resources; all else keeps the device from being opened. -/
def ofOs (what : String) (failure : OsError) : Error :=
  let told := what ++ ": " ++ failure.message
  match failure with
  | .code 12 => noMemory
  | .code 24 | .code 23 | .code 28 | .code 11 => systemResources told
  | _ => openingDevice told

end Error

end SoundDevices
