import CredRelay.Text.Numeral
/-! What the operating system says when it refuses an operation. -/
namespace CredRelay.Host

/-- Why the system refused. -/
inductive SystemFault where
  | noEntry
  | noDevice
  | denied
  | alreadyExists
  | noSuchDevice
  | notDirectory
  | isDirectory
  | badArgument
  | nameTooLong
  | notSocket
  | addressInUse
  | addressNotHere
  | unreachable
  | refused
  | nulInName
  | nulInSocketName
  | socketNameTooLong
  deriving DecidableEq, Repr

/-- The number of a refusal and its wording; none for a name that never reaches the
system. -/
def SystemFault.entry? : SystemFault → Option (Nat × String)
  | .noEntry => some (2, "No such file or directory")
  | .noDevice => some (6, "No such device or address")
  | .denied => some (13, "Permission denied")
  | .alreadyExists => some (17, "File exists")
  | .noSuchDevice => some (19, "No such device")
  | .notDirectory => some (20, "Not a directory")
  | .isDirectory => some (21, "Is a directory")
  | .badArgument => some (22, "Invalid argument")
  | .nameTooLong => some (36, "File name too long")
  | .notSocket => some (88, "Socket operation on non-socket")
  | .addressInUse => some (98, "Address already in use")
  | .addressNotHere => some (99, "Cannot assign requested address")
  | .unreachable => some (101, "Network is unreachable")
  | .refused => some (111, "Connection refused")
  | .nulInName | .nulInSocketName | .socketNameTooLong => none

/-- The wording of a refusal with its number. -/
def SystemFault.message (f : SystemFault) : String :=
  match f, f.entry? with
  | _, some (number, wording) => wording ++ " (os error " ++ Text.decimal number ++ ")"
  | .nulInSocketName, none => "paths must not contain interior null bytes"
  | .socketNameTooLong, none => "path must be shorter than SUN_LEN"
  | _, none => "file name contained an unexpected NUL byte"

end CredRelay.Host
