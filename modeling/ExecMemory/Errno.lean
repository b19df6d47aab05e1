import ExecMemory.Errno.Description

/-!
# Error numbers of the host

Every thread has a *last error*, the number of its most recent failed host call. It is a signed
32-bit number. A number of the host's table has a description; any other number is shown by itself.
-/

namespace ExecMemory

/-- An error number of the host. -/
structure Errno where
  code : Int32
  deriving DecidableEq

namespace Errno

/-- The last error of a thread that has seen no failure. -/
def success : Errno := ⟨0⟩

/-- The operation is not permitted. -/
def notPermitted : Errno := ⟨1⟩

/-- There is no memory, or a range is not mapped. -/
def outOfMemory : Errno := ⟨12⟩

/-- The access is denied. -/
def accessDenied : Errno := ⟨13⟩

/-- An argument is wrong. -/
def invalidArgument : Errno := ⟨22⟩

/-- The host's text for the number, if it has one. -/
def description (errno : Errno) : Option String :=
  if errno.code < 0 then none else descriptions.lookup errno.code.toInt.toNat

/-- The text of the number in a message. -/
def message (errno : Errno) : String :=
  match errno.description with
  | some text => text
  | none => "OS error " ++ toString errno.code ++ " (strerror_r returned error 22)"

/-- The text that shows number and description as a record. -/
def debugText (errno : Errno) : String :=
  let description := match errno.description with
    | some text => "Some(\"" ++ text ++ "\")"
    | none => "None"
  "Errno \x7b code: " ++ toString errno.code ++ ", description: " ++ description ++ " \x7d"

end Errno

end ExecMemory
