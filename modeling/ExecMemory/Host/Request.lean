import ExecMemory.Access
import ExecMemory.Errno
import ExecMemory.Text.Hex

/-!
# Requests to the host

The host is asked to map fresh memory, to change the access to a range, or to take a range back. A
`SysCall` is a request together with the host's reply, as it appears in a trace.
-/

namespace ExecMemory

/-- The three kinds of request. -/
inductive CallKind where
  | map
  | protect
  | unmap
  deriving DecidableEq

/-- The name of a kind in messages. -/
def CallKind.text : CallKind → String
  | .map => "Map"
  | .protect => "Protect"
  | .unmap => "Unmap"

/-- What the host is asked to do. -/
inductive Request where
  /-- Map `length` bytes of fresh memory, anywhere. -/
  | map (length : UInt64) (perms : Perms)
  /-- Change the access to a range. -/
  | protect (address length : UInt64) (perms : Perms)
  /-- Take a range back. -/
  | unmap (address length : UInt64)
  deriving DecidableEq

namespace Request

/-- The kind of a request. -/
def kind : Request → CallKind
  | .map .. => .map
  | .protect .. => .protect
  | .unmap .. => .unmap

/-- The address the request is about; a new mapping has none yet. -/
def address : Request → UInt64
  | .map .. => 0
  | .protect address .. | .unmap address _ => address

/-- The number of bytes the request is about. -/
def length : Request → UInt64
  | .map length _ | .protect _ length _ | .unmap _ length => length

/-- The same request about another length. -/
def withLength : Request → UInt64 → Request
  | .map _ perms, length => .map length perms
  | .protect address _ perms, length => .protect address length perms
  | .unmap address _, length => .unmap address length

/-- The request as a call with its arguments. New mappings are private and backed by no file. -/
def text : Request → String
  | .map length perms =>
    "mmap(0x0, " ++ Text.hex length ++ ", " ++ toString perms.bits ++ ", 0x22, -1, 0)"
  | .protect address length perms =>
    "mprotect(" ++ Text.hex address ++ ", " ++ Text.hex length ++ ", " ++ toString perms.bits ++ ")"
  | .unmap address length => "munmap(" ++ Text.hex address ++ ", " ++ Text.hex length ++ ")"

end Request

/-- What the host replies: a value (the address of a new mapping, else zero) or an error number. -/
abbrev Reply := Except Errno UInt64

/-- A request and its reply. -/
structure SysCall where
  request : Request
  reply : Reply

/-- The call, an equals sign and the reply. -/
def SysCall.text (call : SysCall) : String :=
  call.request.text ++ " = " ++ match call.reply with
    | .ok value => Text.hex value
    | .error errno => "errno " ++ toString errno.code

end ExecMemory
