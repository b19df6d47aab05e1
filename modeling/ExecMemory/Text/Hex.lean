/-!
# Hexadecimal text

Addresses, lengths and page sizes are written in lower-case hexadecimal after `0x`, without
leading zeros; zero is `0x0`. A byte of a dump is always two digits.
-/

namespace ExecMemory.Text

/-- A machine word in hexadecimal after `0x`. -/
def hex (word : UInt64) : String :=
  "0x" ++ String.ofList (Nat.toDigits 16 word.toNat)

/-- A byte as exactly two hexadecimal digits. -/
def hexByte (byte : UInt8) : String :=
  String.ofList [Nat.digitChar (byte.toNat / 16), Nat.digitChar (byte.toNat % 16)]

end ExecMemory.Text
