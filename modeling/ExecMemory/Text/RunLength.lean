import ExecMemory.Text.Hex

/-!
# Run-length text of bytes

A byte string is shown as its maximal runs of equal bytes, one space between runs: `xx` for a single
byte and `xx*n` for `n` equal ones. No bytes give the empty text.
-/

namespace ExecMemory.Text

/-- The text of one run, whose bytes are all equal. -/
def runText : List UInt8 → String
  | [] => ""
  | [byte] => hexByte byte
  | byte :: rest => hexByte byte ++ "*" ++ toString (rest.length + 1)

/-- The run-length text of `bytes`. -/
def runLength (bytes : List UInt8) : String :=
  " ".intercalate ((bytes.splitBy (· == ·)).map runText)

end ExecMemory.Text
