set_option autoImplicit false
set_option relaxedAutoImplicit false

/-!
# Faults of Zstandard content

## Main definitions

* `Delimited.Zstd.Fault` — why Zstandard content cannot be read, with its `message`.
-/

namespace Delimited.Zstd

/-- Why Zstandard content cannot be read. -/
inductive Fault where
  /-- No frame starts here. -/
  | unknownFrame
  /-- A bit without a meaning is set in the header of a frame. -/
  | unknownParameter
  /-- The window of a frame is too large. -/
  | windowTooLarge
  /-- A frame needs a dictionary. -/
  | wrongDictionary
  /-- Literals use the code of an earlier block, and there is none. -/
  | noCode
  /-- The content stands for nothing. -/
  | corrupt
  /-- The check sum is that of other bytes. -/
  | wrongCheckSum
  /-- There are too few literals for four streams. -/
  | wrongLiterals
  /-- A part of a block is not as long as it has to be. -/
  | wrongSize
  /-- The bytes of a block do not fit where they are put. -/
  | noRoom
  /-- The content ends in the middle of a frame. -/
  | incomplete
  deriving DecidableEq, Repr

/-- The wording of a fault. -/
def Fault.message : Fault → String
  | .unknownFrame => "Unknown frame descriptor"
  | .unknownParameter => "Unsupported frame parameter"
  | .windowTooLarge => "Frame requires too much memory for decoding"
  | .wrongDictionary => "Dictionary mismatch"
  | .noCode => "Dictionary is corrupted"
  | .corrupt => "Data corruption detected"
  | .wrongCheckSum => "Restored data doesn't match checksum"
  | .wrongLiterals => "Header of Literals' block doesn't respect format specification"
  | .wrongSize => "Src size is incorrect"
  | .noRoom => "Destination buffer is too small"
  | .incomplete => "incomplete frame"

end Delimited.Zstd
