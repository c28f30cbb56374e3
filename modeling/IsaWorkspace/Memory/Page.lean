import IsaWorkspace.Foundations.Hex

/-
  Memory pages as the snapshot module hands them out.

  Main declarations:
    * `CompressionAlgorithm`
    * `MemoryPage`
-/

------------------------------------------------------------
-- Memory Pages
------------------------------------------------------------

namespace IsaWorkspace

inductive CompressionAlgorithm where
  | none
  | lz4
  | zstd
deriving DecidableEq, Repr

/- Page content under the hash it claims for itself. -/
structure MemoryPage where
  pageHash : String
  data : Bytes
  compression : CompressionAlgorithm
  originalSize : Nat
deriving DecidableEq, Repr

end IsaWorkspace
