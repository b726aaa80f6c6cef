/-
From the bytes of a document to its resources.
-/
import ProviderGen.Document.Load
import ProviderGen.Resource.Discovery

set_option autoImplicit false

namespace ProviderGen

/-- The resources of the document that bytes hold. -/
def parseDocument (bytes : ByteArray) : Except Failure (List Resource) := do
  let doc ← Document.ofBytes bytes
  doc.resources

end ProviderGen
