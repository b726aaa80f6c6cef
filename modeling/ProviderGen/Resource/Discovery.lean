/-
From a document to its resources.

A path without a placeholder is a collection and names a resource; the payloads of its
operations become the shapes to create and to read. A path with a placeholder belongs
to the collection before it, and of several such paths the one with the fewest
segments, the earliest on a tie, is the item path of the resource. Paths tagged for
debugging take no part. The resources come out sorted by their names.
-/
import ProviderGen.Failure
import ProviderGen.Resource.Flatten

set_option autoImplicit false

namespace ProviderGen

/-! ## Paths -/

/-- Whether a path has a placeholder. -/
def isItemPath (path : String) : Bool := path.toList.contains '\x7b'

/-- The number of segments of a path. -/
def segmentCount (path : String) : Nat := (Naming.segments path).length

namespace Document

/-- The collections that become resources, in the order of the document. -/
def collections (doc : Document) : Table PathItem :=
  doc.paths.filter fun (path, item) =>
    !item.isDebug && !isItemPath path && Naming.resourceName path != ""

/-- The item paths that belong to a collection, in the order of the document. -/
def candidates (doc : Document) (collection : String) : Table PathItem :=
  doc.paths.filter fun (path, item) =>
    !item.isDebug && isItemPath path && Naming.itemPrefix path == collection

/-- The candidate with the fewest segments, the earliest on a tie. -/
def shallowest : Table PathItem → Option (String × PathItem)
  | [] => none
  | candidate :: rest => some (rest.foldl closer candidate)
where
  /-- The one of two candidates with fewer segments, or else the first. -/
  closer (best next : String × PathItem) : String × PathItem :=
    if segmentCount next.1 < segmentCount best.1 then next else best

/-- The item path of a collection. -/
def itemOf (doc : Document) (collection : String) : Option (String × PathItem) :=
  shallowest (doc.candidates collection)

/-! ## Resources -/

/-- The attributes of a body that may be missing. -/
def shape (doc : Document) : Option Schema → Except Failure (Option (List Field))
  | none => .ok none
  | some schema =>
    match doc.flattenBody schema with
    | some (.ok fields) => .ok (some fields)
    | some (.error error) => .error (.input (.schema error))
    | none => .error .endless

/-- The resource of a collection, without its item path. -/
def draft (doc : Document) (path : String) (item : PathItem) : Except Failure Resource := do
  let create ← doc.shape item.requestSchema
  let read ← doc.shape item.responseSchema
  return { name := Naming.resourceName path, collectionPath := path, create, read }

/-- The resource with what its item path adds. -/
def attach (doc : Document) (resource : Resource) : Except Failure Resource :=
  match doc.itemOf resource.collectionPath with
  | none => .ok resource
  | some (path, item) => do
    let update ← doc.shape item.requestSchema
    return { resource with itemPath := path, update, hasDelete := item.delete.isSome }

/-- Demands that no two resources have one name; `seen` holds those before. -/
def checkNames : List Resource → List Resource → Except Failure Unit
  | _, [] => .ok ()
  | seen, resource :: rest =>
    match seen.find? fun earlier => earlier.name == resource.name with
    | some earlier =>
      .error (.nameConflict resource.name earlier.collectionPath resource.collectionPath)
    | none => checkNames (seen ++ [resource]) rest

/-- The resources of a document, sorted by name. -/
def resources (doc : Document) : Except Failure (List Resource) := do
  let drafts ← doc.collections.mapM fun (path, item) => doc.draft path item
  checkNames [] drafts
  let resources ← drafts.mapM doc.attach
  return resources.mergeSort fun a b => decide (a.name ≤ b.name)

end Document

end ProviderGen
