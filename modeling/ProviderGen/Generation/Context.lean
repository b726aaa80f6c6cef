/-
What templates know about a resource.

A context has the names that the generated code declares, the paths and abilities of
the resource, and the records of its attributes. All names come from the settings and
the resource; nothing else enters a template.
-/
import ProviderGen.Attribute.Imports
import ProviderGen.Attribute.Merge
import ProviderGen.Attribute.Record
import ProviderGen.Config

set_option autoImplicit false

namespace ProviderGen

/-- The names and values that a template can use. -/
abbrev Context := List (String × Json)

/-- Whether the identifier among some attributes is a text. -/
def hasTextId (fields : List Field) : Bool :=
  fields.any fun field =>
    field.name == "id" &&
      match field.kind with
      | .primitive type => decide (type = .string)
      | _ => false

namespace Resource

/-- The name of the resource in the spelling of generated types. -/
def title (r : Resource) : String := Naming.pascal r.name

/-- What the API calls its entries. -/
def apiName (r : Resource) : String := (Naming.lastSegment r.collectionPath).getD r.name

/-- The records of the attributes of the resource. -/
def records (r : Resource) : List Record := recordsOf r.attributes

/-- What templates know about the resource. -/
def context (config : Config) (r : Resource) : Context :=
  [("provider_name", .string config.providerName),
   ("package_name", .string config.packageName),
   ("resource_name", .string r.name),
   ("original_name", .string r.apiName),
   ("type_name", .string (config.providerName ++ "_" ++ r.name)),
   ("title", .string r.title),
   ("struct_name", .string (r.title ++ "Resource")),
   ("constructor", .string ("New" ++ r.title ++ "Resource")),
   ("model_name", .string (r.title ++ "ResourceModel")),
   ("data_source_struct_name", .string (r.title ++ "DataSource")),
   ("data_source_constructor", .string ("New" ++ r.title ++ "DataSource")),
   ("data_source_model_name", .string (r.title ++ "DataSourceModel")),
   ("collection_path", .string r.collectionPath),
   ("item_path", .string r.itemPath),
   ("has_item_path", .bool r.hasItemPath),
   ("has_update", .bool r.hasUpdate),
   ("has_delete", .bool r.hasDelete),
   ("id_is_string", .bool (hasTextId r.attributes)),
   ("validator_imports", .strings (validatorImports r.attributes)),
   ("nested_blocks", .array ((blocksOf r.records).map Block.encode)),
   ("fields", encodeRecords r.records)]

end Resource

end ProviderGen
