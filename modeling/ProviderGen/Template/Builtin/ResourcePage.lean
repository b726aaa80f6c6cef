/-
The page of documentation of a resource.

After an example that sets the required attributes it lists all attributes in three groups,
then the attributes inside each attribute, and ends with how to import a resource.
-/
import ProviderGen.Template.Builtin.Shared

set_option autoImplicit false

namespace ProviderGen.Builtin

/-- The head of the page. -/
def resourceTitle : Template :=
  [.lines ["---", "page_title: \""],
   .slot ["type_name"],
   .text " Resource - ",
   .slot ["provider_name"],
   .lines ["\"", "subcategory: \"\"", "description: |-", "  Manages a "],
   .slot ["resource_name"],
   .lines [" resource.", "---", "", "# "],
   .slot ["type_name"],
   .lines [" (Resource)", "", "Manages a `"],
   .slot ["resource_name"],
   .text "` resource through `",
   .slot ["collection_path"],
   .text "`."]

/-- An example of a resource with its required attributes. -/
def resourceExample : Template :=
  [.lines ["", "", "## Example Usage", "", "```terraform", "resource \""],
   .slot ["type_name"],
   .text "\" \"example\" \x7b",
   .each "field" (.name ["fields"])
     [.given (.nameIs ["field", "section"] "required")
        [.lines ["", "  "],
         .slot ["field", "name"],
         .text " = ",
         .choose
           [(.nameIs ["field", "doc_type"] "String",
             [.text "\"",
              .choose
                [(.hasItems ["field", "enum_values"],
                  [.put (.filter (.name ["field", "enum_values"]) "first" [])])]
                [.text "example"],
              .text "\""]),
            (.nameIs ["field", "doc_type"] "Number", [.text "0"]),
            (.nameIs ["field", "doc_type"] "Boolean", [.text "false"]),
            (.either (.test ["field", "doc_type"] "starting_with" [.text "List"])
                (.nameIs ["field", "doc_type"] "Attributes List"),
             [.text "[]"])]
           [.text "\x7b\x7d"]]],
   .lines ["", "\x7d", "```"]]

/-- The attributes in their groups. -/
def resourceGroups : Template :=
  [.lines ["", "", "<!-- schema generated by provider-codegen -->", "## Schema", ""],
   .each "section" (.list [.text "required", .text "optional", .text "read_only"])
     [.define "members"
        (.filter (.name ["fields"]) "filter"
          [("attribute", .text "section"), ("value", .name ["section"])]),
      .given (.hasItems ["members"])
        [.lines ["", "", "### "],
         .choose
           [(.nameIs ["section"] "required", [.text "Required"]),
            (.nameIs ["section"] "optional", [.text "Optional"])]
           [.text "Read-Only"],
         .lines ["", ""],
         .each "field" (.name ["members"])
           [.lines ["", "- `"],
            .slot ["field", "name"],
            .text "` (",
            .slot ["field", "doc_type"],
            .text ")",
            description,
            allowedValues,
            nestedLink]]],
   .lines ["", ""]]

/-- The attributes inside attributes. -/
def resourceBlocks : Template :=
  [.each "block" (.name ["nested_blocks"])
     [.lines ["", "<a id=\"nestedatt--"],
      anchor,
      .lines ["\"></a>", "### Nested Schema for `"],
      .slot ["block", "path"],
      .lines ["`", ""],
      .each "field" (.name ["block", "fields"])
        [.lines ["", "- `"],
         .slot ["field", "name"],
         .text "` (",
         .slot ["field", "doc_type"],
         .choose
           [(.nameIs ["field", "section"] "required", [.text ", Required"]),
            (.nameIs ["field", "section"] "read_only", [.text ", Read-Only"])]
           [],
         .text ")",
         description,
         allowedValues],
      .lines ["", ""]]]

/-- How to import a resource. -/
def resourceImportHelp : Template :=
  [.given (.name ["has_item_path"])
     [.lines
        ["", "## Import",
         "", "Import is supported using the following syntax:",
         "", "```shell",
         "terraform import "],
      .slot ["type_name"],
      .lines [".example <id>", "```", ""]]]

/-- The template of the page of a resource. -/
def resourcePage : Template :=
  resourceTitle ++ resourceExample ++ resourceGroups ++ resourceBlocks ++ resourceImportHelp

end ProviderGen.Builtin
