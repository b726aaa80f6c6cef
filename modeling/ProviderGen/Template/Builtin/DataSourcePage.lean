/-
The page of documentation of a data source.

The `id` is what its user gives; all other attributes are read, and those inside attributes
too.
-/
import ProviderGen.Template.Builtin.Shared

set_option autoImplicit false

namespace ProviderGen.Builtin

/-- The head of the page. -/
def dataSourceTitle : Template :=
  [.lines ["---", "page_title: \""],
   .slot ["type_name"],
   .text " Data Source - ",
   .slot ["provider_name"],
   .lines ["\"", "subcategory: \"\"", "description: |-", "  Reads a "],
   .slot ["resource_name"],
   .lines [" entry.", "---", "", "# "],
   .slot ["type_name"],
   .lines [" (Data Source)", "", "Reads an existing `"],
   .slot ["resource_name"],
   .text "` entry",
   .given (.name ["has_item_path"])
     [.text " from `",
      .slot ["item_path"],
      .text "`"],
   .text "."]

/-- An example of a data source. -/
def dataSourceExample : Template :=
  [.lines ["", "", "## Example Usage", "", "```terraform", "data \""],
   .slot ["type_name"],
   .lines ["\" \"example\" \x7b", "  id = \"example\"", "\x7d", "```"]]

/-- The attributes. -/
def dataSourceAttributes : Template :=
  [.lines
     ["", "", "<!-- schema generated by provider-codegen -->",
      "## Schema",
      "", "### Required",
      "", "- `id` (String) Identifier of the "],
   .slot ["resource_name"],
   .lines [" entry to read.", "", "### Read-Only", ""],
   .each "field" (.name ["fields"])
     [.given (.compare .different (.name ["field", "name"]) (.text "id"))
        [.lines ["", "- `"],
         .slot ["field", "name"],
         .text "` (",
         .slot ["field", "doc_type"],
         .text ")",
         description,
         nestedLink]],
   .lines ["", ""]]

/-- The attributes inside attributes. -/
def dataSourceBlocks : Template :=
  [.each "block" (.name ["nested_blocks"])
     [.lines ["", "<a id=\"nestedatt--"],
      anchor,
      .lines ["\"></a>", "### Nested Schema for `"],
      .slot ["block", "path"],
      .lines ["`", "", "Read-Only:", ""],
      .each "field" (.name ["block", "fields"])
        [.lines ["", "- `"],
         .slot ["field", "name"],
         .text "` (",
         .slot ["field", "doc_type"],
         .text ")",
         description],
      .lines ["", ""]]]

/-- The template of the page of a data source. -/
def dataSourcePage : Template :=
  dataSourceTitle ++ dataSourceExample ++ dataSourceAttributes ++ dataSourceBlocks

end ProviderGen.Builtin
