/-
Parts that several of the built-in templates have in common.

Templates of source files see the identifier of a model as a text, whatever its type.
Templates of pages describe an attribute in one line, which is followed by a link if
there are attributes inside it.
-/
import ProviderGen.Template.Basic

set_option autoImplicit false

namespace ProviderGen.Builtin

/-! ## Source files -/

/-- The identifier of a model as a text. -/
def identifier (model : String) : Part :=
  .choose [(.name ["id_is_string"], [.text (model ++ ".Id.ValueString()")])]
    [.text (model ++ ".Id.String()")]

/-- The lines of the fields of a model. -/
def modelFields : Part :=
  .each "field" (.name ["fields"])
    [.lines ["", "\t"],
     .slot ["field", "identifier"],
     .text " ",
     .slot ["field", "model_type"],
     .text " `tfsdk:\"",
     .slot ["field", "name"],
     .text "\" json:\"",
     .slot ["field", "source_name"],
     .text "\"`"]

/-- The statement that finds the path to read from. -/
def readPath : Part :=
  .choose
    [(.name ["has_item_path"],
      [.lines ["", "\treadPath := ItemPath(\""],
       .slot ["item_path"],
       .text "\", ",
       identifier "state",
       .text ")"])]
    [.lines ["", "\treadPath := \""],
     .slot ["collection_path"],
     .text "\""]

/-! ## Pages -/

/-- The description of an attribute, if it has one. -/
def description : Part :=
  .given (.name ["field", "description"])
    [.text " ",
     .slot ["field", "description"]]

/-- The enumerated values of an attribute, if it has any. -/
def allowedValues : Part :=
  .given (.hasItems ["field", "enum_values"])
    [.text " Allowed values: ",
     .each "value" (.name ["field", "enum_values"])
       [.text "`",
        .slot ["value"],
        .text "`",
        .given (.negate (.name ["loop", "last"])) [.text ", "]],
     .text "."]

/-- The link to the attributes inside an attribute, if there are any. -/
def nestedLink : Part :=
  .given (.hasItems ["field", "nested"])
    [.text " (see [below for nested schema](#nestedatt--",
     .slot ["field", "name"],
     .text "))"]

/-- The name of the place that such a link leads to. -/
def anchor : Part :=
  .put (.filter (.name ["block", "path"]) "replace" [("from", .text "."), ("to", .text "--")])

end ProviderGen.Builtin
