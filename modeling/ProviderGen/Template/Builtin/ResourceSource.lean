/-
The source file of a resource.

It declares the resource, its model and its schema, and the functions that create, read,
change and delete it. The model and the schema list the same attributes in one order.
-/
import ProviderGen.Template.Builtin.Shared

set_option autoImplicit false

namespace ProviderGen.Builtin

/-- The package clause and the imports. -/
def resourceImports : Template :=
  [.lines ["// Code generated by provider-codegen. DO NOT EDIT.", "", "package "],
   .slot ["package_name"],
   .lines
     ["", "", "import (",
      "\t\"context\"",
      "\t\"fmt\"",
      "", "\t\"github.com/hashicorp/terraform-plugin-framework/path\"",
      "\t\"github.com/hashicorp/terraform-plugin-framework/resource\"",
      "\t\"github.com/hashicorp/terraform-plugin-framework/resource/schema\""],
   .each "import" (.name ["validator_imports"])
     [.lines ["", "\t\""],
      .slot ["import"],
      .text "\""],
   .lines ["", "\t\"github.com/hashicorp/terraform-plugin-framework/types\"", ")"]]

/-- The interfaces that the type is checked against. -/
def resourceChecks : Template :=
  [.lines ["", "", "var (", "\t_ resource.Resource                = &"],
   .slot ["struct_name"],
   .lines ["\x7b\x7d", "\t_ resource.ResourceWithConfigure   = &"],
   .slot ["struct_name"],
   .lines ["\x7b\x7d", "\t_ resource.ResourceWithImportState = &"],
   .slot ["struct_name"],
   .lines ["\x7b\x7d", ")"]]

/-- The constructor. -/
def resourceConstructor : Template :=
  [.lines ["", "", "// "],
   .slot ["constructor"],
   .text " returns the ",
   .slot ["type_name"],
   .lines [" resource.", "func "],
   .slot ["constructor"],
   .lines ["() resource.Resource \x7b", "\treturn &"],
   .slot ["struct_name"],
   .lines ["\x7b\x7d", "\x7d"]]

/-- The type of the resource. -/
def resourceType : Template :=
  [.lines ["", "", "// "],
   .slot ["struct_name"],
   .text " manages ",
   .slot ["original_name"],
   .text " through ",
   .slot ["collection_path"],
   .lines [".", "type "],
   .slot ["struct_name"],
   .lines [" struct \x7b", "\tclient *Client", "\x7d"]]

/-- The model: a field for each attribute. -/
def resourceModel : Template :=
  [.lines ["", "", "// "],
   .slot ["model_name"],
   .text " is the state of a ",
   .slot ["type_name"],
   .lines [" resource.", "type "],
   .slot ["model_name"],
   .text " struct \x7b",
   modelFields,
   .lines ["", "\x7d"]]

/-- The function that names the type. -/
def resourceMetadata : Template :=
  [.lines ["", "", "func (r *"],
   .slot ["struct_name"],
   .lines
     [") Metadata(_ context.Context, req resource.MetadataRequest, resp *resource.MetadataResponse) \x7b",
      "\tresp.TypeName = req.ProviderTypeName + \"_"],
   .slot ["resource_name"],
   .lines ["\"", "\x7d"]]

/-- The schema: an entry for each attribute. -/
def resourceSchema : Template :=
  [.lines ["", "", "func (r *"],
   .slot ["struct_name"],
   .text ") Schema(_ context.Context, _ resource.SchemaRequest, resp *resource.SchemaResponse) \x7b",
   .define "description"
     (.join [.text "Manages a ", .name ["resource_name"], .text " resource."]),
   .lines ["", "\tresp.Schema = schema.Schema\x7b", "\t\tMarkdownDescription: "],
   .put (.filter (.name ["description"]) "go_string" []),
   .lines [",", "\t\tAttributes: map[string]schema.Attribute\x7b"],
   .each "field" (.name ["fields"])
     [.lines ["", "\t\t\t\""],
      .slot ["field", "name"],
      .text "\": ",
      .slot ["field", "declaration"],
      .text ","],
   .lines ["", "\t\t\x7d,", "\t\x7d", "\x7d"]]

/-- The function that takes in the client. -/
def resourceConfigure : Template :=
  [.lines ["", "", "func (r *"],
   .slot ["struct_name"],
   .lines
     [") Configure(_ context.Context, req resource.ConfigureRequest, resp *resource.ConfigureResponse) \x7b",
      "\tif req.ProviderData == nil \x7b",
      "\t\treturn",
      "\t\x7d",
      "", "\tclient, ok := req.ProviderData.(*Client)",
      "\tif !ok \x7b",
      "\t\tresp.Diagnostics.AddError(",
      "\t\t\t\"Unexpected Resource Configure Type\",",
      "\t\t\tfmt.Sprintf(\"Expected *Client, got: %T.\", req.ProviderData),",
      "\t\t)",
      "\t\treturn",
      "\t\x7d",
      "", "\tr.client = client",
      "\x7d"]]

/-- The function that creates a resource. -/
def resourceCreate : Template :=
  [.lines ["", "", "func (r *"],
   .slot ["struct_name"],
   .lines
     [") Create(ctx context.Context, req resource.CreateRequest, resp *resource.CreateResponse) \x7b",
      "\tvar plan "],
   .slot ["model_name"],
   .lines
     ["", "\tresp.Diagnostics.Append(req.Plan.Get(ctx, &plan)...)",
      "\tif resp.Diagnostics.HasError() \x7b",
      "\t\treturn",
      "\t\x7d",
      "", "\tif err := r.client.Create(ctx, \""],
   .slot ["collection_path"],
   .lines ["\", &plan); err != nil \x7b", "\t\tresp.Diagnostics.AddError(\"Error creating "],
   .slot ["type_name"],
   .lines
     ["\", err.Error())",
      "\t\treturn",
      "\t\x7d",
      "", "\tresp.Diagnostics.Append(resp.State.Set(ctx, &plan)...)",
      "\x7d"]]

/-- The function that reads a resource. -/
def resourceRead : Template :=
  [.lines ["", "", "func (r *"],
   .slot ["struct_name"],
   .lines
     [") Read(ctx context.Context, req resource.ReadRequest, resp *resource.ReadResponse) \x7b",
      "\tvar state "],
   .slot ["model_name"],
   .lines
     ["", "\tresp.Diagnostics.Append(req.State.Get(ctx, &state)...)",
      "\tif resp.Diagnostics.HasError() \x7b",
      "\t\treturn",
      "\t\x7d",
      ""],
   readPath,
   .lines
     ["", "\tif err := r.client.Read(ctx, readPath, &state); err != nil \x7b",
      "\t\tif IsNotFound(err) \x7b",
      "\t\t\tresp.State.RemoveResource(ctx)",
      "\t\t\treturn",
      "\t\t\x7d",
      "\t\tresp.Diagnostics.AddError(\"Error reading "],
   .slot ["type_name"],
   .lines
     ["\", err.Error())",
      "\t\treturn",
      "\t\x7d",
      "", "\tresp.Diagnostics.Append(resp.State.Set(ctx, &state)...)",
      "\x7d"]]

/-- The function that changes a resource. -/
def resourceUpdate : Template :=
  [.lines ["", "", "func (r *"],
   .slot ["struct_name"],
   .lines
     [") Update(ctx context.Context, req resource.UpdateRequest, resp *resource.UpdateResponse) \x7b",
      "\tvar plan "],
   .slot ["model_name"],
   .lines
     ["", "\tresp.Diagnostics.Append(req.Plan.Get(ctx, &plan)...)",
      "\tif resp.Diagnostics.HasError() \x7b",
      "\t\treturn",
      "\t\x7d",
      ""],
   .choose
     [(.name ["has_update"],
       [.lines ["", "\tupdatePath := ItemPath(\""],
        .slot ["item_path"],
        .text "\", ",
        identifier "plan",
        .lines
          [")",
           "\tif err := r.client.Update(ctx, updatePath, &plan); err != nil \x7b",
           "\t\tresp.Diagnostics.AddError(\"Error updating "],
        .slot ["type_name"],
        .lines
          ["\", err.Error())",
           "\t\treturn",
           "\t\x7d",
           "", "\tresp.Diagnostics.Append(resp.State.Set(ctx, &plan)...)"]])]
     [.lines ["", "\tresp.Diagnostics.AddError(", "\t\t\"Update not supported\",", "\t\t\""],
      .slot ["type_name"],
      .lines [" cannot be changed in place.\",", "\t)"]],
   .lines ["", "\x7d"]]

/-- The function that deletes a resource. -/
def resourceDelete : Template :=
  [.lines ["", "", "func (r *"],
   .slot ["struct_name"],
   .lines
     [") Delete(ctx context.Context, req resource.DeleteRequest, resp *resource.DeleteResponse) \x7b",
      "\tvar state "],
   .slot ["model_name"],
   .lines
     ["", "\tresp.Diagnostics.Append(req.State.Get(ctx, &state)...)",
      "\tif resp.Diagnostics.HasError() \x7b",
      "\t\treturn",
      "\t\x7d",
      ""],
   .choose
     [(.name ["has_delete"],
       [.lines ["", "\tdeletePath := ItemPath(\""],
        .slot ["item_path"],
        .text "\", ",
        identifier "state",
        .lines
          [")",
           "\tif err := r.client.Delete(ctx, deletePath); err != nil && !IsNotFound(err) \x7b",
           "\t\tresp.Diagnostics.AddError(\"Error deleting "],
        .slot ["type_name"],
        .lines ["\", err.Error())", "\t\x7d"]])]
     [.lines
        ["", "\t// The API has no delete endpoint; removing the resource only drops it from state."]],
   .lines ["", "\x7d"]]

/-- The function that takes over a resource that exists. -/
def resourceImport : Template :=
  [.lines ["", "", "func (r *"],
   .slot ["struct_name"],
   .lines
     [") ImportState(ctx context.Context, req resource.ImportStateRequest, resp *resource.ImportStateResponse) \x7b",
      "\tresource.ImportStatePassthroughID(ctx, path.Root(\"id\"), req, resp)",
      "\x7d",
      ""]]

/-- The template of the source file of a resource. -/
def resourceSource : Template :=
  resourceImports ++ resourceChecks ++ resourceConstructor ++ resourceType ++ resourceModel ++
    resourceMetadata ++ resourceSchema ++ resourceConfigure ++ resourceCreate ++ resourceRead ++
    resourceUpdate ++ resourceDelete ++ resourceImport

end ProviderGen.Builtin
