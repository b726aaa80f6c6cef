/-
The source file of a data source.

It declares the data source, its model and its schema, and the function that reads it.
The model and the schema list the same attributes in one order.
-/
import ProviderGen.Template.Builtin.Shared

set_option autoImplicit false

namespace ProviderGen.Builtin

/-- The package clause and the imports. -/
def dataSourceImports : Template :=
  [.lines ["// Code generated by provider-codegen. DO NOT EDIT.", "", "package "],
   .slot ["package_name"],
   .lines
     ["", "", "import (",
      "\t\"context\"",
      "\t\"fmt\"",
      "", "\t\"github.com/hashicorp/terraform-plugin-framework/datasource\"",
      "\t\"github.com/hashicorp/terraform-plugin-framework/datasource/schema\"",
      "\t\"github.com/hashicorp/terraform-plugin-framework/types\"",
      ")"]]

/-- The interfaces that the type is checked against. -/
def dataSourceChecks : Template :=
  [.lines ["", "", "var (", "\t_ datasource.DataSource              = &"],
   .slot ["data_source_struct_name"],
   .lines ["\x7b\x7d", "\t_ datasource.DataSourceWithConfigure = &"],
   .slot ["data_source_struct_name"],
   .lines ["\x7b\x7d", ")"]]

/-- The constructor. -/
def dataSourceConstructor : Template :=
  [.lines ["", "", "// "],
   .slot ["data_source_constructor"],
   .text " returns the ",
   .slot ["type_name"],
   .lines [" data source.", "func "],
   .slot ["data_source_constructor"],
   .lines ["() datasource.DataSource \x7b", "\treturn &"],
   .slot ["data_source_struct_name"],
   .lines ["\x7b\x7d", "\x7d"]]

/-- The type of the data source. -/
def dataSourceType : Template :=
  [.lines ["", "", "// "],
   .slot ["data_source_struct_name"],
   .text " reads an existing ",
   .slot ["original_name"],
   .lines [" entry.", "type "],
   .slot ["data_source_struct_name"],
   .lines [" struct \x7b", "\tclient *Client", "\x7d"]]

/-- The model: a field for each attribute. -/
def dataSourceModel : Template :=
  [.lines ["", "", "type "],
   .slot ["data_source_model_name"],
   .text " struct \x7b",
   modelFields,
   .lines ["", "\x7d"]]

/-- The function that names the type. -/
def dataSourceMetadata : Template :=
  [.lines ["", "", "func (d *"],
   .slot ["data_source_struct_name"],
   .lines
     [") Metadata(_ context.Context, req datasource.MetadataRequest, resp *datasource.MetadataResponse) \x7b",
      "\tresp.TypeName = req.ProviderTypeName + \"_"],
   .slot ["resource_name"],
   .lines ["\"", "\x7d"]]

/-- The schema: an entry for each attribute. -/
def dataSourceSchema : Template :=
  [.lines ["", "", "func (d *"],
   .slot ["data_source_struct_name"],
   .text ") Schema(_ context.Context, _ datasource.SchemaRequest, resp *datasource.SchemaResponse) \x7b",
   .define "description"
     (.join [.text "Reads a ", .name ["resource_name"], .text " entry."]),
   .lines ["", "\tresp.Schema = schema.Schema\x7b", "\t\tMarkdownDescription: "],
   .put (.filter (.name ["description"]) "go_string" []),
   .lines [",", "\t\tAttributes: map[string]schema.Attribute\x7b"],
   .each "field" (.name ["fields"])
     [.lines ["", "\t\t\t\""],
      .slot ["field", "name"],
      .text "\": ",
      .slot ["field", "data_source_declaration"],
      .text ","],
   .lines ["", "\t\t\x7d,", "\t\x7d", "\x7d"]]

/-- The function that takes in the client. -/
def dataSourceConfigure : Template :=
  [.lines ["", "", "func (d *"],
   .slot ["data_source_struct_name"],
   .lines
     [") Configure(_ context.Context, req datasource.ConfigureRequest, resp *datasource.ConfigureResponse) \x7b",
      "\tif req.ProviderData == nil \x7b",
      "\t\treturn",
      "\t\x7d",
      "", "\tclient, ok := req.ProviderData.(*Client)",
      "\tif !ok \x7b",
      "\t\tresp.Diagnostics.AddError(",
      "\t\t\t\"Unexpected Data Source Configure Type\",",
      "\t\t\tfmt.Sprintf(\"Expected *Client, got: %T.\", req.ProviderData),",
      "\t\t)",
      "\t\treturn",
      "\t\x7d",
      "", "\td.client = client",
      "\x7d"]]

/-- The function that reads an entry. -/
def dataSourceRead : Template :=
  [.lines ["", "", "func (d *"],
   .slot ["data_source_struct_name"],
   .lines
     [") Read(ctx context.Context, req datasource.ReadRequest, resp *datasource.ReadResponse) \x7b",
      "\tvar state "],
   .slot ["data_source_model_name"],
   .lines
     ["", "\tresp.Diagnostics.Append(req.Config.Get(ctx, &state)...)",
      "\tif resp.Diagnostics.HasError() \x7b",
      "\t\treturn",
      "\t\x7d",
      ""],
   readPath,
   .lines
     ["", "\tif err := d.client.Read(ctx, readPath, &state); err != nil \x7b",
      "\t\tresp.Diagnostics.AddError(\"Error reading "],
   .slot ["type_name"],
   .lines
     ["\", err.Error())",
      "\t\treturn",
      "\t\x7d",
      "", "\tresp.Diagnostics.Append(resp.State.Set(ctx, &state)...)",
      "\x7d",
      ""]]

/-- The template of the source file of a data source. -/
def dataSourceSource : Template :=
  dataSourceImports ++ dataSourceChecks ++ dataSourceConstructor ++ dataSourceType ++
    dataSourceModel ++ dataSourceMetadata ++ dataSourceSchema ++ dataSourceConfigure ++
    dataSourceRead

end ProviderGen.Builtin
