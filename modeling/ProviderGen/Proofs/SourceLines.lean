/-
The lines of source files.

Both source files of a resource are written out here, line by line, as they are meant to be. The
lines that matter are of their own kinds: the field of a model, the entry of a schema, the
statement that sets a path, and the call of the client. All others are code, with the names of the
resource in it. So what a file declares and calls is read off the kinds of its lines: the model
and the schema list the records of the resource, in order, and which paths are set and which calls
are made depends on what can be done with a single one.
-/
import ProviderGen.Generation.Context
import ProviderGen.Proofs.Printing

set_option autoImplicit false

namespace ProviderGen

open ProviderGen.Text

/-! ## Text below a line -/

/-- Texts, each on a line of its own below another one. -/
def hung (texts : List String) : String := String.join (texts.map fun text => "\n" ++ text)

@[simp] theorem hung_nil : hung [] = "" := rfl

@[simp] theorem hung_cons (text : String) (rest : List String) :
    hung (text :: rest) = "\n" ++ (text ++ hung rest) := by
  rw [hung, hung, List.map_cons, String.join_cons, String.append_assoc]

@[simp] theorem hung_append (first second : List String) :
    hung (first ++ second) = hung first ++ hung second := by
  rw [hung, hung, hung, List.map_append, String.join_append]

/-- Texts for some of the items, each below another one. -/
theorem join_map_ite {α : Type} (p : α → Prop) [DecidablePred p] (text : α → String)
    (items : List α) :
    String.join (items.map fun item => if p item then "\n" ++ text item else "") =
      hung ((items.filter fun item => decide (p item)).map text) := by
  induction items with
  | nil => rfl
  | cons item rest ih =>
    rw [List.map_cons, String.join_cons, ih, List.filter_cons]
    by_cases hitem : p item <;> simp [hitem, String.append_assoc]

/-- Texts below another one, group by group. -/
theorem hung_flatMap {α : Type} (texts : α → List String) (items : List α) :
    hung (items.flatMap texts) = String.join (items.map fun item => hung (texts item)) := by
  induction items with
  | nil => rfl
  | cons item rest ih =>
    rw [List.flatMap_cons, hung_append, ih, List.map_cons, String.join_cons]

/-- What is parted by line breaks is the first line and the others below it. -/
theorem intercalate_cons_eq_hung (text : String) (rest : List String) :
    "\n".intercalate (text :: rest) = text ++ hung rest := by
  induction rest generalizing text with
  | nil => rw [String.intercalate_singleton, hung_nil, String.append_empty]
  | cons next rest ih => rw [String.intercalate_cons_cons, hung_cons, ← ih, String.append_assoc]

/-! ## Lines -/

/-- What can be done with a single one. -/
inductive Action where
  | read
  | update
  | delete
  deriving DecidableEq, Repr

/-- A line of a source file. -/
inductive SourceLine where
  /-- Code that is none of the others. -/
  | code (text : String)
  /-- The field of the model for an attribute. -/
  | field (record : Record)
  /-- The entry of the schema for an attribute. -/
  | entry (mode : Mode) (record : Record)
  /-- Sets the path to read from to that of a collection. -/
  | collectionPath (path : String)
  /-- Sets the path for an action to that of a single one, whose identifier may be a text. -/
  | itemPath (action : Action) (path : String) (isText : Bool)
  /-- Calls the client to create one in a collection. -/
  | create (path : String)
  /-- Calls the client for an action. -/
  | call (mode : Mode) (action : Action)

namespace Action

/-- The model whose identifier an action takes. -/
def model : Action → String
  | read => "state"
  | update => "plan"
  | delete => "state"

/-- How the statement begins that sets the path for an action. -/
def opening : Action → String
  | read => "\treadPath := ItemPath(\""
  | update => "\tupdatePath := ItemPath(\""
  | delete => "\tdeletePath := ItemPath(\""

/-- The call of the client that something has. -/
def callText (receiver : String) : Action → String
  | read => "\tif err := " ++ receiver ++ ".client.Read(ctx, readPath, &state); err != nil \x7b"
  | update =>
    "\tif err := " ++ receiver ++ ".client.Update(ctx, updatePath, &plan); err != nil \x7b"
  | delete =>
    "\tif err := " ++ receiver ++
      ".client.Delete(ctx, deletePath); err != nil && !IsNotFound(err) \x7b"

end Action

/-- What the functions of a source file call themselves. -/
def Mode.receiver : Mode → String
  | .resource => "r"
  | .dataSource => "d"

/-- The identifier of a model as a text. -/
def identifierText (model : String) (isText : Bool) : String :=
  if isText then model ++ ".Id.ValueString()" else model ++ ".Id.String()"

namespace SourceLine

/-- The text of a line. -/
def text : SourceLine → String
  | code text => text
  | field record =>
    "\t" ++ record.identifier ++ " " ++ record.modelType ++ " `tfsdk:\"" ++ record.name ++
      "\" json:\"" ++ record.source ++ "\"`"
  | entry mode record =>
    "\t\t\t\"" ++ record.name ++ "\": " ++ record.declarationFor mode ++ ","
  | collectionPath path => "\treadPath := \"" ++ path ++ "\""
  | itemPath action path isText =>
    action.opening ++ path ++ "\", " ++ identifierText action.model isText ++ ")"
  | create path => "\tif err := r.client.Create(ctx, \"" ++ path ++ "\", &plan); err != nil \x7b"
  | call mode action => action.callText mode.receiver

section Text

variable (record : Record) (mode : Mode) (path : String)

@[simp] theorem text_code (text : String) : (code text).text = text := rfl

@[simp] theorem text_field : (field record).text =
    "\t" ++ record.identifier ++ " " ++ record.modelType ++ " `tfsdk:\"" ++ record.name ++
      "\" json:\"" ++ record.source ++ "\"`" := rfl

@[simp] theorem text_entry : (entry mode record).text =
    "\t\t\t\"" ++ record.name ++ "\": " ++ record.declarationFor mode ++ "," := rfl

@[simp] theorem text_collectionPath :
    (collectionPath path).text = "\treadPath := \"" ++ path ++ "\"" := rfl

@[simp] theorem text_itemPath (isText : Bool) :
    (itemPath .read path isText).text =
        "\treadPath := ItemPath(\"" ++ path ++ "\", " ++ identifierText "state" isText ++ ")" ∧
      (itemPath .update path isText).text =
        "\tupdatePath := ItemPath(\"" ++ path ++ "\", " ++ identifierText "plan" isText ++ ")" ∧
      (itemPath .delete path isText).text =
        "\tdeletePath := ItemPath(\"" ++ path ++ "\", " ++ identifierText "state" isText ++ ")" :=
  ⟨rfl, rfl, rfl⟩

@[simp] theorem text_create : (create path).text =
    "\tif err := r.client.Create(ctx, \"" ++ path ++ "\", &plan); err != nil \x7b" := rfl

/-- The calls that source files make. -/
@[simp] theorem text_call :
    (call .resource .read).text =
        "\tif err := r.client.Read(ctx, readPath, &state); err != nil \x7b" ∧
      (call .resource .update).text =
        "\tif err := r.client.Update(ctx, updatePath, &plan); err != nil \x7b" ∧
      (call .resource .delete).text =
        "\tif err := r.client.Delete(ctx, deletePath); err != nil && !IsNotFound(err) \x7b" ∧
      (call .dataSource .read).text =
        "\tif err := d.client.Read(ctx, readPath, &state); err != nil \x7b" := by
  decide +kernel

end Text

/-- Whether a line is of one of the kinds that matter. -/
def isMarked : SourceLine → Bool
  | code _ => false
  | _ => true

/-- Lines of code. -/
def codes (texts : List String) : List SourceLine := texts.map code

/-- The text of lines, parted by line breaks. -/
def fileText (lines : List SourceLine) : String := "\n".intercalate (lines.map text)

/-- The text of lines below another one. -/
def below (lines : List SourceLine) : String :=
  String.join (lines.map fun line => "\n" ++ line.text)

@[simp] theorem codes_nil : codes [] = [] := rfl

@[simp] theorem codes_cons (text : String) (texts : List String) :
    codes (text :: texts) = code text :: codes texts := rfl

theorem below_eq_hung (lines : List SourceLine) : below lines = hung (lines.map text) := by
  rw [below, hung, List.map_map]
  rfl

@[simp] theorem below_nil : below [] = "" := rfl

@[simp] theorem below_cons (line : SourceLine) (rest : List SourceLine) :
    below (line :: rest) = "\n" ++ (line.text ++ below rest) := by
  rw [below_eq_hung, below_eq_hung, List.map_cons, hung_cons]

@[simp] theorem below_append (first second : List SourceLine) :
    below (first ++ second) = below first ++ below second := by
  rw [below_eq_hung, below_eq_hung, below_eq_hung, List.map_append, hung_append]

@[simp] theorem fileText_cons (line : SourceLine) (rest : List SourceLine) :
    fileText (line :: rest) = line.text ++ below rest := by
  rw [fileText, List.map_cons, intercalate_cons_eq_hung, below_eq_hung]

/-- A file goes on below its first lines. -/
theorem fileText_append {first : List SourceLine} (h : first ≠ []) (second : List SourceLine) :
    fileText (first ++ second) = fileText first ++ below second := by
  obtain ⟨line, rest, rfl⟩ := List.exists_cons_of_ne_nil h
  rw [List.cons_append, fileText_cons, fileText_cons, below_append, String.append_assoc]

/-- What a file has in it, its text has in it. -/
theorem exists_fileText {part whole : List SourceLine} (h : part <:+: whole) (hpart : part ≠ []) :
    ∃ front back, fileText whole = front ++ fileText part ++ back := by
  obtain ⟨first, last, rfl⟩ := h
  obtain ⟨line, rest, rfl⟩ := List.exists_cons_of_ne_nil hpart
  cases first with
  | nil => exact ⟨"", below last, by simp [String.append_assoc]⟩
  | cons head first =>
    refine ⟨fileText (head :: first) ++ "\n", below last, ?_⟩
    simp [String.append_assoc]

end SourceLine

open SourceLine

/-! ## The source file of a resource -/

namespace Source

variable (config : Config) (r : Resource)

/-- The name of the resource with that of the provider in front. -/
def fullName : String := config.providerName ++ "_" ++ r.name

/-- The name of the type that a file declares. -/
def typeName : Mode → String
  | .resource => r.title ++ "Resource"
  | .dataSource => r.title ++ "DataSource"

/-- The name of the function that makes one of that type. -/
def constructorName : Mode → String
  | .resource => "New" ++ r.title ++ "Resource"
  | .dataSource => "New" ++ r.title ++ "DataSource"

/-- The name of the model. -/
def modelName : Mode → String
  | .resource => r.title ++ "ResourceModel"
  | .dataSource => r.title ++ "DataSourceModel"

/-- The model: a field for each attribute. -/
def model (mode : Mode) : List SourceLine :=
  codes ["type " ++ modelName r mode ++ " struct \x7b"] ++ r.records.map .field ++ codes ["\x7d"]

/-- The description of the schema. -/
def description : Mode → String
  | .resource => "Manages a " ++ r.name ++ " resource."
  | .dataSource => "Reads a " ++ r.name ++ " entry."

/-- The attribute map of the schema: an entry for each attribute. -/
def attributes (mode : Mode) : List SourceLine :=
  codes ["\t\tAttributes: map[string]schema.Attribute\x7b"] ++ r.records.map (.entry mode) ++
    codes ["\t\t\x7d,"]

/-- The schema, to the end of the function that gives it. -/
def schema (mode : Mode) : List SourceLine :=
  codes
      ["\tresp.Schema = schema.Schema\x7b",
       "\t\tMarkdownDescription: " ++ quote (description r mode) ++ ","] ++
    attributes r mode ++
    codes
      ["\t\x7d",
       "\x7d"]

/-- The statement that finds the path to read from. -/
def readPath : List SourceLine :=
  if r.hasItemPath then [.itemPath .read r.itemPath (hasTextId r.attributes)]
  else [.collectionPath r.collectionPath]

def resourceImports : List SourceLine :=
  codes
      ["// Code generated by provider-codegen. DO NOT EDIT.",
       "",
       "package " ++ config.packageName,
       "",
       "import (",
       "\t\"context\"",
       "\t\"fmt\"",
       "",
       "\t\"github.com/hashicorp/terraform-plugin-framework/path\"",
       "\t\"github.com/hashicorp/terraform-plugin-framework/resource\"",
       "\t\"github.com/hashicorp/terraform-plugin-framework/resource/schema\""] ++
    codes ((validatorImports r.attributes).map fun package => "\t\"" ++ package ++ "\"") ++
    codes
      ["\t\"github.com/hashicorp/terraform-plugin-framework/types\"",
       ")"]

def resourceChecks : List SourceLine :=
  codes
    ["",
     "var (",
     "\t_ resource.Resource                = &" ++ typeName r .resource ++ "\x7b\x7d",
     "\t_ resource.ResourceWithConfigure   = &" ++ typeName r .resource ++ "\x7b\x7d",
     "\t_ resource.ResourceWithImportState = &" ++ typeName r .resource ++ "\x7b\x7d",
     ")"]

def resourceConstructor : List SourceLine :=
  codes
    ["",
     "// " ++ constructorName r .resource ++ " returns the " ++ fullName config r ++
       " resource.",
     "func " ++ constructorName r .resource ++ "() resource.Resource \x7b",
     "\treturn &" ++ typeName r .resource ++ "\x7b\x7d",
     "\x7d"]

def resourceType : List SourceLine :=
  codes
    ["",
     "// " ++ typeName r .resource ++ " manages " ++ r.apiName ++ " through " ++
       r.collectionPath ++ ".",
     "type " ++ typeName r .resource ++ " struct \x7b",
     "\tclient *Client",
     "\x7d"]

def resourceModel : List SourceLine :=
  codes
      ["",
       "// " ++ modelName r .resource ++ " is the state of a " ++ fullName config r ++
         " resource."] ++
    model r .resource

def resourceMetadata : List SourceLine :=
  codes
    ["",
     "func (r *" ++ typeName r .resource ++
       ") Metadata(_ context.Context, req resource.MetadataRequest, resp *resource.MetadataResponse) \x7b",
     "\tresp.TypeName = req.ProviderTypeName + \"_" ++ r.name ++ "\"",
     "\x7d"]

def resourceSchema : List SourceLine :=
  codes
      ["",
       "func (r *" ++ typeName r .resource ++
         ") Schema(_ context.Context, _ resource.SchemaRequest, resp *resource.SchemaResponse) \x7b"] ++
    schema r .resource

def resourceConfigure : List SourceLine :=
  codes
    ["",
     "func (r *" ++ typeName r .resource ++
       ") Configure(_ context.Context, req resource.ConfigureRequest, resp *resource.ConfigureResponse) \x7b",
     "\tif req.ProviderData == nil \x7b",
     "\t\treturn",
     "\t\x7d",
     "",
     "\tclient, ok := req.ProviderData.(*Client)",
     "\tif !ok \x7b",
     "\t\tresp.Diagnostics.AddError(",
     "\t\t\t\"Unexpected Resource Configure Type\",",
     "\t\t\tfmt.Sprintf(\"Expected *Client, got: %T.\", req.ProviderData),",
     "\t\t)",
     "\t\treturn",
     "\t\x7d",
     "",
     "\tr.client = client",
     "\x7d"]

def resourceCreate : List SourceLine :=
  codes
      ["",
       "func (r *" ++ typeName r .resource ++
         ") Create(ctx context.Context, req resource.CreateRequest, resp *resource.CreateResponse) \x7b",
       "\tvar plan " ++ modelName r .resource,
       "\tresp.Diagnostics.Append(req.Plan.Get(ctx, &plan)...)",
       "\tif resp.Diagnostics.HasError() \x7b",
       "\t\treturn",
       "\t\x7d",
       ""] ++
    [.create r.collectionPath] ++
    codes
      ["\t\tresp.Diagnostics.AddError(\"Error creating " ++ fullName config r ++ "\", err.Error())",
       "\t\treturn",
       "\t\x7d",
       "",
       "\tresp.Diagnostics.Append(resp.State.Set(ctx, &plan)...)",
       "\x7d"]

def resourceRead : List SourceLine :=
  codes
      ["",
       "func (r *" ++ typeName r .resource ++
         ") Read(ctx context.Context, req resource.ReadRequest, resp *resource.ReadResponse) \x7b",
       "\tvar state " ++ modelName r .resource,
       "\tresp.Diagnostics.Append(req.State.Get(ctx, &state)...)",
       "\tif resp.Diagnostics.HasError() \x7b",
       "\t\treturn",
       "\t\x7d",
       ""] ++
    readPath r ++
    [.call .resource .read] ++
    codes
      ["\t\tif IsNotFound(err) \x7b",
       "\t\t\tresp.State.RemoveResource(ctx)",
       "\t\t\treturn",
       "\t\t\x7d",
       "\t\tresp.Diagnostics.AddError(\"Error reading " ++ fullName config r ++ "\", err.Error())",
       "\t\treturn",
       "\t\x7d",
       "",
       "\tresp.Diagnostics.Append(resp.State.Set(ctx, &state)...)",
       "\x7d"]

/-- What is done to change one. -/
def resourceUpdateBody : List SourceLine :=
  if r.hasUpdate then
    [.itemPath .update r.itemPath (hasTextId r.attributes), .call .resource .update] ++
    codes
      ["\t\tresp.Diagnostics.AddError(\"Error updating " ++ fullName config r ++ "\", err.Error())",
       "\t\treturn",
       "\t\x7d",
       "",
       "\tresp.Diagnostics.Append(resp.State.Set(ctx, &plan)...)"]
  else
    codes
      ["\tresp.Diagnostics.AddError(",
       "\t\t\"Update not supported\",",
       "\t\t\"" ++ fullName config r ++ " cannot be changed in place.\",",
       "\t)"]

def resourceUpdate : List SourceLine :=
  codes
      ["",
       "func (r *" ++ typeName r .resource ++
         ") Update(ctx context.Context, req resource.UpdateRequest, resp *resource.UpdateResponse) \x7b",
       "\tvar plan " ++ modelName r .resource,
       "\tresp.Diagnostics.Append(req.Plan.Get(ctx, &plan)...)",
       "\tif resp.Diagnostics.HasError() \x7b",
       "\t\treturn",
       "\t\x7d",
       ""] ++
    resourceUpdateBody config r ++
    codes ["\x7d"]

/-- What is done to delete one. -/
def resourceDeleteBody : List SourceLine :=
  if r.hasDelete then
    [.itemPath .delete r.itemPath (hasTextId r.attributes), .call .resource .delete] ++
    codes
      ["\t\tresp.Diagnostics.AddError(\"Error deleting " ++ fullName config r ++ "\", err.Error())",
       "\t\x7d"]
  else
    codes ["\t// The API has no delete endpoint; removing the resource only drops it from state."]

def resourceDelete : List SourceLine :=
  codes
      ["",
       "func (r *" ++ typeName r .resource ++
         ") Delete(ctx context.Context, req resource.DeleteRequest, resp *resource.DeleteResponse) \x7b",
       "\tvar state " ++ modelName r .resource,
       "\tresp.Diagnostics.Append(req.State.Get(ctx, &state)...)",
       "\tif resp.Diagnostics.HasError() \x7b",
       "\t\treturn",
       "\t\x7d",
       ""] ++
    resourceDeleteBody config r ++
    codes ["\x7d"]

def resourceImport : List SourceLine :=
  codes
    ["",
     "func (r *" ++ typeName r .resource ++
       ") ImportState(ctx context.Context, req resource.ImportStateRequest, resp *resource.ImportStateResponse) \x7b",
     "\tresource.ImportStatePassthroughID(ctx, path.Root(\"id\"), req, resp)",
     "\x7d",
     ""]

/-! ## The source file of a data source -/

def dataSourceImports : List SourceLine :=
  codes
    ["// Code generated by provider-codegen. DO NOT EDIT.",
     "",
     "package " ++ config.packageName,
     "",
     "import (",
     "\t\"context\"",
     "\t\"fmt\"",
     "",
     "\t\"github.com/hashicorp/terraform-plugin-framework/datasource\"",
     "\t\"github.com/hashicorp/terraform-plugin-framework/datasource/schema\"",
     "\t\"github.com/hashicorp/terraform-plugin-framework/types\"",
     ")"]

def dataSourceChecks : List SourceLine :=
  codes
    ["",
     "var (",
     "\t_ datasource.DataSource              = &" ++ typeName r .dataSource ++ "\x7b\x7d",
     "\t_ datasource.DataSourceWithConfigure = &" ++ typeName r .dataSource ++ "\x7b\x7d",
     ")"]

def dataSourceConstructor : List SourceLine :=
  codes
    ["",
     "// " ++ constructorName r .dataSource ++ " returns the " ++ fullName config r ++
       " data source.",
     "func " ++ constructorName r .dataSource ++ "() datasource.DataSource \x7b",
     "\treturn &" ++ typeName r .dataSource ++ "\x7b\x7d",
     "\x7d"]

def dataSourceType : List SourceLine :=
  codes
    ["",
     "// " ++ typeName r .dataSource ++ " reads an existing " ++ r.apiName ++ " entry.",
     "type " ++ typeName r .dataSource ++ " struct \x7b",
     "\tclient *Client",
     "\x7d"]

def dataSourceModel : List SourceLine :=
  codes [""] ++ model r .dataSource

def dataSourceMetadata : List SourceLine :=
  codes
    ["",
     "func (d *" ++ typeName r .dataSource ++
       ") Metadata(_ context.Context, req datasource.MetadataRequest, resp *datasource.MetadataResponse) \x7b",
     "\tresp.TypeName = req.ProviderTypeName + \"_" ++ r.name ++ "\"",
     "\x7d"]

def dataSourceSchema : List SourceLine :=
  codes
      ["",
       "func (d *" ++ typeName r .dataSource ++
         ") Schema(_ context.Context, _ datasource.SchemaRequest, resp *datasource.SchemaResponse) \x7b"] ++
    schema r .dataSource

def dataSourceConfigure : List SourceLine :=
  codes
    ["",
     "func (d *" ++ typeName r .dataSource ++
       ") Configure(_ context.Context, req datasource.ConfigureRequest, resp *datasource.ConfigureResponse) \x7b",
     "\tif req.ProviderData == nil \x7b",
     "\t\treturn",
     "\t\x7d",
     "",
     "\tclient, ok := req.ProviderData.(*Client)",
     "\tif !ok \x7b",
     "\t\tresp.Diagnostics.AddError(",
     "\t\t\t\"Unexpected Data Source Configure Type\",",
     "\t\t\tfmt.Sprintf(\"Expected *Client, got: %T.\", req.ProviderData),",
     "\t\t)",
     "\t\treturn",
     "\t\x7d",
     "",
     "\td.client = client",
     "\x7d"]

def dataSourceRead : List SourceLine :=
  codes
      ["",
       "func (d *" ++ typeName r .dataSource ++
         ") Read(ctx context.Context, req datasource.ReadRequest, resp *datasource.ReadResponse) \x7b",
       "\tvar state " ++ modelName r .dataSource,
       "\tresp.Diagnostics.Append(req.Config.Get(ctx, &state)...)",
       "\tif resp.Diagnostics.HasError() \x7b",
       "\t\treturn",
       "\t\x7d",
       ""] ++
    readPath r ++
    [.call .dataSource .read] ++
    codes
      ["\t\tresp.Diagnostics.AddError(\"Error reading " ++ fullName config r ++ "\", err.Error())",
       "\t\treturn",
       "\t\x7d",
       "",
       "\tresp.Diagnostics.Append(resp.State.Set(ctx, &state)...)",
       "\x7d",
       ""]

/-! ## Whole files -/

/-- The sections of a source file after the imports. -/
def sections : Mode → List (List SourceLine)
  | .resource =>
    [resourceChecks r, resourceConstructor config r, resourceType r, resourceModel config r,
      resourceMetadata r, resourceSchema r, resourceConfigure r, resourceCreate config r,
      resourceRead config r, resourceUpdate config r, resourceDelete config r, resourceImport r]
  | .dataSource =>
    [dataSourceChecks r, dataSourceConstructor config r, dataSourceType r, dataSourceModel r,
      dataSourceMetadata r, dataSourceSchema r, dataSourceConfigure r, dataSourceRead config r]

/-- The imports of a source file. -/
def imports : Mode → List SourceLine
  | .resource => resourceImports config r
  | .dataSource => dataSourceImports config

/-- The lines of a source file. -/
def lines (mode : Mode) : List SourceLine :=
  imports config r mode ++ (sections config r mode).flatten

/-! ## What files declare and call -/

section Marks

variable {α : Type} {f : α → SourceLine}

theorem filter_codes (texts : List String) : (codes texts).filter isMarked = [] :=
  List.filter_eq_nil_iff.mpr fun line hline => by
    obtain ⟨text, -, rfl⟩ := List.mem_map.mp hline
    exact Bool.false_ne_true

theorem filter_map_marked (h : ∀ a, isMarked (f a) = true) (items : List α) :
    (items.map f).filter isMarked = items.map f :=
  List.filter_eq_self.mpr fun line hline => by
    obtain ⟨a, -, rfl⟩ := List.mem_map.mp hline
    exact h a

theorem filter_model (mode : Mode) :
    (model r mode).filter isMarked = r.records.map .field := by
  rw [model, List.filter_append, List.filter_append, filter_codes, filter_codes,
    filter_map_marked (fun _ => rfl), List.nil_append, List.append_nil]

theorem filter_schema (mode : Mode) :
    (schema r mode).filter isMarked = r.records.map (.entry mode) := by
  have hattributes : (attributes r mode).filter isMarked = r.records.map (.entry mode) := by
    rw [attributes, List.filter_append, List.filter_append, filter_codes, filter_codes,
      filter_map_marked (fun _ => rfl), List.nil_append, List.append_nil]
  rw [schema, List.filter_append, List.filter_append, filter_codes, filter_codes, hattributes,
    List.nil_append, List.append_nil]

theorem filter_readPath : (readPath r).filter isMarked = readPath r := by
  unfold readPath
  split <;> rfl

theorem filter_resourceUpdateBody : (resourceUpdateBody config r).filter isMarked =
    if r.hasUpdate then
      [.itemPath .update r.itemPath (hasTextId r.attributes), .call .resource .update]
    else [] := by
  unfold resourceUpdateBody
  split <;> rfl

theorem filter_resourceDeleteBody : (resourceDeleteBody config r).filter isMarked =
    if r.hasDelete then
      [.itemPath .delete r.itemPath (hasTextId r.attributes), .call .resource .delete]
    else [] := by
  unfold resourceDeleteBody
  split <;> rfl

end Marks

/-- The paths that a file sets and the calls it makes, in order. Those that change or delete one
are there just if that can be done. -/
def calls : Mode → List SourceLine
  | .resource =>
    [.create r.collectionPath] ++ readPath r ++ [.call .resource .read] ++
      (if r.hasUpdate then
        [.itemPath .update r.itemPath (hasTextId r.attributes), .call .resource .update]
      else []) ++
      if r.hasDelete then
        [.itemPath .delete r.itemPath (hasTextId r.attributes), .call .resource .delete]
      else []
  | .dataSource => readPath r ++ [.call .dataSource .read]

/-- **What a file declares and calls**: one field and one entry for each attribute, in order, and
then the calls. -/
theorem filter_lines (mode : Mode) : (lines config r mode).filter isMarked =
    r.records.map .field ++ r.records.map (.entry mode) ++ calls r mode := by
  have hread : [SourceLine.call mode .read].filter isMarked = [.call mode .read] := rfl
  have hcreate : [SourceLine.create r.collectionPath].filter isMarked =
      [.create r.collectionPath] := rfl
  rw [lines, List.filter_append]
  cases mode with
  | resource =>
    simp only [imports, resourceImports, sections, resourceChecks, resourceConstructor,
      resourceType, resourceModel, resourceMetadata, resourceSchema, resourceConfigure,
      resourceCreate, resourceRead, resourceUpdate, resourceDelete, resourceImport, calls,
      List.flatten_cons, List.flatten_nil, List.filter_append, filter_codes, filter_model,
      filter_schema, hcreate, hread, filter_readPath, filter_resourceUpdateBody,
      filter_resourceDeleteBody, List.nil_append, List.append_nil, List.append_assoc]
  | dataSource =>
    simp only [imports, dataSourceImports, sections, dataSourceChecks, dataSourceConstructor,
      dataSourceType, dataSourceModel, dataSourceMetadata, dataSourceSchema, dataSourceConfigure,
      dataSourceRead, calls, List.flatten_cons, List.flatten_nil, List.filter_append, filter_codes,
      filter_model, filter_schema, hread, filter_readPath, List.nil_append, List.append_nil,
      List.append_assoc]

/-- Lines of the kinds that matter are among those that a file declares and calls. -/
theorem mem_lines_iff {line : SourceLine} (h : line.isMarked = true) (mode : Mode) :
    line ∈ lines config r mode ↔
      line ∈ r.records.map .field ++ r.records.map (.entry mode) ++ calls r mode := by
  rw [← filter_lines config r mode, List.mem_filter, h, and_iff_left rfl]

/-- Whether a file acts on a single one in some way. -/
def acts : Mode → Action → Bool
  | _, .read => r.hasItemPath
  | .resource, .update => r.hasUpdate
  | .resource, .delete => r.hasDelete
  | .dataSource, _ => false

theorem mem_readPath_iff {line : SourceLine} :
    line ∈ readPath r ↔
      (r.hasItemPath = true ∧ line = .itemPath .read r.itemPath (hasTextId r.attributes)) ∨
        (r.hasItemPath = false ∧ line = .collectionPath r.collectionPath) := by
  unfold readPath
  cases r.hasItemPath <;> simp

/-- A file sets the path for an action just if it takes it, and then to the item path. -/
theorem itemPath_mem_lines_iff {mode : Mode} {action : Action} {path : String} {isText : Bool} :
    .itemPath action path isText ∈ lines config r mode ↔
      acts r mode action = true ∧ path = r.itemPath ∧ isText = hasTextId r.attributes := by
  rw [mem_lines_iff config r rfl]
  cases mode <;> cases action <;> simp [calls, mem_readPath_iff, acts]

/-- A file reads from the collection just if there is no item path. -/
theorem collectionPath_mem_lines_iff {mode : Mode} {path : String} :
    .collectionPath path ∈ lines config r mode ↔
      r.hasItemPath = false ∧ path = r.collectionPath := by
  rw [mem_lines_iff config r rfl]
  cases mode <;> simp [calls, mem_readPath_iff]

/-- A file always calls the client to read, and for the other actions just if it takes them. -/
theorem call_mem_lines_iff {mode mode' : Mode} {action : Action} :
    .call mode' action ∈ lines config r mode ↔
      mode' = mode ∧ (action = .read ∨ acts r mode action = true) := by
  rw [mem_lines_iff config r rfl]
  cases mode <;> cases action <;> simp [calls, mem_readPath_iff, acts, and_comm]

theorem infix_lines_of_mem {mode : Mode} {part : List SourceLine}
    (h : part ∈ sections config r mode) : part <:+: lines config r mode :=
  (List.infix_of_mem_flatten h).trans (List.suffix_append ..).isInfix

/-- The model stands in the file. -/
theorem model_infix_lines (mode : Mode) : model r mode <:+: lines config r mode := by
  cases mode with
  | resource =>
    have hmodel : resourceModel config r ∈ sections config r .resource := by simp [sections]
    exact (List.suffix_append ..).isInfix.trans (infix_lines_of_mem config r hmodel)
  | dataSource =>
    have hmodel : dataSourceModel r ∈ sections config r .dataSource := by simp [sections]
    exact (List.suffix_append ..).isInfix.trans (infix_lines_of_mem config r hmodel)

/-- The attribute map of the schema stands in the file. -/
theorem attributes_infix_lines (mode : Mode) : attributes r mode <:+: lines config r mode := by
  have hattributes : attributes r mode <:+: schema r mode := List.infix_append ..
  refine hattributes.trans ?_
  cases mode with
  | resource =>
    have hschema : resourceSchema r ∈ sections config r .resource := by simp [sections]
    exact (List.suffix_append ..).isInfix.trans (infix_lines_of_mem config r hschema)
  | dataSource =>
    have hschema : dataSourceSchema r ∈ sections config r .dataSource := by simp [sections]
    exact (List.suffix_append ..).isInfix.trans (infix_lines_of_mem config r hschema)

end Source

end ProviderGen
