/-
The packages of constraints that a schema imports are the ones it uses.

Two walks through the attributes have to agree. `Field.needs` looks for enumerated scalars and
turns back at what is read-only; the declarations are made on the way down, with a place that
says whether something further out is computed, and a scalar is constrained just if it is not
computed itself. `constrains_iff_needs` is the agreement for one attribute at any place.
-/
import ProviderGen.Proofs.CodeLines
import Mathlib.Data.List.Nodup

set_option autoImplicit false

namespace ProviderGen

/-! ## What an attribute needs -/

theorem usesPackage_iff {package : String} {type : Primitive} {values : List String} :
    usesPackage package type values = true ↔
      values ≠ [] ∧ ∃ interface, type.validator? = some (interface, package) := by
  unfold usesPackage
  rcases type.validator? with _ | ⟨interface, used⟩ <;> simp

namespace Field

variable {package : String} {field : Field}

theorem anyNeeds_iff {fields : List Field} :
    anyNeeds package fields = true ↔ ∃ field ∈ fields, field.needs package = true := by
  induction fields with
  | nil => simp [anyNeeds]
  | cons field rest ih => rw [anyNeeds, Bool.or_eq_true, ih, List.exists_mem_cons_iff]

theorem needs_iff :
    field.needs package = true ↔
      field.readOnly = false ∧
        ((∃ type, field.kind = .primitive type ∧
            usesPackage package type field.enumValues = true) ∨
          ∃ child ∈ field.inner, child.needs package = true) := by
  obtain ⟨name, source, kind, values, required, readOnly, description⟩ := field
  rw [needs, Bool.and_eq_true, Bool.not_eq_true']
  cases kind with
  | object nested repeated => simp [kindNeeds, anyNeeds_iff, inner, Kind.nested?]
  | primitive type => simp [kindNeeds, inner, Kind.nested?]
  | list type => simp [kindNeeds, inner, Kind.nested?]
  | map type => simp [kindNeeds, inner, Kind.nested?]

/-! ## What a declaration uses -/

/-- The package of the constraint that an attribute has itself. -/
theorem exists_validator?_iff (package : String) (field : Field) (place : Place) :
    (∃ v, (field.declare .resource place).validator? = some v ∧ v.package = package) ↔
      (field.declare .resource place).presence ≠ .computed ∧
        ∃ type, field.kind = .primitive type ∧
          usesPackage package type field.enumValues = true := by
  constructor
  · rintro ⟨v, hv, rfl⟩
    obtain ⟨type, hkind, hvalidator⟩ := (field.declare_validator?_eq_some_iff ..).mp hv
    obtain ⟨hpresence, hvalues, htype, -⟩ := validatorOf_eq_some_iff.mp hvalidator
    exact ⟨hpresence, type, hkind, usesPackage_iff.mpr ⟨hvalues, v.interface, htype⟩⟩
  · rintro ⟨hpresence, type, hkind, huses⟩
    obtain ⟨hvalues, interface, htype⟩ := usesPackage_iff.mp huses
    let literals :=
      if type.quotesLiterals then field.enumValues.map Text.quote else field.enumValues
    refine ⟨⟨interface, package, literals⟩, ?_, rfl⟩
    rw [field.declare_validator?_eq_some_iff]
    exact ⟨type, hkind, validatorOf_eq_some_iff.mpr ⟨hpresence, hvalues, htype, rfl⟩⟩

/-- **The declaration of an attribute has a constraint of a package, at whatever depth, just if
the attribute needs the package** and is not inside something computed. -/
theorem constrains_iff_needs (field : Field) (place : Place) :
    Declaration.Constrains (fun v => v.package = package) (field.entry .resource place) ↔
      place ≠ .inside true ∧ field.needs package = true := by
  induction field using induction_on_inner generalizing place with
  | step field ih =>
    have hinside : (∃ child ∈ (field.entry .resource place).2.entries,
        Declaration.Constrains (fun v => v.package = package) child) ↔
          field.placeInside .resource place ≠ .inside true ∧
            ∃ child ∈ field.inner, child.needs package = true := by
      rw [entry, declare_entries]
      simp only [List.mem_map, exists_exists_and_eq_and]
      constructor
      · rintro ⟨child, hchild, hconstrains⟩
        obtain ⟨hplace, hneeds⟩ := (ih child hchild _).mp hconstrains
        exact ⟨hplace, child, hchild, hneeds⟩
      · rintro ⟨hplace, child, hchild, hneeds⟩
        exact ⟨child, hchild, (ih child hchild _).mpr ⟨hplace, hneeds⟩⟩
    rw [Declaration.constrains_iff, hinside, needs_iff]
    have hown := exists_validator?_iff package field place
    rw [Ne, field.declare_presence_eq_computed_iff] at hown
    rw [Ne, field.placeInside_eq_iff, entry, hown, ← and_or_left, not_or, Bool.not_eq_true,
      and_assoc]

end Field

/-! ## Imports -/

/-- A package that is needed is one of those that make constraints. -/
theorem Field.package_mem_of_needs {package : String} {field : Field}
    (h : field.needs package = true) : package ∈ validatorPackages := by
  induction field using induction_on_inner with
  | step field ih =>
    obtain ⟨-, ⟨type, -, huses⟩ | ⟨child, hchild, hneeds⟩⟩ := needs_iff.mp h
    · obtain ⟨-, interface, htype⟩ := usesPackage_iff.mp huses
      cases type <;> simp_all [Primitive.validator?, validatorPackages]
    · exact ih child hchild hneeds

theorem anyNeeds_iff_constrains {package : String} {fields : List Field} :
    Field.anyNeeds package fields = true ↔ ∃ field ∈ fields,
      Declaration.Constrains (fun v => v.package = package) (field.entry .resource .top) := by
  simp only [Field.anyNeeds_iff, Field.constrains_iff_needs, ne_eq, reduceCtorEq,
    not_false_eq_true, true_and]

/-- The path of a package of constraints. -/
def packagePath (package : String) : String :=
  "github.com/hashicorp/terraform-plugin-framework-validators/" ++ package

/-- The path of the interface of constraints. -/
def interfacePath : String := "github.com/hashicorp/terraform-plugin-framework/schema/validator"

theorem packagePath_inj {package other : String} :
    packagePath package = packagePath other ↔ package = other := by
  unfold packagePath
  exact String.append_right_inj ..

theorem packagePath_ne_interfacePath (package : String) : packagePath package ≠ interfacePath := by
  intro h
  have hprefix : "github.com/hashicorp/terraform-plugin-framework-validators/".toList <+:
      interfacePath.toList :=
    ⟨package.toList, by rw [← String.toList_append]; exact congrArg String.toList h⟩
  revert hprefix
  decide

/-- A schema imports the packages it needs and, if there is one, the interface of constraints. -/
theorem mem_validatorImports_iff {path : String} {fields : List Field} :
    path ∈ validatorImports fields ↔
      ∃ package, Field.anyNeeds package fields = true ∧
        (path = packagePath package ∨ path = interfacePath) := by
  have hpackages : ∀ package,
      package ∈ validatorPackages.filter (fun package => Field.anyNeeds package fields) ↔
        Field.anyNeeds package fields = true := by
    intro package
    rw [List.mem_filter]
    refine and_iff_right_of_imp fun hneeds => ?_
    obtain ⟨field, -, hfield⟩ := Field.anyNeeds_iff.mp hneeds
    exact Field.package_mem_of_needs hfield
  unfold validatorImports
  dsimp only
  by_cases hempty : validatorPackages.filter (fun package => Field.anyNeeds package fields) = []
  · rw [hempty] at hpackages ⊢
    simp [← hpackages]
  · rw [if_neg (by rwa [List.isEmpty_iff])]
    obtain ⟨first, hfirst⟩ := List.exists_mem_of_ne_nil _ hempty
    simp only [List.mem_append, List.mem_map, hpackages, List.mem_singleton]
    constructor
    · rintro (⟨package, hneeds, rfl⟩ | rfl)
      · exact ⟨package, hneeds, Or.inl rfl⟩
      · exact ⟨first, (hpackages first).mp hfirst, Or.inr rfl⟩
    · rintro ⟨package, hneeds, rfl | rfl⟩
      · exact Or.inl ⟨package, hneeds, rfl⟩
      · exact Or.inr rfl

theorem nodup_validatorImports (fields : List Field) : (validatorImports fields).Nodup := by
  have hpaths : ((validatorPackages.filter fun package => Field.anyNeeds package fields).map
      packagePath).Nodup :=
    List.Nodup.map (fun _ _ => packagePath_inj.mp)
      (List.Nodup.filter _ (by decide : validatorPackages.Nodup))
  unfold validatorImports
  dsimp only
  split_ifs
  · exact List.nodup_nil
  · refine List.nodup_append.mpr ⟨hpaths, List.nodup_singleton _, ?_⟩
    intro path hpath interface hinterface
    obtain ⟨package, -, rfl⟩ := List.mem_map.mp hpath
    rw [List.mem_singleton.mp hinterface]
    exact packagePath_ne_interfacePath package

/-! ## Imports against declarations -/

section Fields

variable (fields : List Field)

theorem recordsOf_declarations :
    (recordsOf fields).map Record.declaration =
      (fields.map (Field.entry .resource .top)).map fun entry => entry.2.text attributeDepth := by
  rw [recordsOf, Field.toRecords_eq, List.map_map, List.map_map]
  exact List.map_congr_left fun field _ => field.toRecord_declaration ..

theorem packagePath_mem_iff (package : String) :
    packagePath package ∈ validatorImports fields ↔
      ∃ entry ∈ fields.map (Field.entry .resource .top),
        Declaration.Constrains (fun v => v.package = package) entry := by
  simp only [mem_validatorImports_iff, packagePath_inj, packagePath_ne_interfacePath, or_false,
    exists_eq_right', anyNeeds_iff_constrains, List.mem_map, exists_exists_and_eq_and]

theorem interfacePath_mem_iff :
    interfacePath ∈ validatorImports fields ↔
      ∃ entry ∈ fields.map (Field.entry .resource .top),
        Declaration.Constrains (fun _ => True) entry := by
  have hany : ∀ entry, Declaration.Constrains (fun _ => True) entry ↔
      ∃ package, Declaration.Constrains (fun v => v.package = package) entry := by
    intro entry
    constructor
    · rintro ⟨position, there, v, hthere, hv, -⟩
      exact ⟨v.package, position, there, v, hthere, hv, rfl⟩
    · rintro ⟨package, position, there, v, hthere, hv, -⟩
      exact ⟨position, there, v, hthere, hv, trivial⟩
  simp only [mem_validatorImports_iff, or_true, and_true, anyNeeds_iff_constrains, List.mem_map,
    exists_exists_and_eq_and, hany]
  constructor
  · rintro ⟨package, field, hfield, hconstrains⟩
    exact ⟨field, hfield, package, hconstrains⟩
  · rintro ⟨field, hfield, package, hconstrains⟩
    exact ⟨package, field, hfield, hconstrains⟩

variable {fields}

/-- What lines the records of a schema have can be read off the declarations. -/
theorem exists_record_hasLine_iff {word : String} (hword : word ∈ marks)
    (hbare : ∀ field ∈ fields, BareOnOneLine field) :
    (∃ record ∈ recordsOf fields, HasLine word record.declaration) ↔
      ∃ entry ∈ fields.map (Field.entry .resource .top),
        Declaration.Constrains (Validator.Bears word) entry := by
  calc (∃ record ∈ recordsOf fields, HasLine word record.declaration)
      ↔ ∃ text ∈ (recordsOf fields).map Record.declaration, HasLine word text := by
        simp only [List.mem_map, exists_exists_and_eq_and]
    _ ↔ ∃ field ∈ fields, HasLine word ((field.declare .resource .top).text attributeDepth) := by
        rw [recordsOf_declarations]
        simp only [List.mem_map, exists_exists_and_eq_and, Field.entry]
    _ ↔ ∃ field ∈ fields, Declaration.Constrains (Validator.Bears word)
          (field.entry .resource .top) := by
        refine exists_congr fun field => and_congr_right fun hfield => ?_
        exact hasLine_text_iff hword (hbare field hfield) .top attributeDepth
    _ ↔ _ := by simp only [List.mem_map, exists_exists_and_eq_and]

theorem bears_call_iff {package : String} (hpackage : package ∈ validatorPackages)
    (v : Validator) : v.Bears (package ++ ".OneOf(") ↔ v.package = package := by
  have hcall : ∀ package ∈ validatorPackages, package ++ ".OneOf(" ≠ "Validators: []" := by decide
  rw [Validator.Bears, or_iff_right (hcall package hpackage), String.append_left_inj, eq_comm]

theorem bears_list (v : Validator) : v.Bears "Validators: []" := Or.inl rfl

end Fields

/-- **A schema imports the packages that its declarations use, and no other.** The declarations
that the records print are those of the attributes. A package of constraints is imported just if
at some depth one of them has a constraint which that package makes, the interface just if one of
them has a constraint at all, and nothing is imported twice. Every constraint is printed; and
where no literal that is printed without quotes breaks a line, what is imported can be read off
the printed declarations line by line. -/
theorem validatorImports_exact (fields : List Field) :
    (recordsOf fields).map Record.declaration =
        (fields.map (Field.entry .resource .top)).map (fun entry => entry.2.text attributeDepth) ∧
      (∀ package, packagePath package ∈ validatorImports fields ↔
        ∃ entry ∈ fields.map (Field.entry .resource .top),
          Declaration.Constrains (fun v => v.package = package) entry) ∧
      (interfacePath ∈ validatorImports fields ↔
        ∃ entry ∈ fields.map (Field.entry .resource .top),
          Declaration.Constrains (fun _ => True) entry) ∧
      (validatorImports fields).Nodup ∧
      (∀ entry ∈ fields.map (Field.entry .resource .top), ∀ sort,
        Declaration.Constrains sort entry → ∃ v depth,
          sort v ∧ (v.lines depth).toList <:+: (entry.2.text attributeDepth).toList) ∧
      ((∀ field ∈ fields, BareOnOneLine field) →
        (∀ package ∈ validatorPackages, packagePath package ∈ validatorImports fields ↔
          ∃ record ∈ recordsOf fields, HasLine (package ++ ".OneOf(") record.declaration) ∧
        (interfacePath ∈ validatorImports fields ↔
          ∃ record ∈ recordsOf fields, HasLine "Validators: []" record.declaration)) := by
  refine ⟨recordsOf_declarations fields, packagePath_mem_iff fields, interfacePath_mem_iff fields,
    nodup_validatorImports fields, ?_, ?_⟩
  · rintro entry - sort ⟨position, there, v, hthere, hv, hsort⟩
    obtain ⟨depth, hinside⟩ := Declaration.atPosition_infix_text hthere attributeDepth
    rw [String.toList_append] at hinside
    exact ⟨v, depth + 1, hsort, (Declaration.validator_infix_text hv depth).trans
      ((List.suffix_append ..).isInfix.trans hinside)⟩
  · intro hbare
    constructor
    · intro package hpackage
      have hword : package ++ ".OneOf(" ∈ marks :=
        List.mem_cons_of_mem _ (List.mem_map_of_mem hpackage)
      rw [exists_record_hasLine_iff hword hbare, packagePath_mem_iff]
      simp only [funext fun v => propext (bears_call_iff hpackage v)]
    · rw [exists_record_hasLine_iff (List.mem_cons_self ..) hbare, interfacePath_mem_iff]
      simp only [funext fun v => propext (iff_true_intro (bears_list v))]

/-- Attributes with constraints inside an object and a read-only one with values of its own. -/
def badgeFields : List Field :=
  [{ name := "owner", source := "owner",
     kind := .object
      [{ name := "role", source := "role", kind := .primitive .string,
         enumValues := ["admin", "viewer"] },
       { name := "level", source := "level", kind := .primitive .int,
         enumValues := ["1", "2"] }] false },
   { name := "score", source := "score", kind := .primitive .float, enumValues := ["0.5"],
     readOnly := true }]

theorem badgeFields_bareOnOneLine : ∀ field ∈ badgeFields, BareOnOneLine field := by
  have hscalar : ∀ field : Field, field.inner = [] →
      (∀ value ∈ field.enumValues, '\n' ∉ value.toList) → BareOnOneLine field := by
    intro field hinner hvalues
    refine bareOnOneLine_iff.mpr ⟨fun _ _ _ => hvalues, ?_⟩
    rw [hinner]
    exact List.forall_mem_nil _
  intro field hfield
  rcases List.mem_pair.mp hfield with rfl | rfl
  · refine bareOnOneLine_iff.mpr ⟨fun _ _ _ => List.forall_mem_nil _, ?_⟩
    intro child hchild
    rcases List.mem_pair.mp hchild with rfl | rfl
    · exact hscalar _ rfl (by decide)
    · exact hscalar _ rfl (by decide)
  · exact hscalar _ rfl (by decide)

theorem badgeFields_imports :
    validatorImports badgeFields =
        [packagePath "int64validator", packagePath "stringvalidator", interfacePath] ∧
      (∃ record ∈ recordsOf badgeFields, HasLine "Validators: []" record.declaration) ∧
      (∃ record ∈ recordsOf badgeFields, HasLine "int64validator.OneOf(" record.declaration) ∧
      ¬ ∃ record ∈ recordsOf badgeFields, HasLine "float64validator.OneOf(" record.declaration := by
  have himports : validatorImports badgeFields =
      [packagePath "int64validator", packagePath "stringvalidator", interfacePath] := rfl
  obtain ⟨-, -, -, -, -, htext⟩ := validatorImports_exact badgeFields
  obtain ⟨hcalls, hlists⟩ := htext badgeFields_bareOnOneLine
  rw [himports] at hcalls hlists
  refine ⟨himports, hlists.mp (by simp), ?_, ?_⟩
  · exact (hcalls "int64validator" (by decide)).mp (by simp)
  · refine mt (hcalls "float64validator" (by decide)).mpr ?_
    simp [packagePath_inj, packagePath_ne_interfacePath]

end ProviderGen
