/-
The schema of a data source is that of the resource, made read-only.

The code of a declaration falls into fragments: the line of each presence, the lines of each
constraint, and the code between them, at whatever depth they stand (`join_fragments`). Both
schemas of an attribute are made by one recursion, which asks for the mode only to choose a
presence or a constraint. So the fragments of a data source are those of the resource, with every
presence computed and no constraint (`fragments_inside`); a resource may hand down that what is
outside is computed, but all that follows from it are presences and constraints. Only the outermost
attribute is different, which is required if it is called `id`.
-/
import ProviderGen.Proofs.Printing

set_option autoImplicit false

namespace ProviderGen

open ProviderGen.Text

/-! ## Fragments -/

/-- A fragment of the code of a declaration, and the depth where it stands. -/
inductive Fragment where
  /-- The line of a presence. -/
  | presence (depth : Nat) (presence : Presence)
  /-- The lines of a constraint. -/
  | constraint (depth : Nat) (validator : Validator)
  /-- Code that tells of neither. -/
  | code (text : String)
  deriving DecidableEq, Repr

namespace Fragment

/-- The code of a fragment. -/
def text : Fragment → String
  | presence depth given => line depth (given.text ++ ",")
  | constraint depth validator => validator.lines depth
  | code text => text

/-- Whether a fragment tells neither of a presence nor of a constraint. -/
def isCode : Fragment → Bool
  | code _ => true
  | _ => false

/-- The fragment of what only the provider sets: it is computed and not constrained. -/
def readOnly? : Fragment → Option Fragment
  | presence depth _ => some (presence depth .computed)
  | constraint _ _ => none
  | code text => some (code text)

/-- What is made read-only keeps its code. -/
theorem filter_isCode_readOnly (fragments : List Fragment) :
    (fragments.filterMap readOnly?).filter isCode = fragments.filter isCode := by
  rw [← List.filterMap_eq_filter, List.filterMap_filterMap]
  refine List.filterMap_congr fun fragment _ => ?_
  cases fragment <;> rfl

/-- What is made read-only is code or says that it is computed. -/
theorem isCode_or_computed_of_mem {fragments : List Fragment} {fragment : Fragment}
    (h : fragment ∈ fragments.filterMap readOnly?) :
    fragment.isCode = true ∨ ∃ depth, fragment = presence depth .computed := by
  obtain ⟨origin, -, hmade⟩ := List.mem_filterMap.mp h
  cases origin with
  | presence depth _ =>
    obtain rfl := Option.some.inj hmade
    exact Or.inr ⟨depth, rfl⟩
  | constraint depth validator => cases hmade
  | code text =>
    obtain rfl := Option.some.inj hmade
    exact Or.inl rfl

end Fragment

namespace Declaration

mutual

/-- The fragments of the code of a declaration that stands at a depth. -/
def fragments (depth : Nat) : Declaration → List Fragment
  | ⟨presence, description, shape⟩ =>
    .code (shape.constructor ++ "\x7b") :: .presence (depth + 1) presence ::
      .code (descriptionLines (depth + 1) description) ::
        (shapeFragments (depth + 1) shape ++ [.code (line depth "\x7d")])

/-- The fragments that are particular to a shape. -/
def shapeFragments (depth : Nat) : Shape Declaration → List Fragment
  | .primitive _ none => []
  | .primitive _ (some validator) => [.constraint depth validator]
  | .list type => [.code (line depth ("ElementType: " ++ type.elementType ++ ","))]
  | .map type => [.code (line depth ("ElementType: " ++ type.elementType ++ ","))]
  | .object entries false =>
    .code (line depth "Attributes: map[string]schema.Attribute\x7b") ::
      (entryFragments (depth + 1) entries ++ [.code (line depth "\x7d,")])
  | .object entries true =>
    .code (line depth "NestedObject: schema.NestedAttributeObject\x7b") ::
      .code (line (depth + 1) "Attributes: map[string]schema.Attribute\x7b") ::
        (entryFragments (depth + 2) entries ++
          [.code (line (depth + 1) "\x7d,"), .code (line depth "\x7d,")])

/-- The fragments of the entries of an attribute map. -/
def entryFragments (depth : Nat) : List (String × Declaration) → List Fragment
  | [] => []
  | (name, declaration) :: rest =>
    .code (line depth (quote name ++ ": ")) ::
      (declaration.fragments depth ++ .code "," :: entryFragments depth rest)

end

mutual

/-- **The fragments of a declaration make up its code.** -/
theorem join_fragments (depth : Nat) :
    ∀ declaration : Declaration,
      String.join ((declaration.fragments depth).map Fragment.text) = declaration.text depth
  | ⟨presence, description, shape⟩ => by
    have hshape := join_shapeFragments (depth + 1) shape
    rw [text_eq, body]
    simp only [fragments, List.map_cons, List.map_append, List.map_nil, String.join_cons,
      String.join_append, String.join_nil, Fragment.text, hshape, String.append_assoc,
      String.append_empty]

theorem join_shapeFragments (depth : Nat) :
    ∀ shape : Shape Declaration,
      String.join ((shapeFragments depth shape).map Fragment.text) = shapeLines depth shape
  | .primitive _ none => rfl
  | .primitive _ (some _) => by
    rw [shapeFragments, List.map_singleton, String.join_cons, String.join_nil, String.append_empty]
    rfl
  | .list _ => by
    rw [shapeFragments, List.map_singleton, String.join_cons, String.join_nil, String.append_empty]
    rfl
  | .map _ => by
    rw [shapeFragments, List.map_singleton, String.join_cons, String.join_nil, String.append_empty]
    rfl
  | .object entries false => by
    have hentries := join_entryFragments (depth + 1) entries
    simp only [shapeFragments, shapeLines, List.map_cons, List.map_append, List.map_nil,
      String.join_cons, String.join_append, String.join_nil, Fragment.text, hentries,
      String.append_assoc, String.append_empty]
  | .object entries true => by
    have hentries := join_entryFragments (depth + 2) entries
    simp only [shapeFragments, shapeLines, List.map_cons, List.map_append, List.map_nil,
      String.join_cons, String.join_append, String.join_nil, Fragment.text, hentries,
      String.append_assoc, String.append_empty]

theorem join_entryFragments (depth : Nat) :
    ∀ entries : List (String × Declaration),
      String.join ((entryFragments depth entries).map Fragment.text) = entryLines depth entries
  | [] => rfl
  | (name, declaration) :: rest => by
    have hfirst := join_fragments depth declaration
    have hrest := join_entryFragments depth rest
    simp only [entryFragments, entryLines, List.map_cons, List.map_append, String.join_cons,
      String.join_append, Fragment.text, hfirst, hrest, line, String.append_assoc]

end

/-- What follows the presence among the fragments of a declaration. -/
def afterPresence (depth : Nat) (declaration : Declaration) : List Fragment :=
  .code (descriptionLines (depth + 1) declaration.description) ::
    (shapeFragments (depth + 1) declaration.shape ++ [.code (line depth "\x7d")])

theorem fragments_eq (depth : Nat) (declaration : Declaration) :
    declaration.fragments depth =
      .code (declaration.shape.constructor ++ "\x7b") ::
        .presence (depth + 1) declaration.presence :: declaration.afterPresence depth := by
  cases declaration
  rfl

theorem entryFragments_eq (depth : Nat) (entries : List (String × Declaration)) :
    entryFragments depth entries =
      entries.flatMap fun entry =>
        .code (line depth (quote entry.1 ++ ": ")) ::
          (entry.2.fragments depth ++ [.code ","]) := by
  induction entries with
  | nil => rfl
  | cons entry rest ih =>
    rw [entryFragments, ih, List.flatMap_cons, List.cons_append, List.append_assoc,
      List.singleton_append]

end Declaration

/-! ## Two schemas of one attribute -/

namespace Field

theorem declare_description (field : Field) (mode : Mode) (place : Place) :
    (field.declare mode place).description = field.description := by
  cases field
  rfl

/-- No attribute of a data source has a constraint. -/
theorem declare_validator?_dataSource (field : Field) (place : Place) :
    (field.declare .dataSource place).validator? = none := by
  rw [Option.eq_none_iff_forall_ne_some]
  intro v hv
  obtain ⟨type, -, hvalidator⟩ := (field.declare_validator?_eq_some_iff ..).mp hv
  cases hvalidator

/-- Entries that are read-only one by one are read-only as a whole. -/
theorem entryFragments_of_fields {fields : List Field} {place place' : Place}
    (h : ∀ field ∈ fields, ∀ depth, (field.declare .dataSource place).fragments depth =
      ((field.declare .resource place').fragments depth).filterMap Fragment.readOnly?)
    (depth : Nat) :
    Declaration.entryFragments depth (declareAll .dataSource place fields) =
      (Declaration.entryFragments depth (declareAll .resource place' fields)).filterMap
        Fragment.readOnly? := by
  rw [declareAll_eq, declareAll_eq, Declaration.entryFragments_eq, Declaration.entryFragments_eq,
    List.flatMap_map, List.flatMap_map, List.filterMap_flatMap]
  refine List.flatMap_congr fun field hfield => ?_
  simp only [entry, h field hfield depth, List.filterMap_cons, List.filterMap_append,
    List.filterMap_nil, Fragment.readOnly?]

/-- Below its presence an attribute is read-only if those inside it are. -/
theorem afterPresence_of_inner {field : Field}
    (hinner : ∀ child ∈ field.inner, ∀ (computed : Bool) (place : Place) (depth : Nat),
      (child.declare .dataSource (.inside computed)).fragments depth =
        ((child.declare .resource place).fragments depth).filterMap Fragment.readOnly?)
    (place place' : Place) (depth : Nat) :
    (field.declare .dataSource place).afterPresence depth =
      ((field.declare .resource place').afterPresence depth).filterMap Fragment.readOnly? := by
  have hshape : Declaration.shapeFragments (depth + 1) (field.declare .dataSource place).shape =
      (Declaration.shapeFragments (depth + 1) (field.declare .resource place').shape).filterMap
        Fragment.readOnly? := by
    cases hkind : field.kind with
    | primitive type =>
      -- whatever constraint the resource has goes, and the data source has none
      have hnone : ∀ validator : Option Validator,
          (Declaration.shapeFragments (depth + 1) (.primitive type validator)).filterMap
            Fragment.readOnly? = [] := by
        rintro (_ | validator) <;> rfl
      cases field
      cases hkind
      exact (hnone _).symm
    | list type =>
      cases field
      cases hkind
      rfl
    | map type =>
      cases field
      cases hkind
      rfl
    | object nested repeated =>
      have hnested : field.inner = nested := by rw [inner, hkind]; rfl
      rw [hnested] at hinner
      have hentries : ∀ depth,
          Declaration.entryFragments depth
              (declareAll .dataSource (field.placeInside .dataSource place) nested) =
            (Declaration.entryFragments depth
              (declareAll .resource (field.placeInside .resource place') nested)).filterMap
                Fragment.readOnly? :=
        entryFragments_of_fields fun child hchild => hinner child hchild _ _
      rw [declare_shape_of_object field _ _ hkind, declare_shape_of_object field _ _ hkind]
      cases repeated <;>
        simp only [Declaration.shapeFragments, hentries, List.filterMap_cons,
          List.filterMap_append, List.filterMap_nil, Fragment.readOnly?]
  simp only [Declaration.afterPresence, declare_description, hshape, List.filterMap_cons,
    List.filterMap_append, List.filterMap_nil, Fragment.readOnly?]

/-- **Inside an attribute, the schema of a data source is that of the resource made read-only.** -/
theorem fragments_inside (field : Field) (computed : Bool) (place : Place) (depth : Nat) :
    (field.declare .dataSource (.inside computed)).fragments depth =
      ((field.declare .resource place).fragments depth).filterMap Fragment.readOnly? := by
  induction field using induction_on_inner generalizing computed place depth with
  | step field ih =>
    have hpresence : (field.declare .dataSource (.inside computed)).presence = .computed := by
      rw [declare_presence_dataSource, if_neg (by simp)]
    rw [Declaration.fragments_eq, Declaration.fragments_eq, hpresence,
      afterPresence_of_inner ih (.inside computed) place,
      field.declare_constructor .dataSource (.inside computed) .resource place]
    rfl

theorem foldl_placeInside_ne_top (mode : Mode) {place : Place} (hplace : place ≠ .top)
    (above : List Field) : above.foldl (fun p f => f.placeInside mode p) place ≠ .top := by
  induction above generalizing place with
  | nil => exact hplace
  | cons outer rest ih => exact ih (placeInside_ne_top outer mode place)

/-- The attributes of a data source at all positions: only the outermost can be required. -/
theorem presence_of_atPosition_dataSource {field : Field} {position : List Nat}
    {entry : String × Declaration}
    (h : atPosition Declaration.inside position (field.entry .dataSource .top) = some entry) :
    entry.2.presence = if position = [] ∧ field.name = "id" then .required else .computed := by
  rw [atPosition_entry] at h
  obtain ⟨there, hthere, rfl⟩ := Option.map_eq_some_iff.mp h
  rw [Field.entry, declare_presence_dataSource]
  cases position with
  | nil =>
    obtain rfl := Option.some.inj hthere
    simp [passed]
  | cons i rest =>
    have hinside : (passed inner (i :: rest) field).foldl (fun p f => f.placeInside .dataSource p)
        .top ≠ .top := by
      rw [passed, List.foldl_cons]
      exact foldl_placeInside_ne_top .dataSource (placeInside_ne_top field .dataSource .top) _
    rw [if_neg (fun h => hinside h.1), if_neg (fun h => List.cons_ne_nil i rest h.1)]

end Field

/-- **The schema of a data source is that of the resource, made read-only.** The code of an
attribute in either schema is made up of fragments, and apart from presences and constraints the
two have the same. That of the data source begins like that of the resource, with the attribute
required if it is called `id` and computed otherwise; what follows is that of the resource made
read-only. So every attribute inside is computed, one that is called `id` too, and there is no
constraint. -/
theorem dataSource_readOnly (field : Field) (depth : Nat) :
    (∀ mode, String.join (((field.declare mode .top).fragments depth).map Fragment.text) =
      (field.declare mode .top).text depth) ∧
    ((field.declare .dataSource .top).fragments depth).filter Fragment.isCode =
      ((field.declare .resource .top).fragments depth).filter Fragment.isCode ∧
    (∃ opening presence rest,
      (field.declare .resource .top).fragments depth =
        .code opening :: .presence (depth + 1) presence :: rest ∧
      (field.declare .dataSource .top).fragments depth =
        .code opening :: .presence (depth + 1) (if field.name = "id" then .required else .computed) ::
          rest.filterMap Fragment.readOnly?) ∧
    (∀ depth' v, Fragment.constraint depth' v ∉ (field.declare .dataSource .top).fragments depth) ∧
    ∀ position entry,
      atPosition Declaration.inside position (field.entry .dataSource .top) = some entry →
        entry.2.validator? = none ∧
        (entry.2.presence.text = "Required: true" ↔ position = [] ∧ field.name = "id") ∧
        (entry.2.presence.text = "Computed: true" ↔ ¬ (position = [] ∧ field.name = "id")) := by
  have hresource := Declaration.fragments_eq depth (field.declare .resource .top)
  have hdataSource := Declaration.fragments_eq depth (field.declare .dataSource .top)
  rw [field.declare_constructor .dataSource .top .resource .top,
    field.declare_presence_dataSource,
    Field.afterPresence_of_inner (fun child _ => child.fragments_inside) .top .top] at hdataSource
  simp only [true_and] at hdataSource
  refine ⟨fun mode => Declaration.join_fragments depth _, ?_, ⟨_, _, _, hresource, hdataSource⟩,
    ?_, ?_⟩
  · rw [hresource, hdataSource]
    simp only [List.filter_cons, Fragment.isCode, Fragment.filter_isCode_readOnly]
    rfl
  · intro depth' v hmem
    rw [hdataSource] at hmem
    rcases List.mem_cons.mp hmem with h | hmem
    · cases h
    rcases List.mem_cons.mp hmem with h | hmem
    · cases h
    rcases Fragment.isCode_or_computed_of_mem hmem with h | ⟨_, h⟩ <;> cases h
  · intro position entry hentry
    have hpresence := Field.presence_of_atPosition_dataSource hentry
    rw [Field.atPosition_entry] at hentry
    obtain ⟨there, -, rfl⟩ := Option.map_eq_some_iff.mp hentry
    refine ⟨there.declare_validator?_dataSource _, ?_⟩
    rw [hpresence]
    by_cases hid : position = [] ∧ field.name = "id"
    · rw [if_pos hid]
      simp [Presence.text, hid]
    · rw [if_neg hid]
      simp [Presence.text, hid]

/-- An `id` that is an object with an `id` of its own and a list of roles with a choice. -/
def badgeId : Field where
  name := "id"
  source := "id"
  required := true
  kind := .object
    [{ name := "id", source := "id", kind := .primitive .int, required := true },
     { name := "roles", source := "roles",
       kind := .object
        [{ name := "grade", source := "grade", kind := .primitive .string,
           enumValues := ["high", "low"] }] true }] false

/-- The user of the data source gives the outer `id`; the inner one and the grade are computed, and
the grade is not constrained. -/
theorem badgeId_readOnly :
    ∃ outer inner grade : String × Declaration,
      atPosition Declaration.inside [] (badgeId.entry .dataSource .top) = some outer ∧
      outer.1 = "id" ∧ outer.2.presence.text = "Required: true" ∧
      atPosition Declaration.inside [0] (badgeId.entry .dataSource .top) = some inner ∧
      inner.1 = "id" ∧ inner.2.presence.text = "Computed: true" ∧
      atPosition Declaration.inside [1, 0] (badgeId.entry .dataSource .top) = some grade ∧
      grade.1 = "grade" ∧ grade.2.presence.text = "Computed: true" ∧
      grade.2.validator? = none := by
  obtain ⟨-, -, -, -, hall⟩ := dataSource_readOnly badgeId attributeDepth
  have houter := hall [] _ rfl
  have hinner := hall [0] _ rfl
  have hgrade := hall [1, 0] _ rfl
  exact ⟨_, _, _, rfl, rfl, houter.2.1.mpr ⟨rfl, rfl⟩, rfl, rfl, hinner.2.2.mpr (by simp), rfl, rfl,
    hgrade.2.2.mpr (by simp), hgrade.1⟩

end ProviderGen
