/-
What documentation says of an attribute is what its schema says.

Documentation sorts attributes by the group of their records, and the schema of a resource gives
each a presence. Both depend on what lies further out: what is inside something read-only is read
and not set. A record is told so by a flag and a declaration by its place, which looks at the
presence that was given to the one outside; and where an attribute is said to be both required
and read-only, the one tests the second first and the other takes it out of the first. The two
say the same at every position, because flag and place are set by the same attributes on the way
there (`flag_foldl_iff`).
-/
import ProviderGen.Proofs.Printing

set_option autoImplicit false

namespace ProviderGen

open ProviderGen.Text

/-! ## Agreement at a position -/

/-- A record and an entry of an attribute map are of the same attribute and agree on who sets it,
where `fixed` says that it is only read. -/
structure Agree (fixed : Prop) (record : Record) (entry : String × Declaration) : Prop where
  name : entry.1 = record.name
  computed : entry.2.presence.text = "Computed: true" ↔ record.group.name = "read_only"
  group : record.group.name = "read_only" ↔ record.readOnly = true
  readOnly : record.readOnly = true ↔ fixed
  required : entry.2.presence.text = "Required: true" ↔ record.group.name = "required"
  optional : entry.2.presence.text = "Optional: true" ↔ record.group.name = "optional"

theorem Presence.text_eq_computed_iff (presence : Presence) :
    presence.text = "Computed: true" ↔ presence = .computed := by
  cases presence <;> simp [Presence.text]

/-- The presence of the attributes of a group. -/
def Group.presence : Group → Presence
  | required => .required
  | optional => .optional
  | readOnly => .computed

/-- What the presence prints tells the groups apart, as their names do. -/
theorem Group.text_presence_iff (group : Group) :
    (group.presence.text = "Computed: true" ↔ group.name = "read_only") ∧
      (group.presence.text = "Required: true" ↔ group.name = "required") ∧
      (group.presence.text = "Optional: true" ↔ group.name = "optional") := by
  cases group <;> simp [Group.presence, Presence.text, Group.name]

namespace Field

variable {field : Field} {place : Place} {told : Nat × Bool}

/-- A declaration whose place says what the record is told has the presence of its group. -/
theorem entry_presence_eq (h : place = .inside true ↔ told.2 = true) :
    (field.entry .resource place).2.presence = (field.recordTold told).group.presence := by
  have hplace : place = .inside true ∨ field.readOnly = true ↔
      (field.readOnly || told.2) = true := by
    rw [h, Bool.or_eq_true, or_comm]
  rw [entry, declare_presence, presenceOf, recordTold, toRecord_group]
  cases hfixed : field.readOnly || told.2 with
  | true => rw [if_pos (hplace.mpr hfixed)]; rfl
  | false =>
    rw [if_neg (mt hplace.mp (by rw [hfixed]; exact Bool.false_ne_true))]
    cases field.required <;> rfl

/-- A record is in the group that its flag says. -/
theorem recordTold_group_iff :
    (field.recordTold told).group.name = "read_only" ↔ (field.recordTold told).readOnly = true := by
  rw [recordTold, toRecord_group, toRecord_readOnly]
  cases field.readOnly || told.2 <;> cases field.required <;> simp [Group.of, Group.name]

theorem agree_of_told (h : place = .inside true ↔ told.2 = true) :
    Agree (field.readOnly = true ∨ told.2 = true) (field.recordTold told)
      (field.entry .resource place) where
  name := by cases field; rfl
  computed := by
    rw [entry_presence_eq h]
    exact (Group.text_presence_iff _).1
  group := recordTold_group_iff
  readOnly := by rw [recordTold, toRecord_readOnly, Bool.or_eq_true]
  required := by
    rw [entry_presence_eq h]
    exact (Group.text_presence_iff _).2.1
  optional := by
    rw [entry_presence_eq h]
    exact (Group.text_presence_iff _).2.2

/-! ## What is handed down -/

/-- Place and flag are set by the same attributes on the way to a position. -/
theorem placeInside_foldl_iff (above : List Field) :
    above.foldl (fun p f => f.placeInside .resource p) .top = .inside true ↔
      ∃ outer ∈ above, outer.readOnly = true := by
  have hflag := flag_foldl_iff (fun p => p = .inside true) (fun f => f.readOnly = true)
    (fun p f => placeInside_eq_iff f p) .top above
  rwa [or_iff_right (by decide)] at hflag

theorem tell_foldl_iff (depth : Nat) (above : List Field) :
    (above.foldl tell (depth, false)).2 = true ↔ ∃ outer ∈ above, outer.readOnly = true := by
  have htell : ∀ (told : Nat × Bool) (f : Field),
      (tell told f).2 = true ↔ told.2 = true ∨ f.readOnly = true := by
    intro told f
    rw [tell, Bool.or_eq_true, or_comm]
  have hflag := flag_foldl_iff (fun told : Nat × Bool => told.2 = true)
    (fun f => f.readOnly = true) htell (depth, false) above
  rwa [or_iff_right Bool.false_ne_true] at hflag

variable {position : List Nat} {there : Field}

/-- Record and declaration at a position agree, and what they agree on is whether the attribute
or one that is passed is read-only. -/
theorem exists_agree (h : atPosition inner position field = some there) (depth : Nat) :
    ∃ record entry,
      atPosition Record.nested position (field.recordTold (depth, false)) = some record ∧
      atPosition Declaration.inside position (field.entry .resource .top) = some entry ∧
      Agree (there.readOnly = true ∨ ∃ above ∈ passed inner position field, above.readOnly = true)
        record entry := by
  have hrecord := field.atPosition_recordTold position (depth, false)
  have hentry := field.atPosition_entry .resource .top position
  rw [h, Option.map_some] at hrecord hentry
  have hagree := @agree_of_told there _ _
    ((placeInside_foldl_iff (passed inner position field)).trans (tell_foldl_iff depth _).symm)
  rw [tell_foldl_iff] at hagree
  exact ⟨_, _, hrecord, hentry, hagree⟩

/-- What is computed has no constraint. -/
theorem validator?_of_computed (h : (field.declare .resource place).presence = .computed) :
    (field.declare .resource place).validator? = none := by
  rw [Option.eq_none_iff_forall_ne_some]
  intro v hv
  obtain ⟨type, -, hvalidator⟩ := (field.declare_validator?_eq_some_iff ..).mp hv
  exact (validatorOf_eq_some_iff.mp hvalidator).1 h

/-- Below something computed all is computed, and nothing has a constraint. -/
theorem computed_of_passed (h : atPosition inner position field = some there)
    {entry above : String × Declaration}
    (hentry : atPosition Declaration.inside position (field.entry .resource .top) = some entry)
    (habove : above ∈ passed Declaration.inside position (field.entry .resource .top))
    (hcomputed : above.2.presence = .computed) :
    entry.2.presence = .computed ∧ entry.2.validator? = none := by
  obtain ⟨before, b, after, hpassed, rfl⟩ :=
    exists_of_mem_passed_make (fun p f => f.declare_entries .resource p) habove
  -- either it is read-only or something it is in, and that is passed too
  have hreadOnly : ∃ outer ∈ passed inner position field, outer.readOnly = true := by
    rw [hpassed]
    rcases (declare_presence_eq_computed_iff ..).mp hcomputed with hplace | hown
    · obtain ⟨outer, houter, hreadOnly⟩ := (placeInside_foldl_iff before).mp hplace
      exact ⟨outer, List.mem_append_left _ houter, hreadOnly⟩
    · exact ⟨b, List.mem_append_right _ (List.mem_cons_self ..), hown⟩
  rw [atPosition_entry, h, Option.map_some, Option.some.injEq] at hentry
  subst hentry
  have hpresence := (declare_presence_eq_computed_iff there _).mpr
    (Or.inl ((placeInside_foldl_iff _).mpr hreadOnly))
  exact ⟨hpresence, validator?_of_computed hpresence⟩

end Field

/-! ## Every attribute -/

/-- **Documentation and schema agree on every attribute**, at every position below an outermost
one. The tree of records and the declaration have the attributes' positions. The text of the
outermost declaration shows the declaration at each position, under its name and beginning with
its presence; that is `Computed` just if the record is read-only, which is to say the attribute or
one it lies in is, `Required` just if the record is required and `Optional` just if it is
optional. Below a computed attribute all is computed and nothing has a constraint. -/
theorem attributes_agree {fields : List Field} {i : Nat} {top : Field}
    (htop : fields[i]? = some top) :
    ∃ outer, (recordsOf fields)[i]? = some outer ∧
      outer.declaration = (top.entry .resource .top).2.text attributeDepth ∧
      (∀ position, (atPosition Record.nested position outer).isSome =
        (atPosition Field.inner position top).isSome) ∧
      (∀ position, (atPosition Declaration.inside position (top.entry .resource .top)).isSome =
        (atPosition Field.inner position top).isSome) ∧
      ∀ position field, atPosition Field.inner position top = some field → ∃ record entry depth,
        atPosition Record.nested position outer = some record ∧
        atPosition Declaration.inside position (top.entry .resource .top) = some entry ∧
        ((if position = [] then "" else quote entry.1 ++ ": ") ++
          entry.2.text depth).toList <:+: outer.declaration.toList ∧
        (entry.2.shape.constructor ++ "\x7b" ++
          line (depth + 1) (entry.2.presence.text ++ ",")).toList <+:
            (entry.2.text depth).toList ∧
        Agree (field.readOnly = true ∨
          ∃ above ∈ passed Field.inner position top, above.readOnly = true) record entry ∧
        ∀ above ∈ passed Declaration.inside position (top.entry .resource .top),
          above.2.presence.text = "Computed: true" →
            entry.2.presence.text = "Computed: true" ∧ entry.2.validator? = none := by
  have houter : (recordsOf fields)[i]? = some (top.recordTold (attributeDepth, false)) := by
    rw [recordsOf, Field.toRecords_eq, List.getElem?_map, htop]
    rfl
  have htext : (top.recordTold (attributeDepth, false)).declaration =
      (top.entry .resource .top).2.text attributeDepth :=
    top.toRecord_declaration attributeDepth false
  refine ⟨_, houter, htext, ?_, ?_, ?_⟩
  · intro position
    rw [top.atPosition_recordTold, Option.isSome_map]
  · intro position
    rw [top.atPosition_entry, Option.isSome_map]
  · intro position field hfield
    obtain ⟨record, entry, hrecord, hentry, hagree⟩ :=
      Field.exists_agree hfield attributeDepth
    obtain ⟨depth, hinfix⟩ := Declaration.atPosition_infix_text hentry attributeDepth
    refine ⟨record, entry, depth, hrecord, hentry, by rwa [htext], entry.2.flag_prefix_text depth,
      hagree, ?_⟩
    intro above habove hcomputed
    rw [Presence.text_eq_computed_iff] at hcomputed ⊢
    exact Field.computed_of_passed hfield hentry habove hcomputed

/-- A read-only object whose list of keys has attributes that look required and constrained. -/
def keyringFields : List Field :=
  [{ name := "label", source := "label", kind := .primitive .string, required := true },
   { name := "keyring", source := "keyring", readOnly := true,
     kind := .object
      [{ name := "id", source := "id", kind := .primitive .int, required := true },
       { name := "keys", source := "keys",
         kind := .object
          [{ name := "grade", source := "grade", kind := .primitive .string,
             enumValues := ["high", "low"], required := true }] true }] false }]

theorem keyringFields_agree :
    ∃ top outer record entry, keyringFields[1]? = some top ∧
      (recordsOf keyringFields)[1]? = some outer ∧
      atPosition Record.nested [1, 0] outer = some record ∧ record.name = "grade" ∧
      record.group.name = "read_only" ∧
      atPosition Declaration.inside [1, 0] (top.entry .resource .top) = some entry ∧
      entry.2.presence.text = "Computed: true" ∧ entry.2.validator? = none := by
  obtain ⟨outer, houter, -, -, -, hall⟩ := @attributes_agree keyringFields 1 _ rfl
  obtain ⟨record, entry, -, hrecord, hentry, -, -, hagree, hbelow⟩ := hall [1, 0] _ rfl
  have hgroup : record.group.name = "read_only" :=
    hagree.group.mpr (hagree.readOnly.mpr (Or.inr ⟨_, List.mem_cons_self .., rfl⟩))
  obtain ⟨hpresence, hvalidator⟩ := hbelow _ (List.mem_cons_self ..) rfl
  have hname : entry.1 = "grade" := congrArg Prod.fst (Option.some.inj hentry).symm
  exact ⟨_, outer, record, entry, rfl, houter, hrecord, hagree.name.symm.trans hname, hgroup,
    hentry, hpresence, hvalidator⟩

end ProviderGen
