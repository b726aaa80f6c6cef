/-
Reading what is written.

A decoder reads a layout as a value if it gives the value for every JSON value that the layout can
be written as. Each combinator reads a layout if what it is made of reads the parts, so that the
decoder of a type follows its layout. For records this is where the freedom of writing is used up:
a member that is left out does not change the record under construction, since it would have set
what is there, and one that the record does not know is passed over.

A container takes up one of the containers that may be opened, so reading is said for depths below
a bound, and the parts are read below a bound that is lower by one. A decoder that stands for a
recursive type in generations is then good below its generation.
-/
import ProviderGen.Proofs.NodeReading

set_option autoImplicit false

namespace ProviderGen

variable {α β ρ : Type}

namespace Decoder

open Step

/-! ## Decoders and layouts -/

/-- A decoder reads a layout as a value: however the layout is written, for all depths below the
bound at which the containers can be opened. -/
def Reads (bound : Nat) (decode : Decoder α) (layout : Layout) (value : α) : Prop :=
  layout.Proper → ∀ (admits : String → Prop) (json : Json), layout.Writes admits json →
    ∀ (setting : Setting) (depth : Nat), json.depth ≤ depth → depth < bound →
      Finds value (decode setting depth json.node)

section Reads

variable {bound : Nat} {decode : Decoder α} {layout : Layout} {value : α}

theorem Reads.weaken (h : Reads (bound + 1) decode layout value) :
    Reads bound decode layout value :=
  fun hproper admits json hwrites setting depth hdepth hbound =>
    h hproper admits json hwrites setting depth hdepth (Nat.lt_succ_of_lt hbound)

/-- No depth is below the bound. -/
theorem reads_zero (decode : Decoder α) (layout : Layout) (value : α) :
    Reads 0 decode layout value :=
  fun _ _ _ _ _ _ _ hbound => absurd hbound (Nat.not_lt_zero _)

/-- A decoder in generations reads what each generation does, if it takes one that is good for the
containers that may be opened. -/
theorem Reads.of_generations {decoderFor : Nat → Decoder α}
    (h : ∀ generation, Reads generation (decoderFor generation) layout value) :
    Reads bound (fun setting depth node => decoderFor (depth + 1) setting depth node) layout
      value :=
  fun hproper admits json hwrites setting depth hdepth _ =>
    h (depth + 1) hproper admits json hwrites setting depth hdepth (Nat.lt_succ_self depth)

theorem Reads.map (h : Reads bound decode layout value) (f : α → β) :
    Reads bound (fun setting depth node => f <$> decode setting depth node) layout (f value) :=
  fun hproper admits json hwrites setting depth hdepth hbound =>
    (h hproper admits json hwrites setting depth hdepth hbound).map f

theorem reads_text (s : String) : Reads bound text (.text s) s := by
  rintro - admits json hwrites setting depth - -
  rw [hwrites.eq_of_plain]
  exact finds_pure s

theorem reads_flag (b : Bool) : Reads bound flag (.flag b) b := by
  rintro - admits json hwrites setting depth - -
  rw [hwrites.eq_of_plain]
  exact finds_pure b

theorem reads_literal (value : Json) : Reads bound literal (.plain value) value := by
  intro hproper admits json hwrites setting depth hdepth _
  obtain rfl := hwrites.eq_of_plain
  exact literal_node setting hproper hdepth

theorem reads_none (decode : Decoder α) : Reads bound (optional decode) (.plain .null) none := by
  rintro - admits json hwrites setting depth - -
  rw [hwrites.eq_of_plain]
  exact finds_pure none

/-- What is there is read as such, unless it is written as nothing. -/
theorem Reads.some (h : Reads bound decode layout value)
    (hnull : ∀ admits, ¬ layout.Writes admits .null) :
    Reads bound (optional decode) layout (some value) := by
  intro hproper admits json hwrites setting depth hdepth hbound
  have hread := (h hproper admits json hwrites setting depth hdepth hbound).map Option.some
  refine (follow_node setting json).bind ?_
  cases json with
  | null => exact absurd hwrites (hnull admits)
  | bool b => exact (finds_pure false).bind hread
  | number n => exact (finds_pure false).bind hread
  | string s => exact (finds_pure false).bind hread
  | array items => exact hread
  | object members => exact hread

/-! ### Lists and maps -/

theorem reads_list {items : List α} {layoutOf : α → Layout}
    (h : ∀ item ∈ items, Reads bound decode (layoutOf item) item) :
    Reads bound (Decoder.list decode) (.list (items.map layoutOf)) items := by
  intro hproper admits json hwrites setting depth hdepth hbound
  obtain ⟨values, hvalues, rfl⟩ := hwrites.exists_of_list
  cases depth with
  | zero => exact absurd hdepth (Nat.not_succ_le_zero _)
  | succ depth =>
    have hnested := Json.depthItems_le_iff.mp (Nat.le_of_succ_le_succ hdepth)
    have hlayouts := Layout.properItems_iff.mp hproper
    have hitems : List.Forall₂ (fun node item => Finds item (decode setting depth node))
        (Json.nodes values) items := by
      rw [Json.nodes_eq, List.forall₂_map_left_iff]
      refine (forall₂_imp_of_mem (List.forall₂_map_left_iff.mp hvalues) ?_).flip
      intro item hitem value hvalue hwrites
      exact h item hitem (hlayouts _ (List.mem_map_of_mem hitem)) admits value hwrites setting depth
        (hnested value hvalue) (Nat.lt_of_succ_lt hbound)
    refine (follow_node setting _).bind ((enter_succ depth).bind ?_)
    exact (finds_mapM hitems).bind ((finds_pure ()).bind (finds_pure _))

theorem reads_table {table : Table α} {layoutOf : α → Layout}
    (h : ∀ entry ∈ table, Reads bound decode (layoutOf entry.2) entry.2) :
    Reads bound (Decoder.table decode)
      (.map (table.map fun entry => (entry.1, layoutOf entry.2))) table := by
  intro hproper admits json hwrites setting depth hdepth hbound
  obtain ⟨members, hmembers, rfl⟩ := hwrites.exists_of_map
  cases depth with
  | zero => exact absurd hdepth (Nat.not_succ_le_zero _)
  | succ depth =>
    have hnested := Json.depthMembers_le_iff.mp (Nat.le_of_succ_le_succ hdepth)
    obtain ⟨hkeys, hlayouts⟩ := hproper
    rw [Layout.properEntries_iff, List.forall_mem_map] at hlayouts
    have hentries : List.Forall₂ (fun member entry => member.1 = entry.1 ∧
        Finds entry.2 (decode setting depth member.2.node)) members table := by
      refine (forall₂_imp_of_mem (List.forall₂_map_left_iff.mp hmembers) ?_).flip
      rintro entry hentry member hmember ⟨hkey, hwrites⟩
      exact ⟨hkey.symm, h entry hentry (hlayouts entry hentry) admits member.2 hwrites setting
        depth (hnested member hmember) (Nat.lt_of_succ_lt hbound)⟩
    have hread := finds_members setting depth Table.put hentries []
    rw [List.map_map] at hkeys
    rw [Table.foldl_put [] hkeys, List.nil_append] at hread
    refine (follow_node setting _).bind ((enter_succ depth).bind ?_)
    exact hread.bind ((finds_pure ()).bind (finds_pure _))

/-! ### Alternatives -/

theorem reads_bare {bare : String → Option (Except Fault α)} {name : String}
    (h : bare name = some (.ok value)) (tagged : String → Option (Decoder α)) :
    Reads bound (alternative bare tagged) (.plain (.string name)) value := by
  rintro - admits json hwrites setting depth - - followed
  rw [hwrites.eq_of_plain, Json.node, alternative]
  simp only [Scalar.ofAtom, h]
  rfl

theorem reads_tagged (bare : String → Option (Except Fault α)) {name : String}
    {tagged : String → Option (Decoder α)} (hname : tagged name = some decode)
    (h : Reads bound decode layout value) :
    Reads bound (alternative bare tagged) (.map [(name, layout)]) value := by
  intro hproper admits json hwrites setting depth hdepth hbound
  obtain ⟨members, hmembers, rfl⟩ := hwrites.exists_of_map
  obtain ⟨⟨key, content⟩, rest, ⟨hkey, hcontent⟩, hrest, rfl⟩ := List.forall₂_cons_left_iff.mp hmembers
  obtain rfl := List.forall₂_nil_left_iff.mp hrest
  obtain rfl : name = key := hkey
  cases depth with
  | zero => exact absurd hdepth (Nat.not_succ_le_zero _)
  | succ depth =>
    have hnested := Json.depthMembers_le_iff.mp (Nat.le_of_succ_le_succ hdepth)
    have hread := h (Layout.properEntries_iff.mp hproper.2 _ (List.mem_singleton_self _)) admits
      content hcontent setting depth (hnested _ (List.mem_singleton_self _))
      (Nat.lt_of_succ_lt hbound)
    refine (enter_succ depth).bind ((text_string setting depth name).bind ?_)
    rw [hname]
    exact hread.bind ((finds_pure ()).bind (finds_pure _))

/-- A decoder refuses a layout, however it is written. -/
def Refuses (decode : Decoder α) (layout : Layout) : Prop :=
  ∀ (admits : String → Prop) (json : Json), layout.Writes admits json →
    ∀ (setting : Setting) (depth followed : Nat),
      ∃ fault, decode setting depth json.node followed = .error fault

/-- Of several forms, the first that does not refuse the layout gives the value. -/
theorem reads_untagged (name : String) {refused : List (Decoder α)} {form : Decoder α}
    (hrefused : ∀ earlier ∈ refused, Refuses earlier layout)
    (hform : Reads bound form layout value) (rest : List (Decoder α)) :
    Reads bound (untagged name (refused ++ form :: rest)) layout value := by
  intro hproper admits json hwrites setting depth hdepth hbound
  refine (buffer_node setting hdepth).bind fun followed => ?_
  -- each form is tried on the buffered node from the same state, so the refusals leave no trace
  have hfirst : (refused ++ form :: rest).findSome? (fun form =>
      ((form (buffered setting) depth json.node).run followed).toOption) =
        some (value, followed) := by
    rw [List.findSome?_append, List.findSome?_eq_none_iff.mpr, Option.none_or, List.findSome?_cons]
    · rw [StateT.run, hform hproper admits json hwrites _ depth hdepth hbound followed]
      rfl
    · intro earlier hearlier
      obtain ⟨fault, hfault⟩ := hrefused earlier hearlier admits json hwrites (buffered setting)
        depth followed
      rw [StateT.run, hfault]
      rfl
  change StateT.run (get >>= _) followed = _
  rw [StateT.run_bind, StateT.run_get, pure_bind]
  simp only [hfirst]
  rfl

end Reads

/-! ### Members that may be left out -/

/-- A decoder reads a layout as a value, which is `fallback` if the layout is the value that counts
for a member that is left out. -/
structure Completes (bound : Nat) (decode : Decoder α) (absent : Json) (layout : Layout)
    (fallback value : α) : Prop where
  reads : Reads bound decode layout value
  eq_fallback : layout.json = absent → value = fallback

section Completes

variable {bound : Nat} {decode : Decoder α}

theorem completes_text (s : String) :
    Completes bound text (.string "") (.text s) "" s :=
  ⟨reads_text s, fun h => Json.string.inj h⟩

theorem completes_flag (b : Bool) :
    Completes bound flag (.bool false) (.flag b) false b :=
  ⟨reads_flag b, fun h => Json.bool.inj h⟩

theorem completes_optional {layoutOf : α → Layout} {value? : Option α}
    (h : ∀ value ∈ value?, Reads bound decode (layoutOf value) value)
    (hnull : ∀ value ∈ value?, ∀ admits, ¬ (layoutOf value).Writes admits .null) :
    Completes bound (optional decode) .null (Layout.ofOption layoutOf value?) none value? := by
  cases value? with
  | none => exact ⟨reads_none decode, fun _ => rfl⟩
  | some value =>
    refine ⟨(h value rfl).some (hnull value rfl), fun habsent => ?_⟩
    have hwrites := Layout.writes_json Layout.noKey (layoutOf value)
    rw [show (layoutOf value).json = .null from habsent] at hwrites
    exact absurd hwrites (hnull value rfl _)

theorem completes_list {items : List α} {layoutOf : α → Layout}
    (h : ∀ item ∈ items, Reads bound decode (layoutOf item) item) :
    Completes bound (Decoder.list decode) (.array []) (.list (items.map layoutOf)) [] items := by
  refine ⟨reads_list h, fun habsent => ?_⟩
  cases items with
  | nil => rfl
  | cons item rest => cases Json.array.inj habsent

theorem completes_table {table : Table α} {layoutOf : α → Layout}
    (h : ∀ entry ∈ table, Reads bound decode (layoutOf entry.2) entry.2) :
    Completes bound (Decoder.table decode) (.object [])
      (.map (table.map fun entry => (entry.1, layoutOf entry.2))) [] table := by
  refine ⟨reads_table h, fun habsent => ?_⟩
  cases table with
  | nil => rfl
  | cons entry rest => cases Json.object.inj habsent

theorem completes_optionalText (s? : Option String) :
    Completes bound (optional text) .null (.ofOption .text s?) none s? :=
  completes_optional (fun s _ => reads_text s) nofun

theorem completes_texts (items : List String) :
    Completes bound (Decoder.list text) (.array []) (.texts items) [] items :=
  completes_list fun s _ => reads_text s

end Completes

/-! ### Records -/

section Records

variable {bound : Nat} {admits : String → Prop}

/-- Field by field, the members of a record change it from one state into another: each is read
by the field of its name, and one that may be left out would change nothing if it were. -/
inductive Fills (bound : Nat) :
    List (RecordField ρ) → List (Slot Layout) → ρ → ρ → Prop
  | nil (record : ρ) : Fills bound [] [] record record
  | cons {field : RecordField ρ} {slot : Slot Layout} {fields : List (RecordField ρ)}
      {slots : List (Slot Layout)} {start result : ρ} {update : ρ → ρ}
      (hname : field.name = slot.key) (hread : Reads bound field.read slot.content update)
      (habsent : slot.absent = some slot.content.json →
        field.required = false ∧ update start = start)
      (hrest : Fills bound fields slots (update start) result) :
      Fills bound (field :: fields) (slot :: slots) start result

variable {fields : List (RecordField ρ)} {slots : List (Slot Layout)} {start result : ρ}

theorem Fills.required {name : String} {decode : Decoder α} {update : α → ρ → ρ}
    {content : Layout} {value : α} (hread : Reads bound decode content value)
    (hrest : Fills bound fields slots (update value start) result) :
    Fills bound (Decoder.required name decode update :: fields)
      (⟨name, none, content⟩ :: slots) start result :=
  .cons rfl (hread.map update) nofun hrest

theorem Fills.defaulted {name : String} {decode : Decoder α} {update : α → ρ → ρ} {absent : Json}
    {content : Layout} {fallback value : α}
    (hread : Completes bound decode absent content fallback value)
    (hstart : update fallback start = start)
    (hrest : Fills bound fields slots (update value start) result) :
    Fills bound (Decoder.defaulted name decode update :: fields)
      (⟨name, some absent, content⟩ :: slots) start result := by
  refine .cons rfl (hread.reads.map update) (fun habsent => ⟨rfl, ?_⟩) hrest
  rw [hread.eq_fallback (Option.some.inj habsent).symm, hstart]

theorem Fills.names_eq (h : Fills bound fields slots start result) :
    fields.map RecordField.name = slots.map Slot.key := by
  induction h with
  | nil => rfl
  | cons hname _ _ _ ih => rw [List.map_cons, List.map_cons, hname, ih]

theorem find?_name {fields : List (RecordField ρ)} (h : (fields.map RecordField.name).Nodup)
    {field : RecordField ρ} (hfield : field ∈ fields) :
    fields.find? (fun other => other.name == field.name) = some field := by
  induction fields with
  | nil => cases hfield
  | cons other rest ih =>
    rw [List.map_cons, List.nodup_cons] at h
    rcases List.mem_cons.mp hfield with rfl | hrest
    · exact List.find?_cons_of_pos (beq_self_eq_true _)
    · have hne : other.name ≠ field.name := fun heq =>
        h.1 (heq ▸ List.mem_map_of_mem hrest)
      rw [List.find?_cons_of_neg (by simpa using hne), ih h.2 hrest]

/-- The key of a member stands for the field with its name, if there is one. -/
theorem finds_fieldOf (all : List (RecordField ρ)) (setting : Setting) {key : String}
    {field? : Option (RecordField ρ)}
    (h : all.find? (fun field => field.name == key) = field?) :
    Finds field? (fieldOf all setting (.scalar (.ofAtom (.text key)))) := by
  rw [← h]
  exact finds_pure _

theorem member_of_mem {field : RecordField ρ} {all : List (RecordField ρ)}
    (hfind : all.find? (fun other => other.name == field.name) = some field)
    {seen : List String} (hnew : field.name ∉ seen) {setting : Setting} {depth : Nat}
    {value : Json} {update : ρ → ρ} (hread : Finds update (field.read setting depth value.node))
    (record : ρ) :
    Finds (field.name :: seen, update record) (member all setting depth (seen, record)
      (.scalar (.ofAtom (.text field.name)), value.node)) := by
  refine (finds_fieldOf all setting hfind).bind ?_
  have hseen : ¬ seen.contains field.name = true := by rwa [List.contains_iff_mem]
  change Finds _ (if seen.contains field.name = true then _ else _)
  rw [if_neg hseen]
  exact hread.bind (finds_pure _)

theorem member_of_not_mem {key : String} {all : List (RecordField ρ)}
    (h : key ∉ all.map RecordField.name) (setting : Setting) (depth : Nat) (value : Json)
    (state : List String × ρ) :
    Finds state (member all setting depth state
      (.scalar (.ofAtom (.text key)), value.node)) := by
  have hfind : all.find? (fun field => field.name == key) = none :=
    List.find?_eq_none.mpr fun field hfield hname =>
      h (List.mem_map.mpr ⟨field, hfield, beq_iff_eq.mp hname⟩)
  have hskip : Finds () (skip value.node) := by
    rw [skip, if_pos value.intact_node]
    exact finds_pure ()
  exact (finds_fieldOf all setting hfind).bind (hskip.bind (finds_pure state))

/-- The members of a record are taken in up to its end: all required fields have been seen, and
the record is what the fields make of it. -/
theorem finds_slots {all : List (RecordField ρ)} (hnames : (all.map RecordField.name).Nodup)
    (setting : Setting) {depth : Nat} (hbound : depth < bound)
    {members : List (String × Json)} {added : List String}
    (hmembers : Layout.Members (Layout.Writes admits) slots members added)
    (hadded : ∀ key ∈ added, key ∉ all.map RecordField.name) (hproper : Layout.ProperSlots slots)
    (hdepth : ∀ member ∈ members, member.2.depth ≤ depth)
    (hfills : Fills bound fields slots start result) (hsuffix : fields.Sublist all)
    (seen : List String) (hnew : ∀ field ∈ fields, field.name ∉ seen) :
    ∃ after, seen ⊆ after ∧ (∀ field ∈ fields, field.required → field.name ∈ after) ∧
      Finds (after, result)
        ((Json.memberNodes members).foldlM (member all setting depth) (seen, start)) := by
  -- on the members that are left: they are those of the fields that have not come yet
  induction hmembers generalizing fields start seen with
  | nil =>
    cases hfills
    exact ⟨seen, List.Subset.refl _, by simp, finds_pure _⟩
  | @given slot value slots members added hcontent hrest ih =>
    cases hfills with
    | @cons field _ fields _ _ _ update hname hread habsent hfills =>
      obtain ⟨hvalue, hvalues⟩ := List.forall_mem_cons.mp hdepth
      have hfield : field ∈ all := hsuffix.subset (List.mem_cons_self ..)
      have hfound := hread hproper.1 admits value hcontent setting depth hvalue hbound
      have hstep := member_of_mem (find?_name hnames hfield) (hnew field (List.mem_cons_self ..))
        hfound start
      obtain ⟨hfirst, -⟩ := List.nodup_cons.mp ((hsuffix.map RecordField.name).nodup hnames)
      obtain ⟨after, hafter, hrequired, hfinds⟩ := ih hadded hproper.2 hvalues hfills
        ((List.sublist_cons_self ..).trans hsuffix) (field.name :: seen)
        fun other hother hseen => by
          rcases List.mem_cons.mp hseen with heq | hseen
          · exact hfirst (heq ▸ List.mem_map_of_mem hother)
          · exact hnew other (List.mem_cons_of_mem _ hother) hseen
      refine ⟨after, List.Subset.trans (List.subset_cons_self ..) hafter,
        List.forall_mem_cons.mpr ⟨fun _ => hafter (List.mem_cons_self ..), hrequired⟩, ?_⟩
      rw [Json.memberNodes, List.foldlM_cons, ← hname]
      exact hstep.bind hfinds
  | @omitted slot slots members added habsent hrest ih =>
    cases hfills with
    | @cons field _ fields _ _ _ update hname hread hleft hfills =>
      obtain ⟨hoptional, hstart⟩ := hleft habsent
      rw [hstart] at hfills
      obtain ⟨after, hafter, hrequired, hfinds⟩ := ih hadded hproper.2 hdepth hfills
        ((List.sublist_cons_self ..).trans hsuffix) seen
        fun other hother => hnew other (List.mem_cons_of_mem _ hother)
      refine ⟨after, hafter, List.forall_mem_cons.mpr ⟨fun h => ?_, hrequired⟩, hfinds⟩
      exact absurd h (by simp [hoptional])
  | @foreign key value slots members added hrest ih =>
    obtain ⟨hkey, hkeys⟩ := List.forall_mem_cons.mp hadded
    obtain ⟨after, hafter, hrequired, hfinds⟩ := ih hkeys hproper
      (List.forall_mem_cons.mp hdepth).2 hfills hsuffix seen hnew
    refine ⟨after, hafter, hrequired, ?_⟩
    rw [Json.memberNodes, List.foldlM_cons]
    exact (member_of_not_mem hkey setting depth value (seen, start)).bind hfinds

theorem reads_record {blank : ρ} (hnames : (fields.map RecordField.name).Nodup)
    (h : Fills bound fields slots blank result) :
    Reads (bound + 1) (record fields blank) (.record slots) result := by
  intro hproper admits json hwrites setting depth hdepth hbound
  obtain ⟨members, added, hmembers, hadded, rfl⟩ := hwrites.exists_of_record
  cases depth with
  | zero => exact absurd hdepth (Nat.not_succ_le_zero _)
  | succ depth =>
    obtain ⟨after, -, hrequired, hfinds⟩ := finds_slots hnames setting
      (Nat.lt_of_succ_lt_succ hbound) hmembers
      (fun key hkey => h.names_eq ▸ (hadded key hkey).2) hproper
      (Json.depthMembers_le_iff.mp (Nat.le_of_succ_le_succ hdepth)) h (List.Sublist.refl _)
      [] (by simp)
    -- no required field is missing, since only members with a default may be left out
    have hcomplete : Finds result (record.complete fields after result) := by
      have hnone : fields.find? (fun field => field.required && !after.contains field.name) =
          none := by
        refine List.find?_eq_none.mpr fun field hfield hlacks => ?_
        obtain ⟨hneeded, habsent⟩ := Bool.and_eq_true_iff.mp hlacks
        rw [List.contains_iff_mem.mpr (hrequired field hfield hneeded)] at habsent
        exact Bool.false_ne_true habsent
      rw [record.complete, hnone]
      exact finds_pure result
    refine (follow_node setting _).bind ((enter_succ depth).bind ?_)
    exact hfinds.bind ((finds_pure ()).bind hcomplete)

end Records

end Decoder

end ProviderGen
