/-
Reading a JSON value.

The node of a JSON value has no alias, no break and no tag, so what a decoder does with it is
settled by the value: a step *finds* what it ends with, whatever has been followed before. Arrays
are read item by item and objects member by member, in order; a value that is read without a type
is found as it stands, if the members of its objects are in order.
-/
import ProviderGen.Decode.Decoder
import ProviderGen.Proofs.Layouts
import ProviderGen.Proofs.Results

set_option autoImplicit false

namespace ProviderGen

variable {α β ρ : Type}

/-! ## Steps -/

namespace Step

/-- The step ends with a value and follows no alias. -/
def Finds (value : α) (step : Step α) : Prop := ∀ followed, step followed = .ok (value, followed)

theorem finds_pure (value : α) : Finds value (pure value) := fun _ => rfl

theorem Finds.bind {value : α} {step : Step α} (h : Finds value step) {next : α → Step β}
    {result : β} (hnext : Finds result (next value)) : Finds result (step >>= next) := by
  intro followed
  change (step followed >>= fun outcome => next outcome.1 outcome.2) = .ok (result, followed)
  rw [h followed]
  exact hnext followed

theorem Finds.map {value : α} {step : Step α} (h : Finds value step) (f : α → β) :
    Finds (f value) (f <$> step) := by
  rw [map_eq_pure_bind]
  exact h.bind (finds_pure (f value))

theorem finds_mapM {f : α → Step β} {items : List α} {values : List β}
    (h : List.Forall₂ (fun item value => Finds value (f item)) items values) :
    Finds values (items.mapM f) := by
  induction h with
  | nil =>
    rw [List.mapM_nil]
    exact finds_pure []
  | cons hfirst _ ih =>
    rw [List.mapM_cons]
    exact hfirst.bind (ih.bind (finds_pure _))

theorem finds_foldlM {f : ρ → α → Step ρ} {g : ρ → β → ρ} {items : List α} {values : List β}
    (h : List.Forall₂ (fun item value => ∀ state, Finds (g state value) (f state item)) items values)
    (start : ρ) : Finds (values.foldl g start) (items.foldlM f start) := by
  induction h generalizing start with
  | nil => exact finds_pure start
  | cons hfirst _ ih =>
    rw [List.foldlM_cons, List.foldl_cons]
    exact (hfirst start).bind (ih _)

/-- A document whose root is found, with nothing after it, has the value that is found. -/
theorem Finds.decode {reading : Reading} {decode : Decoder α} {value : α}
    (h : Finds value (decode reading.setting reading.depth reading.root)) (hclean : reading.clean) :
    reading.decode decode = .ok value := by
  unfold Reading.decode
  rw [StateT.run, h 0]
  exact if_pos hclean

end Step

/-! ## Nodes of JSON values -/

namespace Json

theorem nodes_eq (items : List Json) : nodes items = items.map node := by
  induction items with
  | nil => rfl
  | cons item rest ih => rw [nodes, ih, List.map_cons]

theorem memberNodes_eq (members : List (String × Json)) :
    memberNodes members =
      members.map fun member => (.scalar (.ofAtom (.text member.1)), member.2.node) := by
  induction members with
  | nil => rfl
  | cons member rest ih => rw [memberNodes, ih, List.map_cons]

theorem depthItems_le_iff {items : List Json} {depth : Nat} :
    depthItems items ≤ depth ↔ ∀ item ∈ items, item.depth ≤ depth := by
  induction items with
  | nil => simp [depthItems]
  | cons item rest ih => rw [depthItems, Nat.max_le, ih, List.forall_mem_cons]

theorem depthMembers_le_iff {members : List (String × Json)} {depth : Nat} :
    depthMembers members ≤ depth ↔ ∀ member ∈ members, member.2.depth ≤ depth := by
  induction members with
  | nil => simp [depthMembers]
  | cons member rest ih => rw [depthMembers, Nat.max_le, ih, List.forall_mem_cons]

theorem orderedItems_iff {items : List Json} :
    OrderedItems items ↔ ∀ item ∈ items, item.Ordered := by
  induction items with
  | nil => simp [OrderedItems]
  | cons item rest ih => rw [OrderedItems, ih, List.forall_mem_cons]

theorem orderedMembers_iff {members : List (String × Json)} :
    OrderedMembers members ↔ ∀ member ∈ members, member.2.Ordered := by
  induction members with
  | nil => simp [OrderedMembers]
  | cons member rest ih => rw [OrderedMembers, ih, List.forall_mem_cons]

mutual

/-- The node of a JSON value has no break. -/
theorem intact_node : ∀ value : Json, value.node.intact = true
  | null => rfl
  | bool _ => rfl
  | number _ => rfl
  | string _ => rfl
  | array items => by
    rw [node, Node.intact, intact_nodes items]
    rfl
  | object members => by
    rw [node, Node.intact, intact_memberNodes members]
    rfl

theorem intact_nodes : ∀ items : List Json, Node.intactItems (nodes items) = true
  | [] => rfl
  | item :: rest => by
    rw [nodes, Node.intactItems, item.intact_node, intact_nodes rest]
    rfl

theorem intact_memberNodes :
    ∀ members : List (String × Json), Node.intactMembers (memberNodes members) = true
  | [] => rfl
  | (_, value) :: rest => by
    rw [memberNodes, Node.intactMembers, value.intact_node, intact_memberNodes rest]
    rfl

end

end Json

/-- A value under a new key goes to the end. -/
theorem Table.put_of_not_mem {key : String} (value : α) {table : Table α} (h : key ∉ table.keys) :
    table.put key value = table ++ [(key, value)] := by
  induction table with
  | nil => rfl
  | cons entry rest ih =>
    obtain ⟨hentry, hrest⟩ : key ≠ entry.1 ∧ key ∉ keys rest := by
      rwa [keys, List.map_cons, List.mem_cons, not_or] at h
    rw [put, if_neg (Ne.symm hentry), ih hrest, List.cons_append]

/-- Entries under distinct keys make the table of them, in order. -/
theorem Table.foldl_put (front : Table α) {entries : Table α} (h : Table.Distinct (front ++ entries)) :
    entries.foldl (fun table entry => table.put entry.1 entry.2) front = front ++ entries := by
  induction entries generalizing front with
  | nil => rw [List.foldl_nil, List.append_nil]
  | cons entry rest ih =>
    have hsplit : front ++ entry :: rest = front ++ [entry] ++ rest := by simp
    have hfront : entry.1 ∉ Table.keys front := by
      rw [Distinct, keys, List.map_append, List.nodup_append] at h
      exact fun hmem => h.2.2 entry.1 hmem entry.1 (List.mem_cons_self ..) rfl
    rw [List.foldl_cons, put_of_not_mem entry.2 hfront, hsplit, ih _ (hsplit ▸ h)]

namespace Decoder

open Step

theorem follow_node (setting : Setting) (value : Json) :
    Finds value.node (follow setting value.node) := by
  cases value <;> exact finds_pure _

theorem enter_succ (depth : Nat) : Finds depth (enter (depth + 1)) := finds_pure depth

theorem text_string (setting : Setting) (depth : Nat) (s : String) :
    Finds s (text setting depth (Json.node (.string s))) := finds_pure s

/-- The members of an object are taken in one after the other. -/
theorem finds_members (setting : Setting) (depth : Nat) {decode : Node → Step β}
    (put : String → β → ρ → ρ) {members : List (String × Json)} {entries : List (String × β)}
    (h : List.Forall₂ (fun member entry => member.1 = entry.1 ∧
      Finds entry.2 (decode member.2.node)) members entries) (start : ρ) :
    Finds (entries.foldl (fun state entry => put entry.1 entry.2 state) start)
      ((Json.memberNodes members).foldlM (fun state (key, value) => do
        let key ← text setting depth key
        let value ← decode value
        pure (put key value state)) start) := by
  rw [Json.memberNodes_eq]
  refine finds_foldlM (List.forall₂_map_left_iff.mpr (h.imp ?_)) start
  rintro member entry ⟨hkey, hvalue⟩ state
  rw [← hkey]
  exact (text_string setting depth member.1).bind (hvalue.bind (finds_pure _))

/-! ## Values without a type -/

/-- Buffering leaves the node of a JSON value as it is. -/
theorem buffer_node (setting : Setting) {depth : Nat} {value : Json} (h : value.depth ≤ depth) :
    Finds value.node (buffer setting depth value.node) := by
  -- on the depth: every array or object takes up one
  induction depth generalizing value with
  | zero =>
    rw [buffer.eq_def]
    refine (follow_node setting value).bind ?_
    cases value with
    | array items => exact absurd h (Nat.not_succ_le_zero _)
    | object members => exact absurd h (Nat.not_succ_le_zero _)
    | _ => exact finds_pure _
  | succ depth ih =>
    rw [buffer.eq_def]
    refine (follow_node setting value).bind ?_
    cases value with
    | array items =>
      have hitems := Json.depthItems_le_iff.mp (Nat.le_of_succ_le_succ h)
      have hnodes : Finds (Json.nodes items)
          ((Json.nodes items).mapM (buffer setting depth)) := by
        refine finds_mapM (List.forall₂_same.mpr fun item hitem => ?_)
        rw [Json.nodes_eq, List.mem_map] at hitem
        obtain ⟨value, hvalue, rfl⟩ := hitem
        exact ih (hitems value hvalue)
      exact hnodes.bind ((finds_pure ()).bind (finds_pure _))
    | object members =>
      have hmembers := Json.depthMembers_le_iff.mp (Nat.le_of_succ_le_succ h)
      have hnodes : Finds (Json.memberNodes members)
          ((Json.memberNodes members).mapM fun (key, value) => do
            let key ← buffer setting depth key
            let value ← buffer setting depth value
            pure (key, value)) := by
        refine finds_mapM (List.forall₂_same.mpr fun entry hentry => ?_)
        rw [Json.memberNodes_eq, List.mem_map] at hentry
        obtain ⟨member, hmember, rfl⟩ := hentry
        have hkey : Finds (Json.node (.string member.1))
            (buffer setting depth (Json.node (.string member.1))) := ih (Nat.zero_le _)
        exact hkey.bind ((ih (hmembers member hmember)).bind (finds_pure _))
      exact hnodes.bind ((finds_pure ()).bind (finds_pure _))
    | _ => exact finds_pure _

/-- A member whose key comes last goes to the end. -/
theorem insertSorted_of_lt {key : String} (value : Json) {front : List (String × Json)}
    (h : ∀ member ∈ front, member.1 < key) :
    insertSorted key value front = front ++ [(key, value)] := by
  induction front with
  | nil => rfl
  | cons member rest ih =>
    obtain ⟨hmember, hrest⟩ := List.forall_mem_cons.mp h
    rw [insertSorted, if_neg hmember.ne', if_neg hmember.not_gt, ih hrest, List.cons_append]

/-- Members that are in order are left so. -/
theorem foldl_insertSorted (front : List (String × Json)) {members : List (String × Json)}
    (h : ((front ++ members).map Prod.fst).Pairwise (· < ·)) :
    members.foldl (fun sorted member => insertSorted member.1 member.2 sorted) front =
      front ++ members := by
  induction members generalizing front with
  | nil => rw [List.foldl_nil, List.append_nil]
  | cons member rest ih =>
    have hfront : ∀ earlier ∈ front, earlier.1 < member.1 := by
      rw [List.pairwise_map, List.pairwise_append] at h
      exact fun earlier hearlier => h.2.2 earlier hearlier member (List.mem_cons_self ..)
    have hsplit : front ++ member :: rest = front ++ [member] ++ rest := by simp
    rw [List.foldl_cons, insertSorted_of_lt member.2 hfront, hsplit, ih _ (hsplit ▸ h)]

/-- A value in order is read as it is. -/
theorem literal_node (setting : Setting) {depth : Nat} {value : Json} (hordered : value.Ordered)
    (h : value.depth ≤ depth) : Finds value (literal setting depth value.node) := by
  -- on the depth again; it is the order of the keys that lets the sorted members be the members
  induction depth generalizing value with
  | zero =>
    rw [literal.eq_def]
    refine (follow_node setting value).bind ?_
    cases value with
    | array items => exact absurd h (Nat.not_succ_le_zero _)
    | object members => exact absurd h (Nat.not_succ_le_zero _)
    | _ => exact finds_pure _
  | succ depth ih =>
    rw [literal.eq_def]
    refine (follow_node setting value).bind ?_
    cases value with
    | array items =>
      have hdepth := Json.depthItems_le_iff.mp (Nat.le_of_succ_le_succ h)
      have hitems := Json.orderedItems_iff.mp hordered
      have hvalues : Finds items ((Json.nodes items).mapM (literal setting depth)) := by
        rw [Json.nodes_eq]
        refine finds_mapM (List.forall₂_map_left_iff.mpr (List.forall₂_same.mpr ?_))
        exact fun item hitem => ih (hitems item hitem) (hdepth item hitem)
      exact hvalues.bind ((finds_pure ()).bind (finds_pure _))
    | object members =>
      have hdepth := Json.depthMembers_le_iff.mp (Nat.le_of_succ_le_succ h)
      obtain ⟨hkeys, hmembers⟩ := hordered
      rw [Json.orderedMembers_iff] at hmembers
      have hfold := foldl_insertSorted [] hkeys
      have hread := finds_members setting depth insertSorted
        (List.forall₂_same.mpr fun member hmember =>
          ⟨rfl, ih (hmembers member hmember) (hdepth member hmember)⟩) []
      rw [hfold] at hread
      exact hread.bind ((finds_pure ()).bind (finds_pure _))
    | _ => exact finds_pure _

end Decoder

end ProviderGen
