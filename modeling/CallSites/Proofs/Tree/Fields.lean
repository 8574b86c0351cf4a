import CallSites.Proofs.Tree.WellFormed

/-! # Fields of a node

The slots of a node stand in the order of its fields, and an attribute is looked up by the name of a
field. In a node with one slot for each field both ways lead to the same values, so the children of
a node can be listed with the fields that hold them.
-/

namespace CallSites.Tree

theorem Kind.nodup_fields (kind : Kind) : kind.fields.Nodup := by
  cases kind <;> decide +kernel

/-- Another name for a field is never the name of a field itself. -/
theorem Kind.fieldNamed_of_mem {kind : Kind} {name : String} (member : name ∈ kind.fields) :
    kind.fieldNamed name = name := by
  unfold fieldNamed
  split
  · exact absurd member (by decide)
  · exact absurd member (by decide)
  · exact absurd member (by decide)
  · rfl

namespace Value

private theorem slot?_cons_of_ne {name field : String} (different : field ≠ name)
    (names : List String) (slot : Option Value) (slots : List (Option Value)) :
    slot? name (field :: names) (slot :: slots) = slot? name names slots := by
  rw [slot?, if_neg different]

/-- Asked for all the different names in turn, slots are given back in their order. -/
theorem map_slot? {names : List String} {slots : List (Option Value)} (unique : names.Nodup)
    (shaped : slots.length = names.length) :
    (names.map fun name => slot? name names slots) = slots := by
  induction names generalizing slots with
  | nil => rw [List.map_nil, List.eq_nil_of_length_eq_zero shaped]
  | cons field names ih =>
    cases slots with
    | nil => simp at shaped
    | cons slot slots =>
      obtain ⟨fresh, unique⟩ := List.nodup_cons.mp unique
      have rest : (names.map fun name => slot? name (field :: names) (slot :: slots)) =
          names.map fun name => slot? name names slots := by
        apply List.map_congr_left
        intro name member
        have different : field ≠ name := fun same => fresh (same.symm ▸ member)
        exact slot?_cons_of_ne different names slot slots
      rw [List.map_cons, rest, ih unique (Nat.succ.inj shaped), slot?, if_pos rfl]

/-- The attributes named by the fields of a node are its slots. -/
theorem map_attr?_fields {tag : Nat} {kind : Kind} {slots : List (Option Value)}
    {marks : List (String × Value)} (shaped : (node tag kind slots marks).hasSlotPerField = true) :
    kind.fields.map (node tag kind slots marks).attr? = slots := by
  have byName : kind.fields.map (node tag kind slots marks).attr? =
      kind.fields.map fun name => slot? name kind.fields slots := by
    apply List.map_congr_left
    intro name member
    rw [attr?, Kind.fieldNamed_of_mem member, if_pos member]
  rw [byName]
  exact map_slot? kind.nodup_fields (by simpa [hasSlotPerField] using shaped)

theorem map_snd_named (field : String) (held : List Value) :
    (held.map (field, ·)).map Prod.snd = held := by
  rw [List.map_map]
  exact List.map_id held

/-- The children of a node with the names of the fields that hold them. -/
def fieldChildren : Value → List (String × Value)
  | node tag kind slots marks => kind.fields.flatMap fun field =>
    (slotChildren ((node tag kind slots marks).attr? field)).map (field, ·)
  | _ => []

/-- The children of a node stand in the order of its fields. -/
theorem map_snd_fieldChildren {v : Value} (shaped : v.hasSlotPerField = true) :
    v.fieldChildren.map Prod.snd = v.children := by
  cases v with
  | node tag kind slots marks =>
    rw [fieldChildren, List.map_flatMap]
    simp only [map_snd_named]
    rw [← List.flatMap_map, map_attr?_fields shaped, children]
  | _ => rfl

theorem mem_children_of_fieldChildren {v child : Value} {field : String}
    (member : (field, child) ∈ v.fieldChildren) : child ∈ v.children := by
  cases v with
  | node tag kind slots marks =>
    obtain ⟨name, isField, held⟩ := List.mem_flatMap.mp member
    obtain ⟨child', inside, same⟩ := List.mem_map.mp held
    cases same
    have known := Kind.fieldNamed_of_mem isField
    cases found : (node tag kind slots marks).attr? field with
    | none =>
      rw [found] at inside
      simp [slotChildren] at inside
    | some holder =>
      rw [found] at inside
      exact mem_children_of_attr? (by simp [isKind, kind?]) (known.symm ▸ isField) found inside
  | _ => simp [fieldChildren] at member

end Value

end CallSites.Tree
