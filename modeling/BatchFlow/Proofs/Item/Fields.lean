import BatchFlow.Shape

/-! The fields of an item stay in order: the names rise whatever is set, so each of them occurs
once, and what a record was written with under a name can be read back under that name. -/

namespace BatchFlow

namespace Fields

variable {fields : Fields} {name : String} {value : Item} {pairs : List (String × Item)}

/-- The names rise from field to field. -/
def Ordered (fields : Fields) : Prop := fields.Pairwise (·.1 < ·.1)

/-- Setting a value adds no other field. -/
theorem mem_insert {field : String × Item} (member : field ∈ fields.insert name value) :
    field = (name, value) ∨ field ∈ fields := by
  induction fields with
  -- It is set where there was nothing.
  | nil => exact .inl (List.mem_singleton.mp member)
  | cons first rest ih =>
    obtain ⟨key, old⟩ := first
    simp only [insert] at member
    split at member
    · -- It takes the place of the value that the first field had.
      exact (List.mem_cons.mp member).imp_right (.tail _)
    · split at member
      · -- It comes before the first field.
        exact List.mem_cons.mp member
      · rcases List.mem_cons.mp member with rfl | further
        · exact .inr List.mem_cons_self
        · exact (ih further).imp_right (.tail _)

/-- Fields stay in order when a value is set. -/
theorem Ordered.insert (ordered : fields.Ordered) : (fields.insert name value).Ordered := by
  induction fields with
  | nil => exact List.pairwise_singleton _ _
  | cons first rest ih =>
    obtain ⟨key, old⟩ := first
    obtain ⟨below, others⟩ := List.pairwise_cons.mp ordered
    simp only [Fields.insert]
    split
    · rename_i same
      exact List.pairwise_cons.mpr ⟨same ▸ below, others⟩
    · rename_i other
      split
      · -- The new field comes first, below the one that was first.
        rename_i before
        refine List.pairwise_cons.mpr ⟨fun field member => ?_, ordered⟩
        rcases List.mem_cons.mp member with rfl | further
        · exact before
        · exact String.lt_trans before (below field further)
      · -- It comes further back, and so the first one stays below all of them.
        rename_i behind
        have after : key < name :=
          String.not_le.mp fun least => other (String.le_antisymm (String.not_lt.mp behind) least)
        refine List.pairwise_cons.mpr ⟨fun field member => ?_, ih others⟩
        rcases mem_insert member with rfl | further
        · exact after
        · exact below field further

/-- They stay in order while any number of values is set, one after the other. -/
theorem Ordered.merge (ordered : fields.Ordered) (more : List (String × Item)) :
    (fields.merge more).Ordered := by
  -- What has been set already is in order too, so the induction is over any fields in order.
  induction more generalizing fields with
  | nil => exact ordered
  | cons pair rest ih => exact ih ordered.insert

/-- A list of pairs is put in order. -/
theorem ordered_ofList (pairs : List (String × Item)) : (ofList pairs).Ordered :=
  Ordered.merge List.Pairwise.nil pairs

/-- What is under a name stays there while values are set under others. -/
theorem get?_merge_of_not_mem (absent : ∀ pair ∈ pairs, pair.1 ≠ name) :
    (fields.merge pairs).get? name = fields.get? name := by
  -- The setting of another name is undone first, by induction, and then looked past.
  induction pairs generalizing fields with
  | nil => rfl
  | cons pair rest ih =>
    obtain ⟨other, others⟩ := List.forall_mem_cons.mp absent
    exact (ih others).trans (by simp [other])

/-- Of values that are set under different names, each is found under its own. -/
theorem get?_merge_of_mem (distinct : pairs.Pairwise (·.1 ≠ ·.1)) (member : (name, value) ∈ pairs) :
    (fields.merge pairs).get? name = some value := by
  induction pairs generalizing fields with
  | nil => cases member
  | cons pair rest ih =>
    obtain ⟨others, apart⟩ := List.pairwise_cons.mp distinct
    rcases List.mem_cons.mp member with rfl | further
    · -- Nothing is set under its name any more.
      have kept : ((fields.insert name value).merge rest).get? name =
          (fields.insert name value).get? name :=
        get?_merge_of_not_mem fun pair later => (others pair later).symm
      exact kept.trans (by simp)
    · exact ih apart further

end Fields

namespace Shape

variable {fields : Fields}

/-- Where the fields of a shape have names, a field is found by its name, and its position does not
matter. -/
theorem find?_named (position : Nat) (name : String) :
    (named fields).find? position name = fields.get? name := by
  unfold find?
  induction fields with
  | nil => rfl
  | cons field rest ih =>
    obtain ⟨key, value⟩ := field
    -- The first field of the name is the one that both of them find.
    by_cases same : key = name
    · simp [Fields.get?, same]
    · simpa [Fields.get?, same] using ih

/-- Where the names rise, none of them is given twice. -/
theorem fits_named (ordered : fields.Ordered) (format : Format Item) (names : List String) :
    (named fields).fits format names = true := by
  refine List.all_eq_true.mpr fun name _ => decide_eq_true ?_
  -- The fields that go by the name are in order among themselves.
  have rising := ordered.filter (·.1 == name)
  have same : ∀ field ∈ fields.filter (·.1 == name), field.1 = name := by simp
  generalize fields.filter (·.1 == name) = found at rising same ⊢
  match found with
  | [] | [_] => simp
  | first :: second :: rest =>
    -- Two fields of one name would have to be below each other.
    have below : first.1 < second.1 := (List.pairwise_cons.mp rising).1 second (by simp)
    rw [same first (by simp), same second (by simp)] at below
    exact absurd below (String.lt_irrefl name)

end Shape

namespace Item

variable {α : Type} {pairs : List (String × Item)} {name : String} {value : Item}

/-- A record can be read by its names. -/
theorem record?_record (names : List String) (read : Shape Item → Option α) :
    format.record? names read (record pairs) = read (.named (Fields.ofList pairs)) := by
  -- A record fits any names, and so it is read.
  show (if (Shape.named (Fields.ofList pairs)).fits format names then _ else _) = _
  rw [if_pos (Shape.fits_named (Fields.ordered_ofList pairs) format names)]

/-- A field that must be given is read from the value that the record was written with. -/
theorem required_ofList (distinct : pairs.Pairwise (·.1 ≠ ·.1)) (member : (name, value) ∈ pairs)
    (position : Nat) (read : Item → Option α) :
    (Shape.named (Fields.ofList pairs)).required position name read = read value := by
  have found : (Fields.ofList pairs).get? name = some value :=
    Fields.get?_merge_of_mem distinct member
  rw [Shape.required, Shape.find?_named, found, Option.bind_some]

/-- So is a field that may be missing. -/
theorem defaulted_ofList (distinct : pairs.Pairwise (·.1 ≠ ·.1)) (member : (name, value) ∈ pairs)
    (position : Nat) (default : α) (read : Item → Option α) :
    (Shape.named (Fields.ofList pairs)).defaulted position name default read = read value := by
  have found : (Fields.ofList pairs).get? name = some value :=
    Fields.get?_merge_of_mem distinct member
  rw [Shape.defaulted, Shape.find?_named, found]

end Item

end BatchFlow
