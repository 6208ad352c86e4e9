import BatchFlow.Proofs.Kinds.Declarations

/-! Specializing a kind is an order with the root on top, which depends on what was declared and not
on when. There is one way up from a kind to the root, registered or not, and the ancestors of a kind
are that way. -/

namespace BatchFlow

namespace Kinds

/-- A path from a kind to the root: each kind is followed by its parent, and none occurs twice. -/
structure WayUp (kinds : Kinds) (kind : Kind) (path : List Kind) : Prop where
  start : path.head? = some kind
  linked : path.IsChain kinds.Above
  distinct : path.Nodup
  last : path.getLast? = some .root

/-- Being another kind or specializing it is an order with the root on top, and the ancestors of a
kind are the way up from it. -/
structure Ordered (kinds : Kinds) : Prop where
  ways : ∀ kind, kinds.WayUp kind (kinds.ancestors kind)
  reflexive : ∀ kind, kinds.isA kind kind = true
  transitive : ∀ lower middle upper, kinds.isA lower middle = true →
    kinds.isA middle upper = true → kinds.isA lower upper = true
  antisymmetric : ∀ kind other, kinds.isA kind other = true → kinds.isA other kind = true →
    kind = other
  rooted : ∀ kind, kinds.isA kind .root = true

section Ways

variable {kinds : Kinds} {kind other : Kind} {path way : List Kind}

/-- From any kind on a way up, the rest of it is the way up from there. -/
theorem WayUp.drop (before : List Kind) (up : kinds.WayUp kind (before ++ other :: way)) :
    kinds.WayUp other (other :: way) where
  start := rfl
  linked := up.linked.right_of_append
  distinct := up.distinct.sublist (List.sublist_append_right _ _)
  last := by simpa [List.getLast?_append] using up.last

/-- A way up that begins at the root ends there. -/
theorem WayUp.eq_nil_of_root (top : kinds.parent? .root = none)
    (up : kinds.WayUp kind (.root :: path)) : path = [] := by
  -- There is no link from the root.
  cases path with
  | nil => rfl
  | cons next path =>
    have beyond := (List.isChain_cons_cons.mp up.linked).1
    rw [Above, top] at beyond
    cases beyond

/-- There is one way up from each kind. -/
theorem WayUp.unique (top : kinds.parent? .root = none) (up : kinds.WayUp kind path)
    (also : kinds.WayUp kind way) : path = way := by
  -- Both ways go on to the one kind above, until one of them has come to the root.
  induction path generalizing kind way with
  | nil => cases up.start
  | cons first path ih =>
    cases way with
    | nil => cases also.start
    | cons start way =>
      cases up.start
      cases also.start
      cases path with
      -- The first way has come to the root, where the other one ends as well.
      | nil =>
        cases up.last
        rw [also.eq_nil_of_root top]
      | cons next path =>
        cases way with
        -- Likewise with the two ways exchanged.
        | nil =>
          cases also.last
          cases up.eq_nil_of_root top
        | cons second way =>
          -- Both go on, and the kind above is the same.
          have above := (List.isChain_cons_cons.mp up.linked).1
          have higher := (List.isChain_cons_cons.mp also.linked).1
          obtain rfl : next = second := Option.some.inj (above.symm.trans higher)
          exact congrArg (first :: ·)
            (ih (.drop [first] up) (.drop [first] also))

/-- However many steps it is allowed, a climb goes on along a path from what it has met. -/
theorem climb_followed {met : List Kind} {current : Kind} (steps : Nat)
    (followed : Followed kinds.Above met current) :
    ∃ rest highest, kinds.climb met current steps = met ++ rest ∧
      Followed kinds.Above (met ++ rest) highest := by
  induction steps generalizing met current with
  | zero => exact ⟨[], current, by simp [climb], by simpa using followed⟩
  | succ steps ih =>
    simp only [climb]
    -- The climb goes on if there is something above, and it was not met before.
    split
    · rename_i parent above
      split
      · exact ⟨[], current, by simp, by simpa using followed⟩
      · rename_i unmet
        obtain ⟨rest, highest, same, further⟩ := ih (followed.onward above unmet)
        exact ⟨parent :: rest, highest, by simpa using same, by simpa using further⟩
    · exact ⟨[], current, by simp, by simpa using followed⟩

/-- The ancestors of a kind are the way up from it: the climb is never cut short. -/
theorem Grounded.wayUp_ancestors (grounded : kinds.Grounded) (kind : Kind) :
    kinds.WayUp kind (kinds.ancestors kind) := by
  have top := grounded.root_mem_ancestors kind
  obtain ⟨rest, highest, same, followed⟩ :=
    climb_followed (kinds.parents.length + 1) (Followed.start kind : Followed kinds.Above _ _)
  rw [ancestors, same] at top ⊢
  -- The path has met the root, and nothing comes after the root.
  obtain rfl := grounded.eq_root_of_met followed top
  exact ⟨rfl, followed.linked, followed.distinct, followed.last⟩

/-- The ancestors of an ancestor are the end of the way up. -/
theorem Grounded.ancestors_suffix (grounded : kinds.Grounded)
    (member : other ∈ kinds.ancestors kind) :
    kinds.ancestors other <:+ kinds.ancestors kind := by
  have up := grounded.wayUp_ancestors kind
  -- There is one way up from the ancestor only, and the rest of the way is one.
  obtain ⟨before, after, split⟩ := List.append_of_mem member
  rw [split] at up ⊢
  have top := grounded.parent?_eq_none_iff.mpr rfl
  rw [(grounded.wayUp_ancestors other).unique top (up.drop before)]
  exact List.suffix_append before _

/-- Kinds that are grounded in the root are ordered. -/
theorem Grounded.ordered (grounded : kinds.Grounded) : kinds.Ordered where
  ways := grounded.wayUp_ancestors
  reflexive kind := decide_eq_true (List.mem_of_head? (grounded.wayUp_ancestors kind).start)
  transitive lower middle upper below above :=
    decide_eq_true ((grounded.ancestors_suffix (of_decide_eq_true below)).subset
      (of_decide_eq_true above))
  antisymmetric kind other below above := by
    -- Each of the two ways up is the end of the other one.
    have shorter := grounded.ancestors_suffix (of_decide_eq_true below)
    have longer := grounded.ancestors_suffix (of_decide_eq_true above)
    have same := shorter.eq_of_length_le longer.length_le
    have start := (grounded.wayUp_ancestors other).start
    rw [same, (grounded.wayUp_ancestors kind).start] at start
    exact Option.some.inj start
  rooted kind := decide_eq_true (grounded.root_mem_ancestors kind)

end Ways

section Rearranged

variable {declarations others : List Declaration}

/-- Nothing is wrong with declarations that are only given in another order. -/
theorem WellFormed.rearranged (sound : WellFormed declarations) (perm : declarations.Perm others) :
    WellFormed others where
  -- Each condition is about the declarations as a whole, wherever they stand.
  distinct := (perm.map _).nodup_iff.mp sound.distinct
  fresh declaration member := sound.fresh declaration (perm.mem_iff.mpr member)
  parented declaration member :=
    ((perm.map _).append_left _).mem_iff.mp (sound.parented declaration (perm.mem_iff.mpr member))
  acyclic cycle circular :=
    sound.acyclic cycle (circular.imp_of_mem fun _ _ _ _ declared => perm.mem_iff.mpr declared)

/-- A kind is found with the same parent, wherever its declaration stands. -/
theorem WellFormed.parent?_rearranged (sound : WellFormed declarations)
    (perm : declarations.Perm others) (kind : Kind) :
    (table others).parent? kind = (table declarations).parent? kind := by
  have distinct : ∀ {listed : List Declaration}, WellFormed listed → (table listed).all.Nodup := by
    intro listed sound
    rw [all_table, ← accepted_eq_self (wellFormed_iff.mp sound).1]
    exact nodup_known_accepted
  -- No kind has two entries, so that their order does not matter.
  have same : (table others).lookup? kind = (table declarations).lookup? kind := by
    refine Option.ext fun entry => ?_
    rw [lookup?_eq_some_iff (distinct (sound.rearranged perm)),
      lookup?_eq_some_iff (distinct sound)]
    exact ((perm.map _).append_left _).mem_iff.symm
  rw [parent?, same, parent?]

/-- Kinds that could be declared form an order with the root on top: the ancestors of a kind,
registered or not, are the one way up from it to the root. The same declarations in another order
could be made as well, and give each kind the same ancestors. -/
theorem ofDeclarations_ordered {kinds : Kinds}
    (declared : ofDeclarations declarations = .ok kinds) :
    kinds.Ordered ∧ ∀ others, declarations.Perm others →
      ∃ rearranged, ofDeclarations others = .ok rearranged ∧
        ∀ kind, rearranged.ancestors kind = kinds.ancestors kind ∧
          ∀ ancestor, rearranged.isA kind ancestor = kinds.isA kind ancestor := by
  have grounded := grounded_of_declarations declared
  refine ⟨grounded.ordered, fun others perm => ?_⟩
  obtain ⟨sound, rfl⟩ := ofDeclarations_eq_ok_iff.mp declared
  have redeclared := ofDeclarations_eq_ok_iff.mpr ⟨sound.rearranged perm, rfl⟩
  refine ⟨table others, redeclared, fun kind => ?_⟩
  -- Parents are the same, so each of the two climbs is a way up in the other hierarchy.
  have same : (table others).Above = (table declarations).Above := by
    funext kind parent
    rw [Above, sound.parent?_rearranged perm, Above]
  have way := (grounded_of_declarations redeclared).wayUp_ancestors kind
  have agree : (table others).ancestors kind = (table declarations).ancestors kind :=
    WayUp.unique (grounded.parent?_eq_none_iff.mpr rfl)
      ⟨way.start, same ▸ way.linked, way.distinct, way.last⟩ (grounded.wayUp_ancestors kind)
  exact ⟨agree, fun ancestor => by rw [isA, agree, isA]⟩

/-- A chain of three kinds, declared from its lower end. -/
def columnFirst : List Declaration :=
  [⟨⟨"column"⟩, ⟨"table"⟩⟩, ⟨⟨"table"⟩, ⟨"schema"⟩⟩, ⟨⟨"schema"⟩, .dataFormat⟩]

/-- The chain leads up to the root from either end it is declared from, and so does a kind that was
never declared. -/
theorem ofDeclarations_ordered_chain :
    ∃ kinds, ofDeclarations columnFirst = .ok kinds ∧ kinds.Ordered ∧
      kinds.ancestors ⟨"column"⟩ =
        [⟨"column"⟩, ⟨"table"⟩, ⟨"schema"⟩, .dataFormat, .processing, .root] ∧
      kinds.ancestors ⟨"unheard_of"⟩ = [⟨"unheard_of"⟩, .root] ∧
      ∃ rearranged, ofDeclarations columnFirst.reverse = .ok rearranged ∧
        rearranged.ancestors ⟨"column"⟩ = kinds.ancestors ⟨"column"⟩ := by
  -- The same declarations from the other end are accepted as well.
  have declared : ofDeclarations columnFirst = .ok (table columnFirst) := by rfl
  obtain ⟨ordered, orderless⟩ := ofDeclarations_ordered declared
  obtain ⟨rearranged, redeclared, same⟩ := orderless _ (List.reverse_perm _).symm
  exact ⟨_, declared, ordered, by rfl, by rfl, rearranged, redeclared, (same _).1⟩

end Rearranged

end Kinds

end BatchFlow
