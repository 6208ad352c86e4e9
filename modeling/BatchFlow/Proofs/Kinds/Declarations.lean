import BatchFlow.Proofs.Kinds.Ancestry

/-! What is wrong with declarations of kinds, read off the declarations themselves: names that are
taken, parents that are nowhere to be found, and cycles of parents. Exactly that is reported. -/

namespace BatchFlow

namespace Kinds

/-- The kinds that are built in or declared, in order. -/
def known (declarations : List Declaration) : List Kind :=
  builtIn.all ++ declarations.map (·.kind)

/-- The declarations that are chosen in view of those before them. -/
def chosen (choice : List Declaration → Declaration → Bool) (declarations : List Declaration) :
    List Declaration :=
  (declarations.zipIdx.filter fun (declaration, place) =>
    choice (declarations.take place) declaration).map (·.1)

/-- The declarations of names that are built in or were declared before. -/
def repeated (declarations : List Declaration) : List Declaration :=
  chosen (fun earlier declaration => declaration.kind ∈ known earlier) declarations

/-- The first declaration of each name that is not built in. -/
def accepted (declarations : List Declaration) : List Declaration :=
  chosen (fun earlier declaration => declaration.kind ∉ known earlier) declarations

/-- The accepted declarations whose parent is neither built in nor declared anywhere. -/
def orphaned (declarations : List Declaration) : List Declaration :=
  (accepted declarations).filter (·.parent ∉ known declarations)

/-- A kind is declared with a parent. -/
def Declares (declarations : List Declaration) (kind parent : Kind) : Prop :=
  ⟨kind, parent⟩ ∈ declarations

/-- Nothing is wrong with declarations. -/
structure WellFormed (declarations : List Declaration) : Prop where
  distinct : (declarations.map (·.kind)).Nodup
  fresh : ∀ declaration ∈ declarations, declaration.kind ∉ builtIn.all
  parented : ∀ declaration ∈ declarations, declaration.parent ∈ known declarations
  acyclic : ∀ cycle, ¬ IsCycleOf (Declares declarations) cycle

/-- The built-in kinds, and declared ones behind them. -/
def table (declarations : List Declaration) : Kinds :=
  ⟨builtIn.parents ++ declarations.map fun declaration =>
    (declaration.kind, some declaration.parent)⟩

/-- The kinds of a cycle, the first of them repeated at the end. -/
def closed (ring : List Kind) : List Kind := ring ++ ring.take 1

/-- Listed kinds read as cycles, so that it does not matter where each list begins. -/
def asCycles (rings : List (List Kind)) : List (Cycle Kind) :=
  rings.map fun (ring : List Kind) => (ring : Cycle Kind)

section Registration

variable {declarations : List Declaration} {declaration : Declaration}

/-- Whether the last declaration is chosen is seen from all the others. -/
theorem chosen_append_singleton {choice : List Declaration → Declaration → Bool} :
    chosen choice (declarations ++ [declaration]) =
      chosen choice declarations ++
        if choice declarations declaration then [declaration] else [] := by
  -- What stands before an earlier declaration is the same with the last one and without it.
  have same : declarations.zipIdx.filter (fun (entry : Declaration × Nat) =>
        choice ((declarations ++ [declaration]).take entry.2) entry.1) =
      declarations.zipIdx.filter fun (entry : Declaration × Nat) =>
        choice (declarations.take entry.2) entry.1 := by
    refine List.filter_congr fun entry member => ?_
    have within : entry.2 < declarations.length := by
      simpa using (List.mem_zipIdx member).2.1
    rw [List.take_append_of_le_length within.le]
  simp only [chosen, List.zipIdx_append, List.filter_append, List.map_append]
  rw [same]
  congr 1
  by_cases taken : choice declarations declaration = true <;> simp [taken]

/-- One more declaration makes its name known. -/
theorem known_append_singleton :
    known (declarations ++ [declaration]) = known declarations ++ [declaration.kind] := by
  simp [known]

/-- It is repeated if its name was known before. -/
theorem repeated_append_singleton : repeated (declarations ++ [declaration]) =
    repeated declarations ++
      if declaration.kind ∈ known declarations then [declaration] else [] := by
  simp only [repeated, chosen_append_singleton, decide_eq_true_eq]

/-- It is accepted if its name was not known before. -/
theorem accepted_append_singleton : accepted (declarations ++ [declaration]) =
    accepted declarations ++
      if declaration.kind ∈ known declarations then [] else [declaration] := by
  simp only [accepted, chosen_append_singleton, decide_eq_true_eq, ite_not]

/-- The table has the kinds that are built in and those that were declared. -/
theorem all_table : (table declarations).all = known declarations := by
  simp [all, table, known, Function.comp_def]

/-- A repeated declaration brings no name that is not known without it. -/
theorem mem_known_accepted {kind : Kind} :
    kind ∈ known (accepted declarations) ↔ kind ∈ known declarations := by
  induction declarations using List.reverseRecOn with
  | nil => rfl
  | append_singleton earlier last ih =>
    rw [accepted_append_singleton, known_append_singleton]
    -- The last declaration is accepted only if its name is new.
    split
    · rename_i taken
      rw [List.append_nil, ih, List.mem_append, List.mem_singleton]
      constructor
      · exact .inl
      · rintro (member | rfl)
        · exact member
        · exact taken
    · rw [known_append_singleton, List.mem_append, List.mem_append, ih]

/-- No name is accepted twice. -/
theorem nodup_known_accepted : (known (accepted declarations)).Nodup := by
  induction declarations using List.reverseRecOn with
  | nil => decide
  | append_singleton earlier last ih =>
    rw [accepted_append_singleton]
    -- A name that is added is not among the earlier ones.
    split
    · rwa [List.append_nil]
    · rename_i fresh
      rw [known_append_singleton, ← List.concat_eq_append]
      exact ih.concat fun member => fresh (mem_known_accepted.mp member)

/-- One more declaration is judged by the table that the others have left. -/
theorem register_append_singleton {kinds : Kinds} :
    register kinds (declarations ++ [declaration]) =
      let (extended, registered, defects) := register kinds declarations
      if extended.contains declaration.kind then
        (extended, registered, defects ++ [.duplicateKind declaration.kind.name])
      else
        (⟨extended.parents ++ [(declaration.kind, some declaration.parent)]⟩,
          registered ++ [declaration], defects) := by
  induction declarations generalizing kinds with
  | nil =>
    simp only [List.nil_append, register]
    rfl
  | cons first rest ih =>
    simp only [List.cons_append, register]
    -- The first declaration decides on the table that the others begin with.
    split
    · rw [ih]
      dsimp only
      split <;> rfl
    · rw [ih]
      dsimp only
      split <;> rfl

/-- Registration accepts the first declaration of each new name, and complains of the others. -/
theorem register_eq : register builtIn declarations =
    (table (accepted declarations), accepted declarations,
      (repeated declarations).map fun declaration => .duplicateKind declaration.kind.name) := by
  induction declarations using List.reverseRecOn with
  | nil => rfl
  | append_singleton earlier last ih =>
    rw [register_append_singleton, ih, repeated_append_singleton, accepted_append_singleton]
    have same : (table (accepted earlier)).contains last.kind = true ↔
        last.kind ∈ known earlier := by
      rw [contains_iff, all_table, mem_known_accepted]
    dsimp only
    -- The last declaration finds the table as the earlier ones have left it.
    by_cases taken : last.kind ∈ known earlier
    · simp [same.mpr taken, taken]
    · have free : ¬ (table (accepted earlier)).contains last.kind = true :=
        fun contained => taken (same.mp contained)
      rw [if_neg free, if_neg taken, if_neg taken]
      simp [table]

/-- Nothing is repeated if the names are distinct and none of them is built in. -/
theorem repeated_eq_nil_iff : repeated declarations = [] ↔
    (declarations.map (·.kind)).Nodup ∧
      ∀ declaration ∈ declarations, declaration.kind ∉ builtIn.all := by
  induction declarations using List.reverseRecOn with
  | nil => simp [repeated, chosen]
  | append_singleton earlier last ih =>
    rw [repeated_append_singleton, List.append_eq_nil_iff, ih]
    -- A name is free if it is neither built in nor among the earlier ones.
    have free : (if last.kind ∈ known earlier then [last] else []) = [] ↔
        last.kind ∉ builtIn.all ∧ last.kind ∉ earlier.map (·.kind) := by
      rw [← not_or, ← List.mem_append]
      show _ ↔ last.kind ∉ known earlier
      split <;> simp_all
    rw [free, List.map_append, List.map_singleton, ← List.concat_eq_append, List.nodup_concat]
    simp only [List.mem_append, List.mem_singleton, or_imp, forall_and, forall_eq]
    tauto

/-- Without repetition every declaration is accepted. -/
theorem accepted_eq_self (unrepeated : repeated declarations = []) :
    accepted declarations = declarations := by
  -- By induction from the end; the last declaration would be repeated if its kind were known.
  induction declarations using List.reverseRecOn with
  | nil => rfl
  | append_singleton earlier last ih =>
    rw [repeated_append_singleton, List.append_eq_nil_iff] at unrepeated
    have free : last.kind ∉ known earlier := fun taken => by simp [taken] at unrepeated
    rw [accepted_append_singleton, ih unrepeated.1, if_neg free]

/-- The complaints about parents are those about the accepted declarations without one. -/
theorem orphans_eq : (table (accepted declarations)).orphans (accepted declarations) =
    (orphaned declarations).map fun declaration =>
      .unknownParent declaration.kind.name declaration.parent.name := by
  unfold orphans orphaned
  congr 1
  refine List.filter_congr fun declaration _ => ?_
  -- The table knows just the kinds that were declared or are built in.
  have same : (table (accepted declarations)).contains declaration.parent = true ↔
      declaration.parent ∈ known declarations := by
    rw [contains_iff, all_table, mem_known_accepted]
  rw [Bool.eq_iff_iff, Bool.not_eq_true', Bool.eq_false_iff, ne_eq, same, decide_eq_true_eq]

end Registration

section Links

variable {declarations : List Declaration} {cycle : Cycle Kind}

/-- A kind of the table is linked as it is built in or declared. -/
theorem link_table_iff {kind parent : Kind} (distinct : (known declarations).Nodup) :
    (table declarations).Link kind parent ↔
      (kind, some parent) ∈ builtIn.parents ∨ Declares declarations kind parent := by
  rw [Link, lookup?_eq_some_iff (all_table ▸ distinct), table, List.mem_append, List.mem_map]
  refine or_congr_right ⟨?_, fun declared => ⟨_, declared, rfl⟩⟩
  -- What comes after the built-in kinds are the declarations.
  rintro ⟨declaration, declared, same⟩
  cases same
  exact declared

/-- From the built-in kinds the way leads to the root, so none of them is on a cycle. -/
theorem not_mem_builtIn (circular : IsCycleOf (table declarations).Link cycle) {kind : Kind}
    (member : kind ∈ cycle) : kind ∉ builtIn.all := by
  have up : ∀ {kind parent}, (table declarations).Link kind parent → kind ∈ cycle →
      parent ∈ cycle := fun link onCycle => circular.stays link_unique onCycle (.single link)
  have top : Kind.root ∉ cycle := by
    intro onCycle
    obtain ⟨parent, _, link⟩ := circular.onward onCycle
    -- The root is registered without a parent.
    cases link
  have toRoot : (table declarations).Link .processing .root := rfl
  have fromFormat : (table declarations).Link .dataFormat .processing := rfl
  have fromConnection : (table declarations).Link .connection .processing := rfl
  have middle : Kind.processing ∉ cycle := fun onCycle => top (up toRoot onCycle)
  intro builtInKind
  simp only [all, builtIn, List.map_cons, List.map_nil, List.mem_cons, List.not_mem_nil,
    or_false] at builtInKind
  rcases builtInKind with rfl | rfl | rfl | rfl
  · exact top member
  · exact middle member
  · exact middle (up fromFormat member)
  · exact middle (up fromConnection member)

/-- The cycles of the table are those of the accepted declarations. -/
theorem isCycleOf_link_iff : IsCycleOf (table (accepted declarations)).Link cycle ↔
    IsCycleOf (Declares (accepted declarations)) cycle := by
  constructor
  · intro circular
    refine circular.imp_of_mem fun kind member parent _ link => ?_
    -- Links that are built in lead to the root, so that none of them is on a cycle.
    rcases (link_table_iff nodup_known_accepted).mp link with isBuiltIn | declared
    · exact absurd (List.mem_map.mpr ⟨_, isBuiltIn, rfl⟩) (not_mem_builtIn circular member)
    · exact declared
  · intro circular
    exact circular.imp_of_mem fun _ _ _ _ declared =>
      (link_table_iff nodup_known_accepted).mpr (.inr declared)

end Links

section Search

variable {kinds : Kinds}

/-- What a search for cycles from some declarations has to find, when some kinds are on cycles that
were reported before. -/
structure Found (kinds : Kinds) (reported : List Kind) (declarations : List Declaration)
    (rings : List (List Kind)) : Prop where
  circular : ∀ ring ∈ rings, IsCycleOf kinds.Link ↑ring
  unreported : ∀ ring ∈ rings, ∀ kind ∈ ring, kind ∉ reported
  distinct : (asCycles rings).Nodup
  complete : ∀ declaration ∈ declarations, ∀ cycle, IsCycleOf kinds.Link cycle →
    Leads kinds.Link declaration.kind cycle →
      (∃ kind ∈ cycle, kind ∈ reported) ∨ cycle ∈ asCycles rings

/-- A declaration that leads into nothing new is passed over. -/
theorem Found.skip {reported : List Kind} {declaration : Declaration}
    {rest : List Declaration} {rings : List (List Kind)} (found : Found kinds reported rest rings)
    (nothingNew : ∀ cycle, IsCycleOf kinds.Link cycle →
      Leads kinds.Link declaration.kind cycle → ∃ kind ∈ cycle, kind ∈ reported) :
    Found kinds reported (declaration :: rest) rings := by
  refine ⟨found.circular, found.unreported, found.distinct, ?_⟩
  intro other member cycle circular leads
  -- It is the declaration itself that leads on, or one of the rest.
  rcases List.mem_cons.mp member with rfl | further
  · exact .inl (nothingNew cycle circular leads)
  · exact found.complete other further cycle circular leads

/-- A cycle that a declaration leads into is reported, if it shares no kind with those before. -/
theorem Found.report {reported ring : List Kind} {declaration : Declaration}
    {rest : List Declaration} {rings : List (List Kind)}
    (circular : IsCycleOf kinds.Link ↑ring) (leads : Leads kinds.Link declaration.kind ↑ring)
    (unreported : ∀ kind ∈ ring, kind ∉ reported)
    (found : Found kinds (reported ++ closed ring) rest rings) :
    Found kinds reported (declaration :: rest) (ring :: rings) := by
  have among : ∀ kind, kind ∈ closed ring ↔ kind ∈ ring := by
    intro kind
    rw [closed, List.mem_append]
    exact ⟨fun member => member.elim id List.mem_of_mem_take, .inl⟩
  refine ⟨?_, ?_, ?_, ?_⟩
  · exact List.forall_mem_cons.mpr ⟨circular, found.circular⟩
  · refine List.forall_mem_cons.mpr ⟨unreported, fun other member kind onOther reported => ?_⟩
    exact found.unreported other member kind onOther (by simp [reported])
  · rw [asCycles, List.map_cons, List.nodup_cons]
    refine ⟨fun again => ?_, found.distinct⟩
    -- The same cycle reported once more would share a kind with itself.
    obtain ⟨other, member, same⟩ := List.mem_map.mp again
    obtain ⟨kind, onRing⟩ := circular.exists_mem
    have onOther : kind ∈ other := Cycle.mem_coe_iff.mp (same ▸ onRing)
    have onList : kind ∈ ring := Cycle.mem_coe_iff.mp onRing
    exact found.unreported other member kind onOther
      (List.mem_append_right _ ((among kind).mpr onList))
  · intro other member cycle isCycle into
    rw [asCycles, List.map_cons, List.mem_cons]
    rcases List.mem_cons.mp member with rfl | further
    · exact .inr (.inl (into.unique link_unique isCycle circular leads))
    · rcases found.complete other further cycle isCycle into with ⟨kind, onCycle, met⟩ | listed
      · rcases List.mem_append.mp met with before | onRing
        · exact .inl ⟨kind, onCycle, before⟩
        · -- A kind in common with this cycle makes it this one.
          exact .inr (.inl (isCycle.eq_of_mem link_unique circular onCycle
            (Cycle.mem_coe_iff.mpr ((among kind).mp onRing))))
      · exact .inr (.inr listed)

/-- The search reports each cycle that the declarations lead into once, closed by its first
kind. -/
theorem exists_found (kinds : Kinds) (reported : List Kind) (declarations : List Declaration) :
    ∃ rings, kinds.cycles reported declarations = rings.map closed ∧
      Found kinds reported declarations rings := by
  -- By induction on the declarations that are left, for any kinds that were reported before.
  induction declarations generalizing reported with
  | nil => exact ⟨[], rfl, by simp, by simp, by simp [asCycles], by simp⟩
  | cons declaration rest ih =>
    simp only [cycles]
    split
    · -- The walk from this declaration ends in a cycle.
      rename_i cycle ended
      obtain ⟨first, others, rfl, circular, leads⟩ := cycle?_sound ended
      have isClosed : first :: (others ++ [first]) = closed (first :: others) := rfl
      split
      · -- The cycle shares a kind with one that is reported, and so is that one.
        rename_i again
        obtain ⟨kind, onCycle, met⟩ := List.any_eq_true.mp again
        obtain ⟨rings, same, found⟩ := ih reported
        refine ⟨rings, same, found.skip fun cycle isCycle into => ⟨kind, ?_, by simpa using met⟩⟩
        rw [into.unique link_unique isCycle circular leads, Cycle.mem_coe_iff]
        rw [← List.cons_append, List.mem_append, List.mem_singleton] at onCycle
        exact onCycle.elim id (fun isFirst => isFirst ▸ List.mem_cons_self)
      · -- A cycle that is new is reported, and all its kinds count as reported from then on.
        rename_i unmet
        rw [List.any_eq_true, not_exists] at unmet
        obtain ⟨rings, same, found⟩ := ih (reported ++ closed (first :: others))
        refine ⟨(first :: others) :: rings, ?_, .report circular leads ?_ found⟩
        · rw [isClosed, same, List.map_cons]
        · intro kind onRing met
          exact unmet kind ⟨List.mem_append_left [first] onRing, by simpa using met⟩
    · -- The walk ends nowhere, so that no cycle can be reached from here.
      rename_i nowhere
      obtain ⟨rings, same, found⟩ := ih reported
      exact ⟨rings, same, found.skip fun cycle circular leads =>
        absurd nowhere (cycle?_complete circular leads)⟩

end Search

/-- Nothing is wrong with declarations if there is nothing of each sort to complain about. -/
theorem wellFormed_iff {declarations : List Declaration} : WellFormed declarations ↔
    repeated declarations = [] ∧ orphaned declarations = [] ∧
      ∀ cycle, ¬ IsCycleOf (Declares (accepted declarations)) cycle := by
  constructor
  · rintro ⟨distinct, fresh, parented, acyclic⟩
    -- Where nothing is repeated, every declaration is accepted.
    have unrepeated := repeated_eq_nil_iff.mpr ⟨distinct, fresh⟩
    refine ⟨unrepeated, ?_, (accepted_eq_self unrepeated).symm ▸ acyclic⟩
    rw [orphaned, accepted_eq_self unrepeated, List.filter_eq_nil_iff]
    exact fun declaration member => by simpa using parented declaration member
  · rintro ⟨unrepeated, unorphaned, acyclic⟩
    obtain ⟨distinct, fresh⟩ := repeated_eq_nil_iff.mp unrepeated
    rw [orphaned, List.filter_eq_nil_iff] at unorphaned
    rw [accepted_eq_self unrepeated] at unorphaned acyclic
    exact ⟨distinct, fresh, fun declaration member => by simpa using unorphaned declaration member,
      acyclic⟩

/-- The cycles of the accepted declarations are found, each once, and reported behind the repeated
names and the parents that are nowhere to be found. -/
theorem ofDeclarations_eq (declarations : List Declaration) :
    ∃ rings : List (List Kind),
      (asCycles rings).Nodup ∧
      (∀ cycle : Cycle Kind, cycle ∈ asCycles rings ↔
        IsCycleOf (Declares (accepted declarations)) cycle) ∧
      ofDeclarations declarations =
        let defects := (repeated declarations).map (fun declaration =>
            .duplicateKind declaration.kind.name) ++
          (orphaned declarations).map (fun declaration =>
            .unknownParent declaration.kind.name declaration.parent.name) ++
          rings.map fun ring => .cyclicKinds ((closed ring).map (·.name))
        if defects.isEmpty then .ok (table (accepted declarations)) else .error defects := by
  obtain ⟨rings, searched, found⟩ :=
    exists_found (table (accepted declarations)) [] (accepted declarations)
  refine ⟨rings, found.distinct, fun cycle => ⟨fun listed => ?_, fun circular => ?_⟩, ?_⟩
  · obtain ⟨ring, member, rfl⟩ := List.mem_map.mp listed
    exact isCycleOf_link_iff.mp (found.circular ring member)
  · -- A cycle is led into from each of its own kinds, and these are declared.
    obtain ⟨kind, member⟩ := circular.exists_mem
    obtain ⟨parent, _, declared⟩ := circular.onward member
    have leads : Leads (table (accepted declarations)).Link kind cycle := ⟨kind, member, .refl⟩
    have searched := found.complete _ declared cycle (isCycleOf_link_iff.mpr circular) leads
    simpa using searched
  · rw [ofDeclarations, register_eq]
    simp only [orphans_eq, searched, List.map_map]
    rfl

/-- There is nothing to report about cycles if the accepted declarations have none. -/
theorem rings_eq_nil_iff {declarations : List Declaration} {rings : List (List Kind)}
    (exactly : ∀ cycle : Cycle Kind, cycle ∈ asCycles rings ↔
      IsCycleOf (Declares (accepted declarations)) cycle) :
    rings = [] ↔ ∀ cycle, ¬ IsCycleOf (Declares (accepted declarations)) cycle := by
  rw [← List.map_eq_nil_iff, List.eq_nil_iff_forall_not_mem]
  exact forall_congr' fun cycle => not_congr (exactly cycle)

/-- Declarations are judged exactly. They extend the built-in kinds if and only if nothing is wrong
with them. Otherwise every repeated name is reported, then every parent that is nowhere to be found,
and then every cycle of parents among the accepted declarations, once and closed by its first
kind. -/
theorem ofDeclarations_exact (declarations : List Declaration) :
    ((∃ kinds, ofDeclarations declarations = .ok kinds) ↔ WellFormed declarations) ∧
      ∃ rings : List (List Kind),
        (asCycles rings).Nodup ∧
        (∀ cycle : Cycle Kind, cycle ∈ asCycles rings ↔
          IsCycleOf (Declares (accepted declarations)) cycle) ∧
        (¬ WellFormed declarations → ofDeclarations declarations = .error
          ((repeated declarations).map (fun declaration =>
              .duplicateKind declaration.kind.name) ++
            (orphaned declarations).map (fun declaration =>
              .unknownParent declaration.kind.name declaration.parent.name) ++
            rings.map fun ring => .cyclicKinds ((closed ring).map (·.name)))) := by
  obtain ⟨rings, distinct, exactly, same⟩ := ofDeclarations_eq declarations
  have sound : WellFormed declarations ↔
      repeated declarations = [] ∧ orphaned declarations = [] ∧ rings = [] := by
    rw [wellFormed_iff, rings_eq_nil_iff exactly]
  rw [same]
  dsimp only
  -- The list of defects has three parts, and is empty if they all are.
  refine ⟨?_, rings, distinct, exactly, fun unsound => ?_⟩
  · rw [sound]
    split
    · rename_i faultless
      simpa [and_assoc] using faultless
    · rename_i faulty
      simpa [and_assoc] using faulty
  · rw [if_neg]
    simpa [and_assoc] using sound.not.mp unsound

/-- Repeated names, unknown parents and cycles are reported side by side. -/
example : ofDeclarations [⟨.processing, .root⟩, ⟨⟨"orphan"⟩, ⟨"nowhere"⟩⟩, ⟨⟨"tail"⟩, ⟨"a"⟩⟩,
    ⟨⟨"a"⟩, ⟨"b"⟩⟩, ⟨⟨"b"⟩, ⟨"a"⟩⟩] = .error [.duplicateKind "processing",
      .unknownParent "orphan" "nowhere", .cyclicKinds ["a", "b", "a"]] := by rfl

/-- Declarations with which nothing is wrong come to the built-in kinds and the declared ones behind
them, and others come to nothing. -/
theorem ofDeclarations_eq_ok_iff {declarations : List Declaration} {kinds : Kinds} :
    ofDeclarations declarations = .ok kinds ↔
      WellFormed declarations ∧ kinds = table declarations := by
  obtain ⟨rings, _, exactly, same⟩ := ofDeclarations_eq declarations
  rw [same, wellFormed_iff, ← rings_eq_nil_iff exactly]
  dsimp only
  constructor
  · intro declared
    -- The table is built if no defect was found, and then nothing was left out of it.
    split at declared
    · rename_i faultless
      cases declared
      simp only [List.isEmpty_iff, List.append_eq_nil_iff, List.map_eq_nil_iff,
        and_assoc] at faultless
      exact ⟨faultless, by rw [accepted_eq_self faultless.1]⟩
    · cases declared
  · rintro ⟨⟨unrepeated, unorphaned, acyclic⟩, rfl⟩
    simp [unrepeated, unorphaned, acyclic, accepted_eq_self unrepeated]

/-- Kinds that could be declared are grounded in the root. -/
theorem grounded_of_declarations {declarations : List Declaration} {kinds : Kinds}
    (declared : ofDeclarations declarations = .ok kinds) : kinds.Grounded := by
  obtain ⟨sound, rfl⟩ := ofDeclarations_eq_ok_iff.mp declared
  have unrepeated := (wellFormed_iff.mp sound).1
  have distinct : (known declarations).Nodup :=
    accepted_eq_self unrepeated ▸ nodup_known_accepted
  refine ⟨rfl, fun kind entry => ?_, fun cycle circular => ?_⟩
  · -- Whatever is declared has a parent, so only a built-in kind can do without.
    rw [lookup?_eq_some_iff (all_table ▸ distinct)] at entry
    simpa [table, builtIn] using entry
  · refine sound.acyclic cycle ?_
    rw [← accepted_eq_self unrepeated] at circular ⊢
    exact isCycleOf_link_iff.mp circular

end Kinds

end BatchFlow
