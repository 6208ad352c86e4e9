import BatchFlow.Proofs.Router.Fallback

/-! Where the error rules of a node lead: the destinations of all rules that are for a kind, one
rule after the other, each destination where it comes up first. A more special kind is led wherever
a more general one is, though not in the same order. -/

namespace BatchFlow

namespace Topology

/-- Whether a rule is for errors of a kind can be looked up among the ancestors of the kind. -/
instance (topology : Topology) (kind : Kind) : DecidablePred (topology.Matches kind) := fun rule =>
  decidable_of_iff (rule.kind ∈ topology.kinds.ancestors kind) Kinds.mem_ancestors_iff

variable {topology : Topology} {origin : String} {kind general : Kind}

/-- The destinations are those of the rules that are for the kind, without repetition. -/
theorem errorOf_eq : topology.errorOf origin kind =
    (((topology.errorRulesOf origin).filter (topology.Matches kind ·)).flatMap
      (·.destinations)).eraseDups := by
  -- Being among the ancestors of the kind is what matching means.
  have suits : (fun rule : ErrorRule => decide (rule.kind ∈ topology.kinds.ancestors kind)) =
      fun rule => decide (topology.Matches kind rule) :=
    funext fun rule => decide_eq_decide.mpr Kinds.mem_ancestors_iff
  rw [errorOf, addNew_eq, suits, List.nil_append]
  simp

/-- A rule for a general kind is for the kinds that specialize it as well. -/
theorem Matches.specialize {rule : ErrorRule} (suits : topology.Matches general rule)
    (special : topology.kinds.isA kind general = true) : topology.Matches kind rule := by
  rw [Kinds.isA, decide_eq_true_eq, Kinds.mem_ancestors_iff] at special
  exact special.trans suits

/-- What the error rules of a node come to, in every topology and for every kind, registered or not:
the destinations of exactly those rules that name the kind or an ancestor of it, in the order of the
rules, each where it comes up first and never again. A kind that specializes another goes wherever
the other one goes. -/
theorem errorOf_resolves (topology : Topology) (origin : String) (kind : Kind) :
    topology.errorOf origin kind =
      (((topology.errorRulesOf origin).filter (topology.Matches kind ·)).flatMap
        (·.destinations)).eraseDups ∧
    (topology.errorOf origin kind).Nodup ∧
    ∀ general, topology.kinds.isA kind general = true →
      ∀ destination ∈ topology.errorOf origin general,
        destination ∈ topology.errorOf origin kind := by
  refine ⟨errorOf_eq, nodup_addNew List.nodup_nil, fun general special destination reached => ?_⟩
  rw [mem_errorOf] at reached ⊢
  obtain ⟨rule, listed, suits, among⟩ := reached
  -- What matches the general kind is above the special one as well.
  have matching : topology.Matches general rule := Kinds.mem_ancestors_iff.mp suits
  exact ⟨rule, listed, Kinds.mem_ancestors_iff.mpr (matching.specialize special), among⟩

/-- A rule for a special kind and one for a general kind, with a destination in common. -/
def overlapping : Topology :=
  ⟨[("check", ⟨[], [], [⟨.connection, ["retry"]⟩, ⟨.processing, ["log", "retry"]⟩]⟩)], [], [],
    ["check", "retry", "log"], .builtIn⟩

/-- Both destinations for the general kind are destinations for the special one, but the order is
not kept: the rule for the special kind alone goes first. -/
theorem errorOf_resolves_overlapping :
    overlapping.errorOf "check" .processing = ["log", "retry"] ∧
    overlapping.errorOf "check" .connection = ["retry", "log"] ∧
    overlapping.kinds.isA .connection .processing = true ∧
    "log" ∈ overlapping.errorOf "check" .processing ∧
    "log" ∈ overlapping.errorOf "check" .connection := by
  have special : overlapping.kinds.isA .connection .processing = true := by decide
  have reached : "log" ∈ overlapping.errorOf "check" .processing := by decide
  obtain ⟨-, -, specializes⟩ := errorOf_resolves overlapping "check" .connection
  exact ⟨by decide, by decide, special, reached, specializes .processing special "log" reached⟩

end Topology

end BatchFlow
