import BatchFlow.Text.Casing
import Mathlib.Data.List.Basic

/-! The tables of partners, as a whole: a letter becomes characters that have no partner in the same
table and are not blanks. The sets of letters and of their images are compared as numbers, so that a
table is checked in a single step. -/

namespace BatchFlow.Text

/-- A set of code points, as a number that has a bit for each of them. -/
def bits (codes : List Nat) : Nat :=
  codes.foldr (fun code set => 1 <<< code ||| set) 0

/-- The bit of a code point says whether it is in the set. -/
theorem testBit_bits (codes : List Nat) (code : Nat) :
    (bits codes).testBit code = decide (code ∈ codes) := by
  induction codes with
  | nil => simp [bits]
  | cons first rest ih =>
    -- Each code point sets its own bit, on top of those of the rest.
    show (1 <<< first ||| bits rest).testBit code = _
    rw [Nat.testBit_or, ih, Nat.one_shiftLeft, Nat.testBit_two_pow]
    simp [eq_comm]

/-- Sets that share no bit share no code point. -/
theorem not_mem_of_bits {codes others : List Nat} {code : Nat}
    (apart : bits codes &&& bits others = 0) (member : code ∈ codes) : code ∉ others := by
  intro also
  -- The bit of such a code point would be set in both.
  have shared : (bits codes &&& bits others).testBit code = true := by
    simp [testBit_bits, member, also]
  simp [apart] at shared

/-- The letters of a run. -/
def CaseRun.letters (run : CaseRun) : List Nat :=
  List.range' run.first ((run.last - run.first) / run.step + 1) run.step

/-- What has a partner in a run is one of its letters. -/
theorem CaseRun.mem_letters {run : CaseRun} {code image : Nat}
    (partner : run.partner? code = some image) : code ∈ run.letters := by
  unfold partner? at partner
  split at partner
  · next inside =>
    obtain ⟨above, below, aligned⟩ := inside
    -- The letter is so many steps behind the first one as its distance has in it.
    refine List.mem_range'.mpr ⟨(code - run.first) / run.step, ?_, ?_⟩
    · exact Nat.lt_succ_of_le (Nat.div_le_div_right (Nat.sub_le_sub_right below _))
    · have := Nat.div_add_mod (code - run.first) run.step
      omega
  · cases partner

/-- The letters of a table. -/
def lettersOf (runs : List CaseRun) (expansions : List (Nat × List Nat)) : List Nat :=
  runs.flatMap CaseRun.letters ++ expansions.map (·.1)

/-- The code points that a table gives for its letters. -/
def imagesOf (runs : List CaseRun) (expansions : List (Nat × List Nat)) : List Nat :=
  runs.flatMap (fun run => run.letters.filterMap run.partner?) ++ expansions.flatMap (·.2)

/-- The code points of the blanks. -/
def blankCodes : List Nat :=
  blankRanges.flatMap fun (first, last) => List.range' first (last + 1 - first)

/-- What is outside the ranges of the blanks is no blank. -/
theorem isBlank_of_not_mem {c : Char} (outside : c.toNat ∉ blankCodes) : isBlank c = false := by
  simp only [isBlank, inRanges, List.any_eq_false, Bool.and_eq_true, decide_eq_true_eq]
  -- A range that has the character would have its code point.
  rintro ⟨first, last⟩ member ⟨above, below⟩
  refine outside (List.mem_flatMap.mpr ⟨(first, last), member, List.mem_range'_1.mpr ?_⟩)
  exact ⟨above, by omega⟩

/-- A table that is done with a letter once it has mapped it: there is something for each letter,
and nothing of it is a letter or a blank. The code point 0 stands for what is not a character. -/
structure Settled (runs : List CaseRun) (expansions : List (Nat × List Nat)) : Prop where
  filled : ∀ entry ∈ expansions, entry.2 ≠ []
  apart : bits (0 :: imagesOf runs expansions) &&&
    bits (lettersOf runs expansions ++ blankCodes) = 0

/-- The table of capitals is done with a letter once it has mapped it. -/
theorem upper_settled : Settled upperRuns upperExpansions where
  filled := by decide +kernel
  apart := by decide +kernel

/-- The table of small letters is done with a letter once it has mapped it. -/
theorem lower_settled : Settled lowerRuns lowerExpansions where
  filled := by decide +kernel
  apart := by decide +kernel

section
variable {runs : List CaseRun} {expansions : List (Nat × List Nat)} {c d : Char}

/-- What is no letter of a table stays as it is. -/
theorem mapCase_of_not_mem (outside : c.toNat ∉ lettersOf runs expansions) :
    mapCase runs expansions c = [c] := by
  -- It is in no run, and has no expansion.
  obtain ⟨elsewhere, single⟩ := not_or.mp (mt List.mem_append.mpr outside)
  have lone : runs.findSome? (CaseRun.partner? · c.toNat) = none := by
    refine List.findSome?_eq_none_iff.mpr fun run member => ?_
    refine Option.eq_none_iff_forall_ne_some.mpr fun image partner => elsewhere ?_
    exact List.mem_flatMap.mpr ⟨run, member, CaseRun.mem_letters partner⟩
  have plain : expansions.find? (·.1 == c.toNat) = none := by
    refine List.find?_eq_none.mpr fun entry member same => single ?_
    exact List.mem_map.mpr ⟨entry, member, by simpa using same⟩
  rw [mapCase, lone, plain]

/-- A code of a list is the code of its character, or 0 where it is not that of a character. -/
theorem toNat_ofNat_mem {codes : List Nat} {code : Nat} (member : code ∈ codes) :
    (Char.ofNat code).toNat ∈ 0 :: codes := by
  by_cases valid : code.isValidChar
  · have same : Char.ofNat code = Char.ofNatAux code valid := dif_pos valid
    rw [same]
    exact List.mem_cons_of_mem 0 member
  · -- A number that is no code point becomes the character of code 0.
    have zero : Char.ofNat code = '\x00' := dif_neg valid
    rw [zero]
    exact List.mem_cons_self

/-- What a table gives for a character is that character itself or is among its images. -/
theorem mem_mapCase (member : d ∈ mapCase runs expansions c) :
    mapCase runs expansions c = [c] ∧ d = c ∨ d.toNat ∈ 0 :: imagesOf runs expansions := by
  unfold mapCase at member ⊢
  split at member
  · -- A letter with one partner.
    next code found =>
    right
    obtain ⟨run, among, partner⟩ := List.exists_of_findSome?_eq_some found
    cases List.mem_singleton.mp member
    refine toNat_ofNat_mem (List.mem_append_left _ (List.mem_flatMap.mpr ⟨run, among, ?_⟩))
    exact List.mem_filterMap.mpr ⟨c.toNat, CaseRun.mem_letters partner, partner⟩
  · split at member
    · -- A letter that becomes several characters.
      next letter codes found =>
      right
      obtain ⟨code, part, rfl⟩ := List.mem_map.mp member
      refine toNat_ofNat_mem (List.mem_append_right _ (List.mem_flatMap.mpr ?_))
      exact ⟨(letter, codes), List.mem_of_find?_eq_some found, part⟩
    · -- A character that the table has nothing for.
      exact .inl ⟨rfl, List.mem_singleton.mp member⟩

/-- What stands behind the first character of an image comes from an expansion. -/
theorem mem_tail_mapCase (member : d ∈ (mapCase runs expansions c).tail) :
    ∃ entry ∈ expansions, d.toNat ∈ 0 :: entry.2.tail := by
  unfold mapCase at member
  split at member
  · -- Nothing stands behind a single partner.
    cases member
  · split at member
    · next letter codes found =>
      rw [← List.map_tail] at member
      obtain ⟨code, part, rfl⟩ := List.mem_map.mp member
      exact ⟨(letter, codes), List.mem_of_find?_eq_some found, toNat_ofNat_mem part⟩
    · cases member

namespace Settled

/-- An image is neither a letter of the table nor a blank. -/
theorem not_mem (settled : Settled runs expansions)
    (image : d.toNat ∈ 0 :: imagesOf runs expansions) :
    d.toNat ∉ lettersOf runs expansions ∧ d.toNat ∉ blankCodes := by
  have outside := not_mem_of_bits settled.apart image
  exact not_or.mp (mt List.mem_append.mpr outside)

/-- What a table gives for a character, it leaves as it is. -/
theorem mapCase_eq (settled : Settled runs expansions) (member : d ∈ mapCase runs expansions c) :
    mapCase runs expansions d = [d] := by
  -- Either the character was not mapped at all, or its image is outside the table.
  obtain ⟨same, rfl⟩ | image := mem_mapCase member
  · exact same
  · exact mapCase_of_not_mem (settled.not_mem image).1

/-- Nothing but a blank becomes a blank. -/
theorem solid (settled : Settled runs expansions) (solid : isBlank c = false)
    (member : d ∈ mapCase runs expansions c) : isBlank d = false := by
  -- No image is a blank.
  obtain ⟨-, rfl⟩ | image := mem_mapCase member
  · exact solid
  · exact isBlank_of_not_mem (settled.not_mem image).2

/-- No character is dropped. -/
theorem mapCase_ne_nil (settled : Settled runs expansions) (c : Char) :
    mapCase runs expansions c ≠ [] := by
  unfold mapCase
  split
  · -- A letter with one partner gives one character.
    exact List.cons_ne_nil _ _
  · split
    · next codes found =>
      simpa using settled.filled _ (List.mem_of_find?_eq_some found)
    · exact List.cons_ne_nil _ _

end Settled

/-- The upper case of a character is in upper case. -/
theorem upperChar_eq (member : d ∈ upperChar c) : upperChar d = [d] :=
  upper_settled.mapCase_eq member

/-- The lower case of a character is in lower case. -/
theorem lowerChar_eq (member : d ∈ lowerChar c) : lowerChar d = [d] :=
  lower_settled.mapCase_eq member

/-- The upper case of a character is not empty. -/
theorem upperChar_ne_nil (c : Char) : upperChar c ≠ [] :=
  upper_settled.mapCase_ne_nil c

/-- The lower case of a character is not empty. -/
theorem lowerChar_ne_nil (c : Char) : lowerChar c ≠ [] :=
  lower_settled.mapCase_ne_nil c

/-- What is no blank has no blank in its upper case. -/
theorem solid_upperChar (solid : isBlank c = false) (member : d ∈ upperChar c) :
    isBlank d = false :=
  upper_settled.solid solid member

/-- What is no blank has no blank in its lower case. -/
theorem solid_lowerChar (solid : isBlank c = false) (member : d ∈ lowerChar c) :
    isBlank d = false :=
  lower_settled.solid solid member

/-- A capital has no sigma behind its first character. -/
theorem sigma_not_mem_tail (c : Char) : 'Σ' ∉ (upperChar c).tail := by
  intro member
  obtain ⟨entry, among, inside⟩ := mem_tail_mapCase member
  -- The table has no such expansion, as the kernel finds by going through it.
  have absent : ∀ entry ∈ upperExpansions, 'Σ'.toNat ∉ 0 :: entry.2.tail := by decide +kernel
  exact absent entry among inside

end

end BatchFlow.Text
