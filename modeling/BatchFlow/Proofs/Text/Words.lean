import BatchFlow.Text.Casing
import Mathlib.Data.List.Basic

/-! A text is parted into words at its blanks, and words that were written with one blank between
neighbours are found again. -/

namespace BatchFlow.Text

/-- Something that can be a word: it is not empty, and has no blank in it. -/
structure IsWord (word : List Char) : Prop where
  nonempty : word ≠ []
  solid : ∀ c ∈ word, isBlank c = false

variable {characters word : List Char} {parts : List (List Char)}

/-- There is a piece even where there is nothing. -/
theorem pieces_ne_nil (characters : List Char) : pieces characters ≠ [] := by
  cases characters with
  | nil => exact List.cons_ne_nil _ _
  | cons c rest =>
    rw [pieces]
    split
    · exact List.cons_ne_nil _ _
    · split <;> exact List.cons_ne_nil _ _

/-- A character that is no blank belongs to the first piece. -/
theorem pieces_cons {c : Char} (solid : isBlank c = false) (rest : List Char) :
    ∃ piece more, pieces rest = piece :: more ∧ pieces (c :: rest) = (c :: piece) :: more := by
  -- What follows begins with a piece, to which the character is put.
  obtain ⟨piece, more, same⟩ := List.exists_cons_of_ne_nil (pieces_ne_nil rest)
  refine ⟨piece, more, same, ?_⟩
  rw [pieces, if_neg (by simp [solid]), same]

/-- A piece has characters of the text in it, and no blank. -/
theorem mem_piece {piece : List Char} (member : piece ∈ pieces characters) :
    ∀ c ∈ piece, c ∈ characters ∧ isBlank c = false := by
  induction characters generalizing piece with
  | nil =>
    cases List.mem_singleton.mp member
    nofun
  | cons first rest ih =>
    have later : ∀ part ∈ pieces rest, ∀ c ∈ part, c ∈ first :: rest ∧ isBlank c = false :=
      fun part inside c belongs =>
        (ih inside c belongs).imp_left (List.mem_cons_of_mem first)
    cases blank : isBlank first with
    | true =>
      -- A blank ends a piece that has nothing in it so far.
      rw [pieces, if_pos blank] at member
      rcases List.mem_cons.mp member with rfl | further
      · nofun
      · exact later piece further
    | false =>
      obtain ⟨old, more, same, grown⟩ := pieces_cons blank rest
      -- The character joins the first piece of what comes behind it.
      rw [grown] at member
      rw [same] at later
      rcases List.mem_cons.mp member with rfl | further
      · exact List.forall_mem_cons.mpr
          ⟨⟨List.mem_cons_self, blank⟩, later old List.mem_cons_self⟩
      · exact later piece (List.mem_cons_of_mem _ further)

/-- What is parted off as a word is one. -/
theorem isWord_of_mem_words (member : word ∈ words characters) : IsWord word := by
  obtain ⟨piece, whole⟩ := List.mem_filter.mp member
  exact ⟨by simpa using whole, fun c belongs => (mem_piece piece c belongs).2⟩

/-- A word has only characters of the text in it. -/
theorem mem_of_mem_words (member : word ∈ words characters) : ∀ c ∈ word, c ∈ characters :=
  fun c belongs => (mem_piece (List.mem_of_mem_filter member) c belongs).1

/-- A text without blanks is one piece. -/
theorem pieces_solid (solid : ∀ c ∈ word, isBlank c = false) : pieces word = [word] := by
  -- Each character joins the one piece of what comes behind it.
  induction word with
  | nil => rfl
  | cons c rest ih =>
    obtain ⟨here, others⟩ := List.forall_mem_cons.mp solid
    obtain ⟨piece, more, same, grown⟩ := pieces_cons here rest
    rw [ih others] at same
    cases same
    exact grown

/-- What has no blank in it is a piece if a blank comes next. -/
theorem pieces_append (solid : ∀ c ∈ word, isBlank c = false) (rest : List Char) :
    pieces (word ++ ' ' :: rest) = word :: pieces rest := by
  -- The piece ends at the blank; each character of the word is put in front of it.
  induction word with
  | nil =>
    rw [List.nil_append, pieces, if_pos]
    decide
  | cons c tail ih =>
    obtain ⟨here, others⟩ := List.forall_mem_cons.mp solid
    obtain ⟨piece, more, same, grown⟩ := pieces_cons here (tail ++ ' ' :: rest)
    rw [ih others] at same
    cases same
    exact grown

/-- Behind the first word there is a blank if there is another word. -/
theorem unwords_cons {next : List Char} :
    unwords (word :: next :: parts) = word ++ ' ' :: unwords (next :: parts) := by
  simp [unwords, List.intercalate, List.intersperse]

/-- Words that were written out are found again. -/
theorem words_unwords (whole : ∀ part ∈ parts, IsWord part) : words (unwords parts) = parts := by
  induction parts with
  | nil => rfl
  | cons first rest ih =>
    obtain ⟨here, others⟩ := List.forall_mem_cons.mp whole
    cases rest with
    | nil =>
      have single : unwords [first] = first := by simp [unwords, List.intercalate]
      rw [single, words, pieces_solid here.solid]
      simp [here.nonempty]
    | cons next rest =>
      -- The blank behind the first word ends its piece, and the others come as they were.
      have further : (pieces (unwords (next :: rest))).filter (!·.isEmpty) = next :: rest :=
        ih others
      rw [unwords_cons, words, pieces_append here.solid, List.filter_cons_of_pos, further]
      simp [here.nonempty]

/-- Different words are written differently. -/
theorem unwords_inj {others : List (List Char)} (whole : ∀ part ∈ parts, IsWord part)
    (also : ∀ part ∈ others, IsWord part) : unwords parts = unwords others ↔ parts = others := by
  refine ⟨fun same => ?_, congrArg unwords⟩
  rw [← words_unwords whole, same, words_unwords also]

end BatchFlow.Text
