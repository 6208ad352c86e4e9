import BatchFlow.Proofs.Text.CaseTable
import BatchFlow.Proofs.Text.Words
import BatchFlow.Step

/-! Changing the case of a text that was changed already. The capital of a letter can be several
characters, and those behind the first one turn to lower case when the word is capitalized again;
by this a word of a title can turn into a minor word. Nothing else happens the second time, and
nothing at all the third time. -/

namespace BatchFlow.Text

/-- Whether each character is its own lower case. -/
def IsLower (characters : List Char) : Prop :=
  ∀ c ∈ characters, lowerChar c = [c]

section
variable {characters others before : List Char} {c d : Char}

/-- Inside a word, the capital sigma has a small letter of its own. -/
theorem lowerChar_sigma : lowerChar 'Σ' = ['σ'] := by
  decide +kernel

/-- There is no capital sigma in a text in lower case. -/
theorem IsLower.sigma_not_mem (low : IsLower characters) : 'Σ' ∉ characters := by
  intro member
  -- It would be its own lower case, and that is another letter.
  have same := low _ member
  rw [lowerChar_sigma] at same
  exact absurd same (by decide)

/-- Where there is no capital sigma, a character becomes the same wherever it stands. -/
theorem lowerFrom_eq_flatMap (plain : 'Σ' ∉ characters) (before : List Char) :
    lowerFrom before characters = characters.flatMap lowerChar := by
  induction characters generalizing before with
  | nil => rfl
  | cons c rest ih =>
    -- Only a capital sigma depends on what is around it.
    obtain ⟨other, further⟩ := List.ne_and_not_mem_of_not_mem_cons plain
    rw [lowerFrom, ih further, if_neg other.symm, List.flatMap_cons]

/-- Without a capital sigma, a text is put in lower case part by part. -/
theorem lower_append (plain : 'Σ' ∉ characters) (also : 'Σ' ∉ others) :
    lower (characters ++ others) = lower characters ++ lower others := by
  have neither : 'Σ' ∉ characters ++ others := by simp [plain, also]
  simp [lower, lowerFrom_eq_flatMap, plain, also, neither]

/-- A capital sigma with which a text begins does not end a word. -/
theorem lower_cons (plain : 'Σ' ∉ characters) :
    lower (c :: characters) = lowerChar c ++ lower characters := by
  rw [lower, lowerFrom, lower, lowerFrom_eq_flatMap plain, lowerFrom_eq_flatMap plain]
  -- No letter comes before it, whatever comes behind.
  split
  · next sigma =>
    rw [sigma, lowerChar_sigma]
    rfl
  · rfl

/-- A character of a text in lower case comes from one character, or is the sigma that ends a
word. -/
theorem mem_lowerFrom (member : d ∈ lowerFrom before characters) :
    (∃ c ∈ characters, d ∈ lowerChar c) ∨ d = 'ς' := by
  induction characters generalizing before with
  | nil => cases member
  | cons c rest ih =>
    rw [lowerFrom] at member
    rcases List.mem_append.mp member with here | further
    · split at here
      · next sigma =>
        -- Which sigma is written depends on whether the word goes on.
        rw [List.mem_singleton.mp here]
        split
        · exact .inr rfl
        · exact .inl ⟨c, List.mem_cons_self, by simp [sigma, lowerChar_sigma]⟩
      · exact .inl ⟨c, List.mem_cons_self, here⟩
    · rcases ih further with ⟨c, inside, image⟩ | final
      · exact .inl ⟨c, List.mem_cons_of_mem _ inside, image⟩
      · exact .inr final

/-- What was put in lower case is in lower case. -/
theorem isLower_lower (characters : List Char) : IsLower (lower characters) := by
  intro d member
  rcases mem_lowerFrom member with ⟨c, -, image⟩ | rfl
  · exact lowerChar_eq image
  · -- The sigma that ends a word is a small letter.
    decide +kernel

/-- A text in lower case stays as it is. -/
theorem IsLower.lower_eq (low : IsLower characters) : lower characters = characters := by
  rw [lower, lowerFrom_eq_flatMap low.sigma_not_mem, List.flatMap_congr low]
  -- No character of it is a capital sigma, so that each one is mapped by itself.
  exact List.flatMap_singleton' characters

/-- The lower case of a text is in lower case. -/
theorem lower_lower (characters : List Char) : lower (lower characters) = lower characters :=
  (isLower_lower characters).lower_eq

/-- The upper case of a text is in upper case. -/
theorem upper_upper (characters : List Char) : upper (upper characters) = upper characters := by
  -- What a character is mapped to is kept, character by character.
  rw [upper, upper, List.flatMap_assoc]
  refine List.flatMap_congr fun c _ => ?_
  rw [List.flatMap_congr fun d member => upperChar_eq member]
  exact List.flatMap_singleton' _

/-- A text without blanks has none in its lower case. -/
theorem solid_lower (solid : ∀ c ∈ characters, isBlank c = false) :
    ∀ d ∈ lower characters, isBlank d = false := by
  intro d member
  -- A sigma has a form of its own at the end of a word, which is no blank either.
  rcases mem_lowerFrom member with ⟨c, inside, image⟩ | rfl
  · exact solid_lowerChar (solid c inside) image
  · decide

/-- The lower case of a word is a word. -/
theorem IsWord.lower {word : List Char} (whole : IsWord word) : IsWord (lower word) where
  nonempty := by
    obtain ⟨c, rest, rfl⟩ := List.exists_cons_of_ne_nil whole.nonempty
    -- The first character gives at least one.
    intro empty
    have image := (List.append_eq_nil_iff.mp empty).1
    split at image
    · cases image
    · exact lowerChar_ne_nil c image
  solid := solid_lower whole.solid

end

section
variable {word : List Char} {capital : Char}

/-- Whether the capital with which a word begins is one character, or has only characters in lower
case behind the first, such as accents. -/
def PlainCapital : List Char → Prop
  | [] => True
  | first :: _ => lower (upperChar first).tail = (upperChar first).tail

instance : DecidablePred PlainCapital
  | [] => inferInstanceAs (Decidable True)
  | first :: _ => inferInstanceAs (Decidable (lower (upperChar first).tail = _))

/-- The capital of a letter begins with a character in upper case. -/
theorem exists_capital (first : Char) :
    ∃ capital tail, upperChar first = capital :: tail ∧ upperChar capital = [capital] ∧
      'Σ' ∉ tail := by
  -- No capital is empty, and all its letters are in upper case.
  obtain ⟨capital, tail, same⟩ := List.exists_cons_of_ne_nil (upperChar_ne_nil first)
  have member : capital ∈ upperChar first := same ▸ List.mem_cons_self
  exact ⟨capital, tail, same, upperChar_eq member,
    by simpa [same] using sigma_not_mem_tail first⟩

/-- A word that begins with a character in upper case keeps it. -/
theorem capitalize_cons (stable : upperChar capital = [capital]) (rest : List Char) :
    capitalize (capital :: rest) = capital :: lower rest := by
  rw [capitalize, stable]
  rfl

/-- A word keeps its form when it is capitalized again if and only if its capital is a plain one. -/
theorem capitalize_twice (word : List Char) :
    capitalize (capitalize word) = capitalize word ↔ PlainCapital word := by
  cases word with
  | nil => exact iff_of_true rfl trivial
  | cons first rest =>
    obtain ⟨capital, tail, same, stable, plain⟩ := exists_capital first
    have low := isLower_lower rest
    -- The rest is in lower case already, so that only the tail of the capital can change.
    rw [capitalize, same, List.cons_append, capitalize_cons stable,
      lower_append plain low.sigma_not_mem, lower_lower, PlainCapital, same]
    simp

/-- A word that was capitalized twice keeps its form. -/
theorem capitalize_thrice (word : List Char) :
    capitalize (capitalize (capitalize word)) = capitalize (capitalize word) := by
  cases word with
  | nil => rfl
  | cons first rest =>
    obtain ⟨capital, tail, same, stable, -⟩ := exists_capital first
    -- After the second time, everything behind the first character is in lower case.
    rw [capitalize, same, List.cons_append, capitalize_cons stable, capitalize_cons stable,
      lower_lower]

/-- A word has the same lower case after it was capitalized again. -/
theorem lower_capitalize_twice (word : List Char) :
    lower (capitalize (capitalize word)) = lower (capitalize word) := by
  cases word with
  | nil => rfl
  | cons first rest =>
    obtain ⟨capital, tail, same, stable, plain⟩ := exists_capital first
    -- What stands behind the first character is put in lower case as a whole.
    have neither : 'Σ' ∉ tail ++ lower rest := by
      simp [plain, (isLower_lower rest).sigma_not_mem]
    rw [capitalize, same, List.cons_append, capitalize_cons stable,
      lower_cons (isLower_lower _).sigma_not_mem, lower_lower, lower_cons neither]

/-- A capitalized word is a word. -/
theorem IsWord.capitalize (whole : IsWord word) : IsWord (capitalize word) := by
  obtain ⟨first, rest, rfl⟩ := List.exists_cons_of_ne_nil whole.nonempty
  obtain ⟨here, others⟩ := List.forall_mem_cons.mp whole.solid
  refine ⟨fun empty => ?_, List.forall_mem_append.mpr ⟨?_, solid_lower others⟩⟩
  · exact upperChar_ne_nil first (List.append_eq_nil_iff.mp empty).1
  · exact fun d => solid_upperChar here

/-- A capitalized word is no minor word. -/
theorem capitalize_not_mem_minorWords (word : List Char) : capitalize word ∉ minorWords := by
  intro member
  cases word with
  | nil => exact absurd member (by decide)
  | cons first rest =>
    obtain ⟨capital, tail, same, stable, -⟩ := exists_capital first
    -- A minor word begins with a small letter.
    have begins : minorWords.all (·.head?.all fun c => decide (upperChar c ≠ [c])) = true := by
      decide +kernel
    rw [capitalize, same] at member
    simpa [stable] using List.all_eq_true.mp begins _ member

/-- Whether a title keeps a word that is not its first one: a minor word, or a word with a plain
capital that does not turn into a minor word with it. -/
def KeptInTitle (word : List Char) : Prop :=
  lower word ∈ minorWords ∨ PlainCapital word ∧ lower (capitalize word) ∉ minorWords

instance : DecidablePred KeptInTitle :=
  fun _ => inferInstanceAs (Decidable (_ ∨ _ ∧ _))

/-- A word that is not the first of a title keeps its form when the title is changed again if and
only if the title keeps it. -/
theorem titleWord_twice (word : List Char) :
    titleWord (titleWord word) = titleWord word ↔ KeptInTitle word := by
  by_cases minor : lower word ∈ minorWords
  · -- A minor word is in lower case at once.
    simp [titleWord, KeptInTitle, minor, lower_lower]
  · by_cases turned : lower (capitalize word) ∈ minorWords
    · -- The word was capitalized at first, so that the minor word is a different one.
      have differs : lower (capitalize word) ≠ capitalize word := fun same =>
        capitalize_not_mem_minorWords word (same ▸ turned)
      simp [titleWord, KeptInTitle, minor, turned, differs]
    · simp [titleWord, KeptInTitle, minor, turned, capitalize_twice]

/-- A word of a title that was changed twice keeps its form. -/
theorem titleWord_thrice (word : List Char) :
    titleWord (titleWord (titleWord word)) = titleWord (titleWord word) := by
  by_cases minor : lower word ∈ minorWords
  · simp [titleWord, minor, lower_lower]
  · -- From the second time on it is either a minor word or a capitalized one.
    by_cases turned : lower (capitalize word) ∈ minorWords
    · simp [titleWord, minor, turned, lower_lower]
    · simp [titleWord, minor, turned, lower_capitalize_twice, capitalize_thrice]

/-- A word of a title is a word. -/
theorem IsWord.titleWord (whole : IsWord word) : IsWord (titleWord word) := by
  unfold Text.titleWord
  split
  · exact whole.lower
  · exact whole.capitalize

/-- Capitalized words are words. -/
theorem isWord_capitalized {parts : List (List Char)} (whole : ∀ part ∈ parts, IsWord part) :
    ∀ part ∈ parts.map capitalize, IsWord part :=
  List.forall_mem_map.mpr fun part member => (whole part member).capitalize

/-- The words of a title are words. -/
theorem isWord_titleWords {parts : List (List Char)} (whole : ∀ part ∈ parts, IsWord part) :
    ∀ part ∈ titleWords parts, IsWord part := by
  cases parts with
  | nil => nofun
  | cons first rest =>
    obtain ⟨here, others⟩ := List.forall_mem_cons.mp whole
    -- The first word is capitalized even where it is a minor one.
    refine List.forall_mem_cons.mpr ⟨here.capitalize, List.forall_mem_map.mpr fun part member => ?_⟩
    exact (others part member).titleWord

/-- Whether a title keeps all its words. -/
def KeptAsTitle : List (List Char) → Prop
  | [] => True
  | first :: rest => PlainCapital first ∧ ∀ word ∈ rest, KeptInTitle word

instance : DecidablePred KeptAsTitle
  | [] => inferInstanceAs (Decidable True)
  | _ :: _ => inferInstanceAs (Decidable (_ ∧ ∀ _ ∈ _, _))

/-- The words of a title keep their form when it is changed again if and only if a title keeps them
all. -/
theorem titleWords_twice (parts : List (List Char)) :
    titleWords (titleWords parts) = titleWords parts ↔ KeptAsTitle parts := by
  cases parts with
  | nil => exact iff_of_true rfl trivial
  | cons first rest => simp [titleWords, KeptAsTitle, capitalize_twice, titleWord_twice]

/-- The words of a title that was changed twice keep their form. -/
theorem titleWords_thrice (parts : List (List Char)) :
    titleWords (titleWords (titleWords parts)) = titleWords (titleWords parts) := by
  cases parts with
  | nil => rfl
  | cons first rest => simp [titleWords, capitalize_thrice, titleWord_thrice]

/-- The upper case of an ASCII character is one character, with the same lower case. -/
theorem upperChar_ascii {c : Char} (ascii : c.toNat < 128) :
    ∃ capital, upperChar c = [capital] ∧ lowerChar capital = lowerChar c := by
  by_cases letter : c.toNat ∈ lettersOf upperRuns upperExpansions
  · -- The table has few letters among the ASCII characters, and they are looked at one by one.
    have table : ∀ code ∈ (lettersOf upperRuns upperExpansions).filter (· < 128),
        (upperChar (.ofNat code)).tail = [] ∧
          (upperChar (.ofNat code)).flatMap lowerChar = lowerChar (.ofNat code) := by
      decide +kernel
    obtain ⟨single, same⟩ := table _ (List.mem_filter.mpr ⟨letter, by simpa using ascii⟩)
    obtain ⟨capital, tail, image, -⟩ := exists_capital c
    rw [Char.ofNat_toNat, image] at single same
    cases single
    exact ⟨capital, image, by simpa using same⟩
  · -- What is no letter is its own capital.
    exact ⟨c, mapCase_of_not_mem letter, rfl⟩

/-- A word that begins with an ASCII character has a plain capital. -/
theorem plainCapital_of_ascii (ascii : ∀ c ∈ word, c.toNat < 128) : PlainCapital word := by
  cases word with
  | nil => trivial
  | cons first rest =>
    obtain ⟨capital, image, -⟩ := upperChar_ascii (ascii first List.mem_cons_self)
    rw [PlainCapital, image]
    rfl

/-- A word of ASCII characters has the same lower case when it was capitalized before. -/
theorem lower_capitalize_of_ascii (ascii : ∀ c ∈ word, c.toNat < 128) :
    lower (capitalize word) = lower word := by
  cases word with
  | nil => rfl
  | cons first rest =>
    obtain ⟨here, others⟩ := List.forall_mem_cons.mp ascii
    obtain ⟨capital, image, same⟩ := upperChar_ascii here
    -- No sigma is an ASCII character.
    have plain : 'Σ' ∉ rest := fun sigma => absurd (others _ sigma) (by decide)
    rw [capitalize, image, List.singleton_append, lower_cons (isLower_lower rest).sigma_not_mem,
      lower_lower, same, lower_cons plain]

/-- A title keeps a word of ASCII characters. -/
theorem keptInTitle_of_ascii (ascii : ∀ c ∈ word, c.toNat < 128) : KeptInTitle word := by
  rw [KeptInTitle, lower_capitalize_of_ascii ascii]
  exact (em _).imp_right fun major => ⟨plainCapital_of_ascii ascii, major⟩

/-- A title keeps words of ASCII characters. -/
theorem keptAsTitle_of_ascii {parts : List (List Char)}
    (ascii : ∀ word ∈ parts, ∀ c ∈ word, c.toNat < 128) : KeptAsTitle parts := by
  cases parts with
  | nil => trivial
  | cons first rest =>
    obtain ⟨here, others⟩ := List.forall_mem_cons.mp ascii
    exact ⟨plainCapital_of_ascii here, fun word member => keptInTitle_of_ascii (others word member)⟩

end

namespace Casing

/-- Whether a text has nothing in it that takes another form when the text is changed again: a word
without a plain capital, or one that a title turns into a minor word. -/
def Keeps (casing : Casing) (characters : List Char) : Prop :=
  match casing with
  | .upper | .lower => True
  | .proper => ∀ word ∈ words characters, PlainCapital word
  | .title => KeptAsTitle (words characters)

section
variable (characters : List Char)

/-- The words of a text in proper case are those of the text, each with a capital. -/
theorem words_proper :
    words (proper.convertChars characters) = (words characters).map capitalize :=
  words_unwords (isWord_capitalized fun _ => isWord_of_mem_words)

/-- The words of a text in title case are those of the title made of the text. -/
theorem words_title :
    words (title.convertChars characters) = titleWords (words characters) :=
  words_unwords (isWord_titleWords fun _ => isWord_of_mem_words)

/-- The characters of a text that was changed once are their own change if and only if the text
keeps its form. -/
theorem convertChars_twice (casing : Casing) :
    casing.convertChars (casing.convertChars characters) = casing.convertChars characters ↔
      casing.Keeps characters := by
  have whole : ∀ word ∈ words characters, IsWord word := fun _ => isWord_of_mem_words
  -- Texts written as words are the same exactly if the words are.
  cases casing with
  | upper => exact iff_of_true (upper_upper characters) trivial
  | lower => exact iff_of_true (lower_lower characters) trivial
  | proper =>
    show unwords ((words (proper.convertChars characters)).map capitalize) = unwords _ ↔ _
    have once := isWord_capitalized whole
    rw [words_proper, unwords_inj (isWord_capitalized once) once, List.map_map, List.map_inj_left]
    exact forall₂_congr fun word _ => capitalize_twice word
  | title =>
    show unwords (titleWords (words (title.convertChars characters))) = unwords _ ↔ _
    have once := isWord_titleWords whole
    rw [words_title, unwords_inj (isWord_titleWords once) once]
    exact titleWords_twice _

/-- The characters of a text that was changed twice are their own change. -/
theorem convertChars_thrice (casing : Casing) :
    casing.convertChars (casing.convertChars (casing.convertChars characters)) =
      casing.convertChars (casing.convertChars characters) := by
  cases casing with
  | upper => exact upper_upper _
  | lower => exact lower_lower _
  | proper =>
    show unwords ((words (proper.convertChars _)).map capitalize) = unwords ((words _).map _)
    -- What was written is parted into the same words again, so that only the words count.
    simp only [words_proper, List.map_map]
    exact congrArg unwords (List.map_congr_left fun word _ => capitalize_thrice word)
  | title =>
    show unwords (titleWords (words (title.convertChars _))) = unwords (titleWords (words _))
    rw [words_title, words_title, titleWords_thrice]

end

instance (casing : Casing) (characters : List Char) : Decidable (casing.Keeps characters) :=
  match casing with
  | .upper | .lower => inferInstanceAs (Decidable True)
  | .proper => inferInstanceAs (Decidable (∀ _ ∈ _, _))
  | .title => inferInstanceAs (Decidable (KeptAsTitle _))

/-- A text that was changed is its own change exactly if it keeps its form. -/
theorem convert_twice (casing : Casing) (text : String) :
    casing.convert (casing.convert text) = casing.convert text ↔ casing.Keeps text.toList := by
  simp [convert, String.ofList_inj, convertChars_twice]

-- The capital of the first letter has an accent behind it, and that of the second one a letter.
example : proper.Keeps "ǰa".toList ∧ ¬ proper.Keeps "ßa".toList := by
  decide +kernel

/-- A text that was changed twice is its own change. -/
theorem convert_thrice (casing : Casing) (text : String) :
    casing.convert (casing.convert (casing.convert text)) =
      casing.convert (casing.convert text) := by
  simp [convert, convertChars_thrice]

/-- A text of ASCII characters keeps its form. -/
theorem keeps_of_ascii {characters : List Char} (casing : Casing)
    (ascii : ∀ c ∈ characters, c.toNat < 128) : casing.Keeps characters := by
  -- The characters of a word are characters of the text.
  have within : ∀ word ∈ words characters, ∀ c ∈ word, c.toNat < 128 :=
    fun word member c belongs => ascii c (mem_of_mem_words member c belongs)
  cases casing with
  | upper | lower => trivial
  | proper => exact fun word member => plainCapital_of_ascii (within word member)
  | title => exact keptAsTitle_of_ascii within

end Casing

end BatchFlow.Text

namespace BatchFlow.Step

open Text (Casing)

/-- A step that changes the case of text gives a text that it changes no more exactly where the
text keeps its form, and anyhow when it has changed it twice. -/
theorem changeCase_settles (casing : Casing) (text : String) :
    ∃ once twice : String,
      (changeCase casing).resultFor (.string text) = .ok [.string once] ∧
      (changeCase casing).resultFor (.string once) = .ok [.string twice] ∧
      (twice = once ↔ casing.Keeps text.toList) ∧
      (changeCase casing).resultFor (.string twice) = .ok [.string twice] := by
  -- The step does nothing but convert the text, so these are facts about the conversion.
  refine ⟨casing.convert text, casing.convert (casing.convert text), rfl, rfl,
    casing.convert_twice text, ?_⟩
  exact congrArg (fun done => Except.ok [Item.string done]) (casing.convert_thrice text)

/-- The capital of a sharp s is two letters, and a minor word can be written with a dotless i. -/
theorem changeCase_differs :
    ((changeCase .proper).resultFor (.string "ßa") = .ok [.string "SSa"] ∧
      (changeCase .proper).resultFor (.string "SSa") = .ok [.string "Ssa"]) ∧
    ((changeCase .title).resultFor (.string "x ın") = .ok [.string "X In"] ∧
      (changeCase .title).resultFor (.string "X In") = .ok [.string "X in"]) ∧
    "Ssa" ≠ "SSa" ∧ "X in" ≠ "X In" := by
  have result : ∀ {casing : Casing} {text done : String}, casing.convert text = done →
      (changeCase casing).resultFor (.string text) = .ok [.string done] := by
    -- A text is converted by itself, and the step returns it as the only output.
    rintro casing text _ rfl
    rfl
  refine ⟨⟨result ?_, result ?_⟩, ⟨result ?_, result ?_⟩, ?_, ?_⟩
  all_goals decide +kernel

end BatchFlow.Step
