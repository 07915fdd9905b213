import DatePattern.Text.Lowercase
import DatePattern.Proofs.Text.CharClasses
import DatePattern.Proofs.Text.Taken

/-!
Case variants: a name matches a text in any case just if the text begins with the name in lower case.

This takes characters that match just as their small letters are equal, as those of ASCII do.
-/

namespace DatePattern.Text

/-- The small letter of a character, if it is the same wherever the character stands. -/
def smallLetter? (c : Char) : Option Char :=
  -- A capital sigma has one small letter inside a word and another at its end.
  if c = '\u03A3' then none
  else match lowerChar c with
    | [small] => some small
    | _ => none

/-- Names and a text whose characters match just as their small letters are equal. -/
structure CaseAlike (names : List (List Char)) (text : List Char) : Prop where
  /-- Each character of the text is one character in lower case. -/
  single : ∀ c ∈ text, (lowerChar c).length = 1
  /-- A character of a name, which is tried in lower case, matches those whose small letter it is. -/
  alike : ∀ name ∈ names, ∀ n ∈ lowercase name, ∀ c ∈ text,
    foldCase n = foldCase c ↔ smallLetter? c = some n

instance (names : List (List Char)) (text : List Char) : Decidable (CaseAlike names text) :=
  -- The characters of the lists are tried, and not all characters that there are.
  decidable_of_iff
    ((text.all fun c => (lowerChar c).length = 1) = true ∧
      (names.all fun name => (lowercase name).all fun n => text.all fun c =>
        foldCase n = foldCase c ↔ smallLetter? c = some n) = true) <| by
      simp only [List.all_eq_true, decide_eq_true_eq]
      exact ⟨fun ⟨single, alike⟩ => ⟨single, alike⟩, fun ⟨single, alike⟩ => ⟨single, alike⟩⟩

/-- A character with a small letter of its own is in lower case that letter. -/
theorem lowercaseAfter_cons {c small : Char} (own : smallLetter? c = some small)
    (before text : List Char) :
    lowercaseAfter before (c :: text) = small :: lowercaseAfter (c :: before) text := by
  unfold smallLetter? at own
  split at own
  · cases own
  next notSigma =>
    -- A capital sigma depends on what is around it, and has no small letter of its own.
    split at own
    next lower =>
      cases own
      rw [lowercaseAfter, if_neg notSigma, lower]
      rfl
    · cases own

/-- What a character is in lower case: its small letter, or one of the two forms of sigma. -/
theorem lowercaseAfter_cons_cases {c : Char} (single : (lowerChar c).length = 1)
    (before text : List Char) :
    ∃ small, lowercaseAfter before (c :: text) = small :: lowercaseAfter (c :: before) text ∧
      (smallLetter? c = some small ∨ foldCase small = foldCase c) := by
  by_cases sigma : c = '\u03A3'
  · -- Both forms match the capital.
    rw [sigma, lowercaseAfter, if_pos rfl]
    split
    · exact ⟨'\u03C2', rfl, .inr (by decide +kernel)⟩
    · exact ⟨'\u03C3', rfl, .inr (by decide +kernel)⟩
  · obtain ⟨small, lower⟩ := List.length_eq_one_iff.mp single
    have own : smallLetter? c = some small := by rw [smallLetter?, if_neg sigma, lower]
    exact ⟨small, lowercaseAfter_cons own before text, .inl own⟩

/-- Characters that are one character each in lower case make a text of the same length. -/
theorem length_lowercaseAfter {text : List Char} (single : ∀ c ∈ text, (lowerChar c).length = 1)
    (before : List Char) : (lowercaseAfter before text).length = text.length := by
  -- Each character becomes one character, whatever comes before it.
  induction text generalizing before with
  | nil => rfl
  | cons c text ih =>
    obtain ⟨small, lower, -⟩ := lowercaseAfter_cons_cases (single c List.mem_cons_self) before text
    rw [lower, List.length_cons, List.length_cons,
      ih fun other listed => single other (List.mem_cons_of_mem _ listed)]

/-- Only the empty text is empty in lower case. -/
theorem lowercase_eq_nil_iff {text : List Char} : lowercase text = [] ↔ text = [] := by
  constructor
  · intro none
    cases text with
    | nil => rfl
    | cons c text =>
      rw [lowercase, lowercaseAfter, List.append_eq_nil_iff] at none
      -- No character is dropped.
      have kept : lowerChar c ≠ [] := by
        unfold lowerChar
        split
        · exact List.cons_ne_nil _ _
        · split <;> exact List.cons_ne_nil _ _
      have dropped := none.1
      split at dropped
      -- The sigma becomes one of its two small letters, and other characters what they are in lower
      -- case.
      · split at dropped <;> cases dropped
      · exact absurd dropped kept
  · rintro rfl
    rfl

section Alike

variable {key : List Char}

/-- What a key matches at the front of a text is the key in lower case, whatever stands around it. -/
theorem lowercaseAfter_of_matched {taken : List Char}
    (alike : ∀ n ∈ key, ∀ c ∈ taken, foldCase n = foldCase c ↔ smallLetter? c = some n)
    (matched : key.map foldCase = taken.map foldCase) (before rest : List Char) :
    ∃ later, lowercaseAfter before (taken ++ rest) = key ++ lowercaseAfter later rest := by
  -- Key and text give up one character each at a time.
  induction key generalizing taken before with
  | nil =>
    rw [List.map_eq_nil_iff.mp matched.symm]
    exact ⟨before, rfl⟩
  | cons n key ih =>
    cases taken with
    | nil => cases matched
    | cons c taken =>
      obtain ⟨first, matched⟩ := List.cons.inj matched
      have own := (alike n List.mem_cons_self c List.mem_cons_self).mp first
      have others : ∀ n ∈ key, ∀ c ∈ taken, foldCase n = foldCase c ↔ smallLetter? c = some n :=
        fun n among c listed =>
          alike n (List.mem_cons_of_mem _ among) c (List.mem_cons_of_mem _ listed)
      obtain ⟨later, lower⟩ := ih others matched (c :: before)
      refine ⟨later, ?_⟩
      rw [List.cons_append, lowercaseAfter_cons own, lower]
      rfl

/-- A text that begins in lower case with a key is matched by it. -/
theorem exists_matched_of_prefix {text : List Char}
    (single : ∀ c ∈ text, (lowerChar c).length = 1)
    (alike : ∀ n ∈ key, ∀ c ∈ text, foldCase n = foldCase c ↔ smallLetter? c = some n)
    {before : List Char} (begins : key <+: lowercaseAfter before text) :
    ∃ taken rest, text = taken ++ rest ∧ key.map foldCase = taken.map foldCase := by
  -- As above, with one character of the key for each of the text.
  induction key generalizing text before with
  | nil => exact ⟨[], text, rfl, rfl⟩
  | cons n key ih =>
    cases text with
    | nil => cases List.prefix_nil.mp begins
    | cons c text =>
      have apart := alike n List.mem_cons_self c List.mem_cons_self
      obtain ⟨small, lower, kind⟩ :=
        lowercaseAfter_cons_cases (single c List.mem_cons_self) before text
      rw [lower, List.cons_prefix_cons] at begins
      obtain ⟨rfl, begins⟩ := begins
      -- A form of sigma in the key would match a capital that has no small letter of its own.
      have first : foldCase n = foldCase c := by
        rcases kind with own | same
        · exact apart.mpr own
        · exact same
      have others : ∀ n ∈ key, ∀ c ∈ text, foldCase n = foldCase c ↔ smallLetter? c = some n :=
        fun n among c listed =>
          alike n (List.mem_cons_of_mem _ among) c (List.mem_cons_of_mem _ listed)
      obtain ⟨taken, rest, rfl, matched⟩ :=
        ih (fun c listed => single c (List.mem_cons_of_mem _ listed)) others begins
      exact ⟨c :: taken, rest, rfl, by rw [List.map_cons, List.map_cons, first, matched]⟩

end Alike

namespace CaseAlike

variable {names : List (List Char)} {name text taken rest : List Char}

/-- What a name takes from a text is the name in lower case, with which the text begins in lower case. -/
theorem lowercase_of_takeFolded? (alike : CaseAlike names text) (listed : name ∈ names)
    (found : takeFolded? (lowercase name) text = some (taken, rest)) :
    lowercase taken = lowercase name ∧ lowercase name <+: lowercase text := by
  obtain ⟨rfl, matched⟩ := takeFolded?_eq_some_iff.mp found
  have pairs : ∀ n ∈ lowercase name, ∀ c ∈ taken,
      foldCase n = foldCase c ↔ smallLetter? c = some n :=
    fun n among c inside => alike.alike name listed n among c (List.mem_append_left _ inside)
  -- The front is put in lower case once by itself, and once with the rest of the text after it.
  constructor
  · obtain ⟨later, whole⟩ := lowercaseAfter_of_matched pairs matched [] []
    rw [List.append_nil] at whole
    rw [lowercase, whole]
    exact List.append_nil _
  · obtain ⟨later, front⟩ := lowercaseAfter_of_matched pairs matched [] rest
    exact ⟨_, front.symm⟩

/-- A name takes something from a text just if the text begins with it in lower case. -/
theorem takeFolded?_isSome_iff (alike : CaseAlike names text) (listed : name ∈ names) :
    (takeFolded? (lowercase name) text).isSome = true ↔ lowercase name <+: lowercase text := by
  -- What is taken begins the text in lower case, and what begins it there can be taken.
  rw [Option.isSome_iff_exists]
  constructor
  · rintro ⟨⟨taken, rest⟩, found⟩
    exact (alike.lowercase_of_takeFolded? listed found).2
  · intro begins
    obtain ⟨taken, rest, split, matched⟩ :=
      exists_matched_of_prefix alike.single (alike.alike name listed) begins
    exact ⟨(taken, rest), takeFolded?_eq_some_iff.mpr ⟨split, matched⟩⟩

end CaseAlike

section Ascii

variable {text : List Char}

/-- The small letter of a character of ASCII is one of ASCII, and its own small letter. -/
theorem lowerAscii_facts {c : Char} (ascii : c.toNat < 0x80) :
    (lowerAscii c).toNat < 0x80 ∧ lowerAscii (lowerAscii c) = lowerAscii c := by
  -- Only the capitals change, and each of them is looked at.
  have each : ∀ code ∈ List.range' 65 26, (lowerAscii (Char.ofNat code)).toNat < 0x80 := by decide
  refine ⟨?_, lowerAscii_lowerAscii c⟩
  rcases lowerAscii_eq_or_capital c with same | ⟨code, listed, rfl⟩
  · rwa [same]
  · exact each code listed

/-- A character of ASCII has the same small letter everywhere. -/
theorem smallLetter?_of_ascii {c : Char} (ascii : c.toNat < 0x80) :
    smallLetter? c = some (lowerAscii c) := by
  -- The sigma, which has two small letters, is not of ASCII.
  have notSigma : c ≠ '\u03A3' := by
    rintro rfl
    exact absurd ascii (by decide)
  rw [smallLetter?, if_neg notSigma, lowerChar, if_pos ascii]

/-- In ASCII each capital becomes its small letter. -/
theorem lowercaseAfter_of_ascii (ascii : ∀ c ∈ text, c.toNat < 0x80) (before : List Char) :
    lowercaseAfter before text = text.map lowerAscii := by
  -- Each character has a small letter of its own, whatever comes before it.
  induction text generalizing before with
  | nil => rfl
  | cons c text ih =>
    rw [lowercaseAfter_cons (smallLetter?_of_ascii (ascii c List.mem_cons_self)), List.map_cons,
      ih fun other listed => ascii other (List.mem_cons_of_mem _ listed)]

/-- Characters of ASCII match just as their small letters are equal. -/
theorem CaseAlike.of_ascii {names : List (List Char)}
    (asciiNames : ∀ name ∈ names, ∀ c ∈ name, c.toNat < 0x80)
    (asciiText : ∀ c ∈ text, c.toNat < 0x80) : CaseAlike names text where
  single := fun c listed => by rw [lowerChar, if_pos (asciiText c listed)]; rfl
  alike := by
    intro name listed n among c inside
    rw [lowercase, lowercaseAfter_of_ascii (asciiNames name listed)] at among
    obtain ⟨letter, ofName, rfl⟩ := List.mem_map.mp among
    obtain ⟨ascii, same⟩ := lowerAscii_facts (asciiNames name listed letter ofName)
    -- Within ASCII a character is folded to its small letter.
    rw [foldCase, if_pos ascii, same, foldCase, if_pos (asciiText c inside),
      smallLetter?_of_ascii (asciiText c inside), Option.some.injEq]
    exact eq_comm

end Ascii

end DatePattern.Text
