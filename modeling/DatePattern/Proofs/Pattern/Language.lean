import DatePattern.Proofs.Pattern.Runs

/-! The language of patterns: which runs of letters have a meaning, and which one is at fault first. -/

namespace DatePattern

/-- Why a token has no meaning, if it has none. -/
def Token.fault? : Token → Option PatternError
  | .literal _ => none
  | .letters letter width =>
    if letter ∉ "GyYMdHhKkmsSEuDFwWazZXn".toList then
      some (.illegalComponent (String.ofList (List.replicate width letter)))
    else if letter = 'X' ∧ (width = 0 ∨ 3 < width) then some .invalidIsoWidth
    else if letter = 'n' ∧ 9 < width then some (.invalidFractionWidth width)
    else none

namespace Pattern

/-- Why a pattern has no meaning, if it has none. -/
def fault? (pattern : List Char) : Option PatternError :=
  match Mark.scan? false pattern with
  | none => some .unterminatedQuote
  | some marks => (Token.ofMarks marks).findSome? Token.fault?

/-- A run of one letter in a pattern: outside quotes, and as long as it can be. -/
structure Run (pattern front : List Char) (letter : Char) (width : Nat) (after : List Char) :
    Prop where
  /-- The pattern is the run with what comes before it and after it. -/
  split : pattern = front ++ (List.replicate width letter ++ after)
  /-- Every quotation before the run is closed. -/
  outside : front.count '\x27' % 2 = 0
  /-- The run does not begin earlier. -/
  begins : front.getLast? ≠ some letter
  /-- The run does not end later. -/
  ends : after.head? ≠ some letter
  /-- The character is a letter. -/
  isLetter : Text.isAsciiLetter letter = true
  /-- There is at least one. -/
  positive : 0 < width

/-- A pattern with a meaning: quotes in pairs, and known letters of known widths outside them. -/
structure Meant (pattern : List Char) : Prop where
  /-- The quotes are even in number. -/
  quotes : pattern.count '\x27' % 2 = 0
  /-- Every run is of a letter that stands for something. -/
  letters : ∀ front letter width after, Run pattern front letter width after →
    letter ∈ "GyYMdHhKkmsSEuDFwWazZXn".toList
  /-- Runs of the letter X have at most three letters. -/
  iso : ∀ front width after, Run pattern front 'X' width after → width ≤ 3
  /-- Runs of the letter n have at most nine letters. -/
  fraction : ∀ front width after, Run pattern front 'n' width after → width ≤ 9

/-- The reason for which a pattern has no meaning: an open quote, or else its leftmost faulty run. -/
inductive Refused (pattern : List Char) : PatternError → Prop
  /-- The quotes are odd in number. -/
  | quote (odd : pattern.count '\x27' % 2 = 1) : Refused pattern .unterminatedQuote
  /-- The quotes are even in number, a run has no meaning, and all runs before it have one. -/
  | run {front after : List Char} {letter : Char} {width : Nat} {reason : PatternError}
      (even : pattern.count '\x27' % 2 = 0) (run : Run pattern front letter width after)
      (faulty : (Token.letters letter width).fault? = some reason)
      (leftmost : ∀ front' letter' width' after', Run pattern front' letter' width' after' →
        front'.length < front.length → (Token.letters letter' width').fault? = none) :
      Refused pattern reason

namespace Run

variable {pattern front after front' after' : List Char} {letter letter' : Char} {width width' : Nat}

/-- A run that begins before another one is a run of the text before that one. -/
theorem of_earlier (run : Run pattern front letter width after)
    (other : Run pattern front' letter' width' after') (earlier : front'.length < front.length) :
    ∃ between, Run front front' letter' width' between := by
  have both : front' ++ (List.replicate width' letter' ++ after') =
      front ++ (List.replicate width letter ++ after) := other.split.symm.trans run.split
  -- The earlier run cannot reach into the later one, which would not begin there.
  rcases List.append_eq_append_iff.mp both with ⟨middle, rfl, same⟩ | ⟨middle, rfl, -⟩
  · rcases List.append_eq_append_iff.mp same with ⟨between, rfl, follows⟩ | ⟨inner, cut, rest⟩
    · refine ⟨between, rfl, other.outside, other.begins, ?_, other.isLetter, other.positive⟩
      -- What ends the run in the whole pattern ends it in the front as well.
      intro continued
      obtain ⟨tail, rfl⟩ := List.head?_eq_some_iff.mp continued
      exact other.ends (by rw [follows]; rfl)
    · have nonempty : middle ≠ [] := by
        rintro rfl
        simp at earlier
      have onlyLetters : ∀ c ∈ middle ++ inner, c = letter' := by
        intro c listed
        exact List.eq_of_mem_replicate (cut ▸ listed)
      have last : (front' ++ middle).getLast? = some letter' := by
        obtain ⟨before, c, rfl⟩ := (List.eq_nil_or_concat middle).resolve_left nonempty
        rw [List.concat_eq_append, ← List.append_assoc, List.getLast?_concat]
        exact congrArg some (onlyLetters c (by simp))
      cases inner with
      | nil =>
        -- The earlier run ends just where the later one begins.
        refine ⟨[], ?_, other.outside, other.begins, by simp, other.isLetter, other.positive⟩
        rw [cut]
        simp
      | cons c inner =>
        -- The later run would begin with a letter that also stands before it.
        have same : c = letter' := onlyLetters c (by simp)
        obtain ⟨less, rfl⟩ := Nat.exists_eq_add_one.mpr run.positive
        obtain ⟨rfl, -⟩ := List.cons.inj rest
        exact absurd (same ▸ last) run.begins
  · rw [List.length_append] at earlier
    omega

/-- A run of the text before another run is a run of the whole pattern. -/
theorem of_front (run : Run pattern front letter width after)
    (inner : Run front front' letter' width' after') :
    Run pattern front' letter' width' (after' ++ (List.replicate width letter ++ after)) := by
  refine ⟨?_, inner.outside, inner.begins, ?_, inner.isLetter, inner.positive⟩
  · rw [run.split, inner.split, List.append_assoc, List.append_assoc]
  · obtain ⟨less, rfl⟩ := Nat.exists_eq_add_one.mpr run.positive
    intro continued
    cases after' with
    | cons c after' => exact inner.ends continued
    | nil =>
      -- The two runs would be one.
      obtain ⟨less', rfl⟩ := Nat.exists_eq_add_one.mpr inner.positive
      cases continued
      apply run.begins
      rw [inner.split, List.append_nil, List.replicate_succ', ← List.append_assoc,
        List.getLast?_concat]

/-- A run is a token between the tokens of what comes before and after it. -/
theorem ofMarks_eq (run : Run pattern front letter width after) {marks : List Mark}
    (scanned : Mark.scan? false pattern = some marks) :
    ∃ left right, Mark.scan? false front = some left ∧
      Token.ofMarks marks = Token.ofMarks left ++ .letters letter width :: Token.ofMarks right := by
  obtain ⟨left, before⟩ := Mark.exists_scan? run.outside
  -- The text is scanned up to the run, through it and after it, since no quote joins the parts.
  have notQuote : (List.replicate width letter ++ after).head? ≠ some '\x27' := by
    obtain ⟨less, rfl⟩ := Nat.exists_eq_add_one.mpr run.positive
    intro quote
    cases quote
    exact absurd run.isLetter (by decide)
  rw [run.split, Mark.scan?_append before notQuote, Mark.scan?_replicate run.isLetter,
    Option.map_map] at scanned
  obtain ⟨right, later, rfl⟩ := Option.map_eq_some_iff.mp scanned
  refine ⟨left, right, before, Token.ofMarks_run run.positive ?_ ?_⟩
  · exact fun last => run.begins (Mark.getLast?_of_scan? before last)
  · exact fun first => run.ends (Mark.head?_of_scan? later first)

/-- A token of letters is a run of the pattern, after the text of the tokens before it. -/
theorem of_ofMarks {marks : List Mark} {left right : List Token}
    (scanned : Mark.scan? false pattern = some marks)
    (made : Token.ofMarks marks = left ++ .letters letter width :: right) :
    ∃ front after earlier, Run pattern front letter width after ∧
      Mark.scan? false front = some earlier ∧ Token.ofMarks earlier = left := by
  obtain ⟨before, later, rfl, earlier, -, positive, begins, ends⟩ := Token.split_ofMarks made
  obtain ⟨less, rfl⟩ := Nat.exists_eq_add_one.mpr positive
  obtain ⟨front, rest, rfl, beforeIs, restIs, isLetter⟩ := Mark.split_of_scan? scanned
  obtain ⟨after, rfl, afterIs⟩ := Mark.replicate_of_scan? restIs
  have outside : front.count '\x27' % 2 = 0 := Mark.even_of_scan? beforeIs
  refine ⟨front, after, before, ⟨rfl, outside, ?_, ?_, isLetter, positive⟩, beforeIs, earlier⟩
  · -- A letter at the end of the text before would be a mark of the run as well.
    intro last
    obtain ⟨start, rfl⟩ := List.getLast?_eq_some_iff.mp last
    have plain : letter ≠ '\x27' := by
      rintro rfl
      exact absurd isLetter (by decide)
    have even : start.count '\x27' % 2 = 0 := by
      rwa [List.count_append, List.count_singleton, if_neg (by simpa using plain)] at outside
    obtain ⟨marks, startIs⟩ := Mark.exists_scan? even
    have again : Mark.scan? false (start ++ [letter]) = _ :=
      Mark.scan?_append startIs (by simpa using plain)
    rw [beforeIs, Mark.scan?_letter isLetter] at again
    cases again
    exact begins (by simp)
  · -- Nor can the letter come right after the run.
    intro first
    obtain ⟨tail, rfl⟩ := List.head?_eq_some_iff.mp first
    rw [Mark.scan?_letter isLetter] at afterIs
    obtain ⟨marks, -, rfl⟩ := Option.map_eq_some_iff.mp afterIs
    exact ends rfl

end Run

/-- The fault of the first faulty token is that of the leftmost faulty run. -/
theorem findSome?_fault?_iff {pattern : List Char} {marks : List Mark}
    (scanned : Mark.scan? false pattern = some marks) (reason : PatternError) :
    (Token.ofMarks marks).findSome? Token.fault? = some reason ↔ Refused pattern reason := by
  have even := Mark.even_of_scan? scanned
  constructor
  · intro first
    obtain ⟨left, token, right, made, faulty, sound⟩ := List.findSome?_eq_some_iff.mp first
    cases token with
    | literal text => cases faulty
    | letters letter width =>
      obtain ⟨front, after, earlier, run, frontIs, rfl⟩ := Run.of_ofMarks scanned made
      refine .run even run faulty ?_
      -- A run further left is a token before the faulty one.
      intro front' letter' width' after' other shorter
      obtain ⟨between, inner⟩ := run.of_earlier other shorter
      obtain ⟨_, _, -, split⟩ := inner.ofMarks_eq frontIs
      exact sound _ (by rw [split]; simp)
  · rintro (odd | ⟨-, run, faulty, leftmost⟩)
    · omega
    · obtain ⟨left, right, frontIs, made⟩ := run.ofMarks_eq scanned
      rw [made]
      refine List.findSome?_eq_some_iff.mpr ⟨_, _, _, rfl, faulty, ?_⟩
      -- A token before the run is a run further left.
      intro token listed
      cases token with
      | literal text => rfl
      | letters letter' width' =>
        obtain ⟨before, later, split⟩ := List.append_of_mem listed
        obtain ⟨front', after', -, inner, -, -⟩ := Run.of_ofMarks frontIs split
        refine leftmost _ _ _ _ (run.of_front inner) ?_
        have positive := inner.positive
        rw [inner.split]
        simp only [List.length_append, List.length_replicate]
        omega

/-- A run of letters is sound if its letter is known, and of a known width. -/
theorem fault?_letters_eq_none_iff {letter : Char} {width : Nat} (positive : 0 < width) :
    (Token.letters letter width).fault? = none ↔
      letter ∈ "GyYMdHhKkmsSEuDFwWazZXn".toList ∧ (letter = 'X' → width ≤ 3) ∧
        (letter = 'n' → width ≤ 9) := by
  rw [Token.fault?]
  -- An unknown letter is at fault before its width is looked at.
  split
  next unknown => simp only [reduceCtorEq, unknown, false_and]
  next known =>
    rw [Decidable.not_not] at known
    simp only [known, true_and]
    -- Of the known letters only two have a limit to their width, X and n.
    split
    next iso =>
      obtain ⟨rfl, outside⟩ := iso
      simp only [reduceCtorEq, forall_const, false_iff]
      omega
    next iso =>
      have narrow : letter = 'X' → width ≤ 3 := by
        intro same
        have := not_and.mp iso same
        omega
      simp only [ite_eq_right_iff, reduceCtorEq, imp_false, not_and, Nat.not_lt]
      exact ⟨fun fraction => ⟨narrow, fraction⟩, And.right⟩

/-- A pattern has a meaning precisely if all of its tokens have one. -/
theorem findSome?_fault?_eq_none_iff {pattern : List Char} {marks : List Mark}
    (scanned : Mark.scan? false pattern = some marks) :
    (Token.ofMarks marks).findSome? Token.fault? = none ↔ Meant pattern := by
  rw [List.findSome?_eq_none_iff]
  constructor
  · intro sound
    -- Every run is a token, and every token of letters is a run.
    have each : ∀ {front letter width after}, Run pattern front letter width after →
        (Token.letters letter width).fault? = none := by
      intro front letter width after run
      obtain ⟨_, _, -, split⟩ := run.ofMarks_eq scanned
      exact sound _ (by rw [split]; simp)
    refine ⟨Mark.even_of_scan? scanned, ?_, ?_, ?_⟩
    · exact fun _ _ _ _ run => ((fault?_letters_eq_none_iff run.positive).mp (each run)).1
    · exact fun _ _ _ run => ((fault?_letters_eq_none_iff run.positive).mp (each run)).2.1 rfl
    · exact fun _ _ _ run => ((fault?_letters_eq_none_iff run.positive).mp (each run)).2.2 rfl
  · intro meant token listed
    cases token with
    | literal text => rfl
    | letters letter width =>
      obtain ⟨left, right, made⟩ := List.append_of_mem listed
      obtain ⟨front, after, -, run, -, -⟩ := Run.of_ofMarks scanned made
      refine (fault?_letters_eq_none_iff run.positive).mpr ⟨meant.letters _ _ _ _ run, ?_, ?_⟩
      · rintro rfl
        exact meant.iso _ _ _ run
      · rintro rfl
        exact meant.fraction _ _ _ run

/-- A pattern has a meaning precisely if nothing is wrong with it. -/
theorem fault?_eq_none_iff (pattern : List Char) : fault? pattern = none ↔ Meant pattern := by
  -- A pattern without marks has a quote that stays open, and so it has a fault and no meaning.
  rw [fault?]
  cases scanned : Mark.scan? false pattern with
  | some marks => exact findSome?_fault?_eq_none_iff scanned
  | none =>
    refine iff_of_false nofun fun meant => ?_
    have odd := (Mark.scan?_eq_none_iff false pattern).mp scanned
    have even := meant.quotes
    rw [Bool.toNat_false] at odd
    omega

/-- What is wrong with a pattern is an open quote, or else its leftmost faulty run. -/
theorem fault?_eq_some_iff (pattern : List Char) (reason : PatternError) :
    fault? pattern = some reason ↔ Refused pattern reason := by
  rw [fault?]
  cases scanned : Mark.scan? false pattern with
  | some marks => exact findSome?_fault?_iff scanned reason
  | none =>
    -- An odd count of quotes leaves one open, which an even count cannot.
    have odd := (Mark.scan?_eq_none_iff false pattern).mp scanned
    rw [Bool.toNat_false, Nat.add_zero] at odd
    constructor
    · rintro ⟨⟩
      exact .quote odd
    · rintro (_ | ⟨even, -, -, -⟩)
      · rfl
      · omega

end Pattern

end DatePattern
