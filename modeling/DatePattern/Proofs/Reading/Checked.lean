import DatePattern.Proofs.Reading.Steps
import DatePattern.Proofs.Text.Positions
import DatePattern.Proofs.Text.Taken
import DatePattern.Reading.Reader

/-! Checked reading: the reader by byte positions, which answers nothing once it looks where there is no text. -/

namespace DatePattern.Reader

/-- The position after the digits that begin at a position, all of them before a last one. -/
def digitsEnd? (text : List Char) (last index : Nat) : Option Nat :=
  if index < last then
    match Text.byte? text index with
    | none => none
    | some byte => if Text.isDigitByte byte then digitsEnd? text last (index + 1) else some index
  else some index
termination_by last - index

/-- Where the digits of a number may begin, and the position that they do not go beyond. -/
def digitLimits? (text : List Char) (index maxWidth : Nat) : Option (Nat × Nat) :=
  if maxWidth = 0 then
    (Text.from? text index).map fun rest =>
      (index + (Text.byteLength rest - Text.byteLength (Text.trimStart rest)), Text.byteLength text)
  else some (index, min (Text.byteLength text) (index + maxWidth))

/-- The digits of a number with the positions of their ends, or the position where they are missing. -/
def readDigits? (text : List Char) (index maxWidth : Nat) :
    Option (Except Nat (List Char × Nat × Nat)) := do
  let (first, last) ← digitLimits? text index maxWidth
  let stop ← digitsEnd? text last first
  if stop = first then return .error first
  let digits ← Text.slice? text first stop
  return .ok (digits, first, stop)

/-- What a step finds at a position and the position after it, or the position of its failure. -/
def checkedStep? (reader : Reader) (step : ReadStep) (text : List Char) (index : Nat) :
    Option (Except Nat (List Finding × Nat)) := do
  match step.rule with
  | .number field modifier =>
    match ← readDigits? text index step.maxWidth with
    | .error place => return .error place
    | .ok (digits, first, stop) =>
      match (Count.within? (Digits.value digits)).bind (reader.modify? · modifier) with
      | some value => return .ok ([.value field value], stop)
      | none => return .error first
  | .fraction =>
    match ← readDigits? text index step.maxWidth with
    | .error place => return .error place
    | .ok (digits, _, stop) =>
      let kept ← Text.slice? digits 0 (min (Text.byteLength digits) 9)
      let nanos : Nat := Digits.value kept * Digits.power (9 - Text.byteLength kept)
      return .ok ([.value .nanoOfSecond nanos], stop)
  | .literal lead =>
    let rest ← Text.from? text index
    match Text.after? lead rest with
    | some _ => return .ok ([], index + Text.byteLength lead)
    | none => return .error (index + Text.sharedBytes lead rest)
  | .text matcher =>
    match matcher.match? (← Text.from? text index) with
    | some (value, taken, _) =>
      return .ok ([.value matcher.field value], index + Text.byteLength taken)
    | none => return .error index
  | .zone matcher =>
    match matcher.match? (← Text.from? text index) with
    | some (mention, taken, _) =>
      return .ok (reader.zoneFindings mention, index + Text.byteLength taken)
    | none => return .error index
  | .isoZone form =>
    match form.takeZulu? (← Text.from? text index) with
    | some (taken, _) => return .ok ([.zone (reader.isoZone taken)], index + Text.byteLength taken)
    | none => return .error index

/-- All findings of some steps, and the position after them or that of the failure. -/
def checkedSteps? (reader : Reader) (text : List Char) :
    (steps : List ReadStep) → (index : Nat) → Option (List Finding × Except Nat Nat)
  | [], index => some ([], .ok index)
  | step :: steps, index => do
    match ← reader.checkedStep? step text index with
    | .error place => return ([], .error place)
    | .ok (found, next) =>
      let (later, outcome) ← reader.checkedSteps? text steps next
      return (found ++ later, outcome)

/-- Reads a text from a position on by byte positions, if that lies between characters of the text. -/
def checkedInto? (reader : Reader) (text : String) (position : Position) (collected : Collected) :
    Option (Bool × Position × Collected) := do
  if ¬Text.Boundary text.toList position.index then
    return (false, { position with errorIndex := some position.index }, collected)
  let (findings, outcome) ← reader.checkedSteps? text.toList reader.steps position.index
  let collected := collected.addAll findings
  match outcome with
  | .ok index => return (true, { position with index }, collected)
  | .error place => return (false, { position with errorIndex := some place }, collected)

/-- The instant that a text denotes, read by byte positions. -/
def checkedAt? (reader : Reader) (text : String) (position : Position) :
    Option (Option Instant × Position) := do
  match ← reader.checkedInto? text position .empty with
  | (false, failed, _) => return (none, failed)
  | (true, reached, collected) =>
    match collected.resolve? reader.zone reader.calendar with
    | some instant => return (some instant, reached)
    | none => return (none, ⟨position.index, some position.index⟩)

/-- Digits are passed one by one up to the last position, or to a character that is none. -/
theorem digitsEnd?_append {front digits rest : List Char} {last : Nat}
    (ascii : ∀ c ∈ digits, Text.isAsciiDigit c = true)
    (inside : last ≤ Text.byteLength (front ++ (digits ++ rest)))
    (within : Text.byteLength front + digits.length ≤ last)
    (stops : Text.byteLength front + digits.length = last ∨
      ∀ c ∈ rest.head?, Text.isAsciiDigit c = false) :
    digitsEnd? (front ++ (digits ++ rest)) last (Text.byteLength front) =
      some (Text.byteLength front + digits.length) := by
  -- The digits already passed move to the front, each of them one byte.
  induction digits generalizing front with
  | nil =>
    rw [List.length_nil, Nat.add_zero] at stops
    rw [List.nil_append, digitsEnd?]
    split
    next before =>
      -- There is a byte before the last position, and it begins a character that is no digit.
      cases rest with
      | nil =>
        simp only [List.append_nil] at inside
        omega
      | cons c rest =>
        obtain ⟨byte, here, same⟩ := Text.byte?_append front c rest
        have none : Text.isDigitByte byte = false :=
          same.trans ((stops.resolve_left (Nat.ne_of_lt before)) c rfl)
        rw [here]
        simp [none]
    next => rfl
  | cons d digits ih =>
    obtain ⟨isDigit, ascii⟩ := List.forall_mem_cons.mp ascii
    have one : Text.byteLength [d] = 1 := Text.byteLength_digits (by simpa using isDigit)
    have next : Text.byteLength (front ++ [d]) = Text.byteLength front + 1 := by
      rw [Text.byteLength_append, one]
    have whole : front ++ d :: (digits ++ rest) = (front ++ [d]) ++ (digits ++ rest) := by simp
    rw [List.length_cons] at within stops ⊢
    rw [List.cons_append] at inside ⊢
    obtain ⟨byte, here, same⟩ := Text.byte?_append front d (digits ++ rest)
    rw [digitsEnd?, if_pos (by omega), here]
    simp only [same, isDigit, if_true]
    rw [whole] at inside ⊢
    rw [← next, ih ascii inside (by omega) (stops.imp_left (by omega)), next]
    congr 1
    omega

/-- The digits that may be read at the front of a text, and what bounds them. -/
structure DigitRun (maxWidth : Nat) (text skipped digits rest : List Char) : Prop where
  /-- They stand between the blanks that are skipped and the rest of the text. -/
  split : text = skipped ++ (digits ++ rest)
  /-- There is nothing but digits. -/
  ascii : ∀ c ∈ digits, Text.isAsciiDigit c = true
  /-- Blanks are skipped only where there is no greatest width. -/
  trimmed : if maxWidth = 0 then Text.trimStart text = digits ++ rest else skipped = []
  /-- There are no more of them than the greatest width. -/
  narrow : maxWidth = 0 ∨ digits.length ≤ maxWidth
  /-- They fill the greatest width, or no digit follows. -/
  stops : maxWidth ≠ 0 ∧ digits.length = maxWidth ∨ ∀ c ∈ rest.head?, Text.isAsciiDigit c = false

/-- No digit follows the digits that a text begins with. -/
theorem head?_dropWhile_digits (text : List Char) :
    ∀ c ∈ (text.dropWhile Text.isAsciiDigit).head?, Text.isAsciiDigit c = false := by
  intro c head
  have stopped := List.head?_dropWhile_not Text.isAsciiDigit text
  rw [head] at stopped
  exact stopped

/-- A run of digits is bounded by its width or by what follows it. -/
theorem digitRun_spec {maxWidth : Nat} {text skipped digits rest : List Char}
    (run : digitRun maxWidth text = (skipped, digits, rest)) :
    DigitRun maxWidth text skipped digits rest := by
  have each : ∀ {text : List Char}, ∀ c ∈ text.takeWhile Text.isAsciiDigit,
      Text.isAsciiDigit c = true := fun c listed => List.all_eq_true.mp List.all_takeWhile c listed
  unfold digitRun at run
  split at run
  next unbounded =>
    cases run
    refine ⟨?_, each, ?_, .inl unbounded, .inr (head?_dropWhile_digits _)⟩
    · rw [List.takeWhile_append_dropWhile, Text.trimStart, List.takeWhile_append_dropWhile]
    · rw [if_pos unbounded, List.takeWhile_append_dropWhile]
  next bounded =>
    cases run
    -- The text is cut at the greatest width, and the part before that where its digits end.
    have cut : (text.take maxWidth).takeWhile Text.isAsciiDigit ++
        ((text.take maxWidth).dropWhile Text.isAsciiDigit ++ text.drop maxWidth) = text := by
      rw [← List.append_assoc, List.takeWhile_append_dropWhile, List.take_append_drop]
    have size := congrArg List.length
      (List.takeWhile_append_dropWhile (p := Text.isAsciiDigit) (l := text.take maxWidth))
    have after := head?_dropWhile_digits (text.take maxWidth)
    have ascii : ∀ c ∈ (text.take maxWidth).takeWhile Text.isAsciiDigit,
        Text.isAsciiDigit c = true := each
    generalize (text.take maxWidth).takeWhile Text.isAsciiDigit = digits at *
    generalize (text.take maxWidth).dropWhile Text.isAsciiDigit = others at *
    rw [List.length_append, List.length_take] at size
    have rest : text.drop digits.length = others ++ text.drop maxWidth := by
      have dropped := congrArg (List.drop digits.length) cut
      rw [List.drop_left] at dropped
      exact dropped.symm
    refine ⟨by rw [rest, cut]; rfl, ascii, by rw [if_neg bounded], .inr (by omega), ?_⟩
    rw [rest]
    cases others with
    | cons c others => exact .inr after
    | nil =>
      rw [List.length_nil] at size
      by_cases full : digits.length = maxWidth
      · exact .inl ⟨bounded, full⟩
      · rw [List.drop_eq_nil_of_le (by omega)]
        exact .inr nofun

/-- The digits of a number are read at the position where they are. -/
theorem readDigits?_append (front : List Char) {maxWidth : Nat}
    {text skipped digits rest : List Char}
    (run : digitRun maxWidth text = (skipped, digits, rest)) :
    readDigits? (front ++ text) (Text.byteLength front) maxWidth =
      some (if digits = [] then .error (Text.byteLength front + Text.byteLength skipped)
        else .ok (digits, Text.byteLength front + Text.byteLength skipped,
          Text.byteLength front + Text.byteLength skipped + Text.byteLength digits)) := by
  obtain ⟨split, ascii, trimmed, narrow, stops⟩ := digitRun_spec run
  have size := Text.byteLength_digits ascii
  -- The digits begin after the blanks, and end within the width and within the text.
  obtain ⟨last, limits, inside, within, stop⟩ : ∃ last,
      digitLimits? (front ++ text) (Text.byteLength front) maxWidth =
        some (Text.byteLength (front ++ skipped), last) ∧
      last ≤ Text.byteLength ((front ++ skipped) ++ (digits ++ rest)) ∧
      Text.byteLength (front ++ skipped) + digits.length ≤ last ∧
      (Text.byteLength (front ++ skipped) + digits.length = last ∨
        ∀ c ∈ rest.head?, Text.isAsciiDigit c = false) := by
    have total : Text.byteLength (front ++ text) =
        Text.byteLength (front ++ skipped) + (digits.length + Text.byteLength rest) := by
      rw [split]
      simp only [Text.byteLength_append, size]
      omega
    by_cases unbounded : maxWidth = 0
    · rw [if_pos unbounded] at trimmed
      refine ⟨Text.byteLength (front ++ text), ?_, ?_, by omega, ?_⟩
      · have begins : Text.byteLength front +
            (Text.byteLength text - Text.byteLength (digits ++ rest)) =
              Text.byteLength (front ++ skipped) := by
          simp only [split, Text.byteLength_append, Nat.add_sub_cancel]
        rw [digitLimits?, if_pos unbounded, Text.from?_append, Option.map_some, trimmed, begins]
      · exact Nat.le_of_eq (by rw [split, List.append_assoc])
      · exact .inr (stops.resolve_left fun full => full.1 unbounded)
    · rw [if_neg unbounded] at trimmed
      subst trimmed
      rw [List.append_nil] at total ⊢
      refine ⟨min (Text.byteLength (front ++ text)) (Text.byteLength front + maxWidth), ?_, ?_, ?_,
        ?_⟩
      · rw [digitLimits?, if_neg unbounded]
      · rw [split, List.nil_append]
        exact Nat.min_le_left _ _
      · have := narrow.resolve_left unbounded
        omega
      · refine stops.imp_left fun full => ?_
        omega
  have whole : front ++ text = (front ++ skipped) ++ (digits ++ rest) := by
    rw [split, List.append_assoc]
  -- From here on the positions are those of the ends of the digits.
  rw [readDigits?, limits]
  simp only [Option.bind_eq_bind, Option.bind_some, whole,
    digitsEnd?_append ascii inside within stop]
  rw [Text.byteLength_append]
  by_cases none : digits = []
  · rw [if_pos none, none, if_pos (by simp)]
    rfl
  · have some : digits.length ≠ 0 := fun empty => none (List.length_eq_zero_iff.mp empty)
    rw [if_neg (by omega), if_neg none, ← size, ← Text.byteLength_append, Text.slice?_append]
    rfl

/-- The front of some digits is cut out by its count of bytes. -/
theorem slice?_digits {digits : List Char} (ascii : ∀ c ∈ digits, Text.isAsciiDigit c = true)
    (count : Nat) :
    Text.slice? digits 0 (min (Text.byteLength digits) count) = some (digits.take count) := by
  -- A digit is one byte, so that counts of bytes are counts of digits.
  have taken : Text.byteLength (digits.take count) = min (Text.byteLength digits) count := by
    rw [Text.byteLength_digits fun c listed => ascii c (List.mem_of_mem_take listed),
      Text.byteLength_digits ascii, List.length_take, Nat.min_comm]
  have cut := Text.slice?_append [] (digits.take count) (digits.drop count)
  rw [List.nil_append, List.take_append_drop, Text.byteLength_nil, Nat.zero_add, taken] at cut
  exact cut

/-- The outcome of a step on a text that begins at a position, by the positions where it ends or fails. -/
def placed (start : Nat) (text : List Char) :
    Except Nat (List Finding × List Char) → Except Nat (List Finding × Nat)
  | .ok (found, rest) => .ok (found, start + (Text.byteLength text - Text.byteLength rest))
  | .error skipped => .error (start + skipped)

/-- An outcome that leaves a later part of the text, or that fails inside it. -/
def Within (text : List Char) : Except Nat (List Finding × List Char) → Prop
  | .ok (_, rest) => ∃ taken, text = taken ++ rest
  | .error skipped => skipped ≤ Text.byteLength text

/-- A step takes the front of the text, or fails inside it. -/
theorem within_readStep (reader : Reader) (step : ReadStep) (text : List Char) :
    Within text (reader.readStep step text) := by
  have digits : ∀ {skipped digits rest},
      digitRun step.maxWidth text = (skipped, digits, rest) →
        (∃ taken, text = taken ++ rest) ∧ Text.byteLength skipped ≤ Text.byteLength text := by
    intro skipped digits rest run
    have split := (digitRun_spec run).split
    refine ⟨⟨skipped ++ digits, by rw [split, List.append_assoc]⟩, ?_⟩
    rw [split, Text.byteLength_append]
    omega
  have ends := reader.ends_readStep step text
  generalize step.rule = rule, reader.readStep step text = outcome at ends
  -- A number fails at its digits, a literal at its first other byte, and all others where they begin.
  cases ends with
  | number run => exact (digits run).1
  | noNumber run => exact (digits run).2
  | fraction run => exact (digits run).1
  | noFraction run => exact (digits run).2
  | @literal lead _ after => exact ⟨lead, Text.after?_eq_some_iff.mp after⟩
  | @noLiteral lead _ => exact Text.sharedBytes_le lead text
  | @text _ _ taken _ matched => exact ⟨taken, TextMatcher.split_of_match? matched⟩
  | @zone _ _ taken _ matched => exact ⟨taken, ZoneMatcher.split_of_match? matched⟩
  | @isoZone _ taken _ matched => exact ⟨taken, OffsetForm.split_of_takeZulu? matched⟩
  | noText => exact Nat.zero_le _
  | noZone => exact Nat.zero_le _
  | noIsoZone => exact Nat.zero_le _

/-- Byte by byte a step does what it does on characters, and never looks outside the text. -/
theorem checkedStep?_append (reader : Reader) (step : ReadStep) (front text : List Char) :
    reader.checkedStep? step (front ++ text) (Text.byteLength front) =
      some (placed (Text.byteLength front) text (reader.readStep step text)) := by
  have taken : ∀ {taken rest : List Char}, text = taken ++ rest →
      Text.byteLength text - Text.byteLength rest = Text.byteLength taken := by
    rintro taken rest rfl
    rw [Text.byteLength_append, Nat.add_sub_cancel]
  unfold checkedStep? readStep
  -- Each kind of step looks at the text once, from the position on, and goes on by what it takes.
  cases step.rule with
  | number field modifier =>
    rcases run : digitRun step.maxWidth text with ⟨skipped, number, rest⟩
    have ends := taken (((digitRun_spec run).split).trans (List.append_assoc _ _ _).symm)
    rw [Text.byteLength_append] at ends
    simp only [readDigits?_append front run, Option.bind_eq_bind, Option.bind_some]
    by_cases none : number = []
    · simp only [if_pos none]
      rfl
    · simp only [if_neg none]
      cases (Count.within? (Digits.value number)).bind (reader.modify? · modifier) with
      | none => rfl
      | some value =>
        simp only [placed, ends, Nat.add_assoc]
        rfl
  | fraction =>
    rcases run : digitRun step.maxWidth text with ⟨skipped, number, rest⟩
    have ascii := (digitRun_spec run).ascii
    have ends := taken (((digitRun_spec run).split).trans (List.append_assoc _ _ _).symm)
    rw [Text.byteLength_append] at ends
    simp only [readDigits?_append front run, Option.bind_eq_bind, Option.bind_some]
    by_cases none : number = []
    · simp only [if_pos none]
      rfl
    · have kept : Text.byteLength (number.take 9) = (number.take 9).length :=
        Text.byteLength_digits fun c listed => ascii c (List.mem_of_mem_take listed)
      simp only [if_neg none, slice?_digits ascii, Option.bind_some, placed, ends, Nat.add_assoc,
        kept]
      rfl
  | literal lead =>
    simp only [Text.from?_append, Option.bind_eq_bind, Option.bind_some]
    cases found : Text.after? lead text with
    | none => rfl
    | some rest =>
      simp only [placed, taken (Text.after?_eq_some_iff.mp found)]
      rfl
  | text matcher =>
    simp only [Text.from?_append, Option.bind_eq_bind, Option.bind_some]
    cases matched : matcher.match? text with
    | none => rfl
    | some answer =>
      simp only [placed, taken (TextMatcher.split_of_match? matched)]
      rfl
  | zone matcher =>
    simp only [Text.from?_append, Option.bind_eq_bind, Option.bind_some]
    cases matched : matcher.match? text with
    | none => rfl
    | some answer =>
      simp only [placed, taken (ZoneMatcher.split_of_match? matched)]
      rfl
  | isoZone form =>
    simp only [Text.from?_append, Option.bind_eq_bind, Option.bind_some]
    cases found : form.takeZulu? text with
    | none => rfl
    | some answer =>
      simp only [placed, taken (OffsetForm.split_of_takeZulu? found)]
      rfl

/-- Steps leave a later part of the text, or fail inside it. -/
theorem within_readSteps (reader : Reader) (steps : List ReadStep) (text : List Char) :
    match (reader.readSteps steps text).2 with
    | .ok rest => ∃ taken, text = taken ++ rest
    | .error skipped => skipped ≤ Text.byteLength text := by
  -- Every step keeps what is left of the text an end of it.
  induction steps generalizing text with
  | nil => exact ⟨[], rfl⟩
  | cons step steps ih =>
    have first := reader.within_readStep step text
    rw [readSteps]
    cases stepped : reader.readStep step text with
    | error skipped =>
      rw [stepped] at first
      exact first
    | ok outcome =>
      obtain ⟨found, rest⟩ := outcome
      rw [stepped] at first
      obtain ⟨taken, rfl⟩ := first
      have later := ih rest
      cases ended : (reader.readSteps steps rest).2 with
      | ok unread =>
        rw [ended] at later
        obtain ⟨more, rfl⟩ := later
        simp only [ended, Except.mapError]
        exact ⟨taken ++ more, (List.append_assoc _ _ _).symm⟩
      | error skipped =>
        rw [ended] at later
        simp only [ended, Except.mapError, Text.byteLength_append, Nat.add_sub_cancel]
        omega

/-- Byte by byte the steps do what they do on characters, and never look outside the text. -/
theorem checkedSteps?_append (reader : Reader) (steps : List ReadStep) (front text : List Char) :
    reader.checkedSteps? (front ++ text) steps (Text.byteLength front) =
      some ((reader.readSteps steps text).1, match (reader.readSteps steps text).2 with
        | .ok rest => .ok (Text.byteLength front + (Text.byteLength text - Text.byteLength rest))
        | .error skipped => .error (Text.byteLength front + skipped)) := by
  -- The position is always the length of what has been read, which each step makes longer.
  induction steps generalizing front text with
  | nil => simp [checkedSteps?, readSteps]
  | cons step steps ih =>
    have first := reader.within_readStep step text
    rw [checkedSteps?, checkedStep?_append, readSteps]
    cases stepped : reader.readStep step text with
    | error skipped => rfl
    | ok outcome =>
      obtain ⟨found, rest⟩ := outcome
      rw [stepped] at first
      obtain ⟨taken, rfl⟩ := first
      have later := reader.within_readSteps steps rest
      -- The next step begins where this one ends.
      have next := ih (front ++ taken) rest
      rw [Text.byteLength_append, List.append_assoc] at next
      simp only [placed, Text.byteLength_append, Nat.add_sub_cancel, Option.bind_eq_bind,
        Option.bind_some, next]
      cases ended : (reader.readSteps steps rest).2 with
      | ok unread =>
        rw [ended] at later
        obtain ⟨more, rfl⟩ := later
        have all : Text.byteLength taken + (Text.byteLength more + Text.byteLength unread) -
            Text.byteLength unread = Text.byteLength taken + Text.byteLength more := by
          rw [← Nat.add_assoc, Nat.add_sub_cancel]
        simp only [Except.mapError, Text.byteLength_append, Nat.add_sub_cancel, Nat.add_assoc, all]
        rfl
      | error skipped =>
        simp only [Except.mapError, Nat.add_assoc]
        rfl

end DatePattern.Reader
