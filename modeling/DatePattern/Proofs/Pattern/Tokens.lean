import DatePattern.Proofs.Pattern.Runs
import Mathlib.Data.List.Chain
import Mathlib.Data.Nat.Init

/-!
Tokens and patterns: what a pattern says without its quotes, and which tokens a pattern can have.

Scanning loses nothing but quotes, and every list of tokens that stand apart is spelled by some pattern.
-/

namespace DatePattern

namespace Pattern

/-- The text of a pattern that goes on after some quotes in a row. -/
def unquotedAfter : (quotes : Nat) → List Char → List Char
  | quotes, [] => List.replicate (quotes / 2) '\x27'
  | quotes, c :: rest =>
    if c = '\x27' then unquotedAfter (quotes + 1) rest
    -- The run of quotes is over: each pair of it is a quote, and a last single one is left out.
    else List.replicate (quotes / 2) '\x27' ++ c :: unquotedAfter 0 rest

/-- The text of a pattern: half the quotes of each longest run of them, and all other characters. -/
def unquoted (pattern : List Char) : List Char := unquotedAfter 0 pattern

/-- A pair of quotes more in a run is one more quote of the text. -/
theorem unquotedAfter_add_two (quotes : Nat) (text : List Char) :
    unquotedAfter (quotes + 2) text = '\x27' :: unquotedAfter quotes text := by
  -- The induction is on the text, since the run may go on into it.
  induction text generalizing quotes with
  | nil =>
    simp only [unquotedAfter, Nat.add_div_right _ (Nat.succ_pos 1), List.replicate_succ]
  | cons c rest ih =>
    unfold unquotedAfter
    split
    · exact ih (quotes + 1)
    · simp only [Nat.add_div_right _ (Nat.succ_pos 1), List.replicate_succ, List.cons_append]

/-- Two quotes in a row are a quote of the text. -/
theorem unquoted_pair (rest : List Char) :
    unquoted ('\x27' :: '\x27' :: rest) = '\x27' :: unquoted rest := by
  -- Both quotes are counted first, and then given back as one.
  simp only [unquoted, unquotedAfter, if_true]
  exact unquotedAfter_add_two 0 rest

/-- A quote without another one after it is not part of the text. -/
theorem unquoted_single {rest : List Char} (single : rest.head? ≠ some '\x27') :
    unquoted ('\x27' :: rest) = unquoted rest := by
  -- A run of one quote has no pair, wherever the pattern goes on.
  cases rest with
  | nil => rfl
  | cons c rest =>
    have plain : c ≠ '\x27' := fun same => single (by rw [same]; rfl)
    simp [unquoted, unquotedAfter, plain]

/-- Any other character is part of the text. -/
theorem unquoted_plain {c : Char} (plain : c ≠ '\x27') (rest : List Char) :
    unquoted (c :: rest) = c :: unquoted rest := by
  -- No quotes stand before it.
  simp [unquoted, unquotedAfter, plain]

/-- A longest run of quotes is half as many quotes of the text. -/
theorem unquoted_run (quotes : Nat) {rest : List Char} (ends : rest.head? ≠ some '\x27') :
    unquoted (List.replicate quotes '\x27' ++ rest) =
      List.replicate (quotes / 2) '\x27' ++ unquoted rest := by
  -- Pairs are taken off one by one, until one quote or none is left.
  induction quotes using Nat.twoStepInduction with
  | zero => rfl
  | one => exact unquoted_single ends
  | more quotes ih _ =>
    have paired : unquoted (List.replicate (quotes + 2) '\x27' ++ rest) =
        '\x27' :: unquoted (List.replicate quotes '\x27' ++ rest) := unquoted_pair _
    rw [paired, ih, Nat.add_div_right _ (Nat.succ_pos 1), List.replicate_succ, List.cons_append]

end Pattern

namespace Mark

/-- The character of a mark. -/
def char : Mark → Char
  | .text c => c
  | .letter c => c

/-- The marks of a pattern have the characters of its text, in their order. -/
theorem map_char_of_scan? {quoted : Bool} {text : List Char} {marks : List Mark}
    (scanned : scan? quoted text = some marks) : marks.map char = Pattern.unquoted text := by
  -- Each case of the scan takes off what one of the laws of the text takes off.
  fun_induction scan? quoted text generalizing marks with
  | case1 => cases scanned
  | case2 =>
    cases scanned
    rfl
  | case3 quoted rest ih =>
    obtain ⟨later, found, rfl⟩ := Option.map_eq_some_iff.mp scanned
    rw [Pattern.unquoted_pair, ← ih found]
    rfl
  | case4 quoted rest single ih =>
    have ends : rest.head? ≠ some '\x27' := by
      intro head
      obtain ⟨other, rfl⟩ := List.head?_eq_some_iff.mp head
      exact single other rfl
    rw [Pattern.unquoted_single ends]
    exact ih scanned
  | case5 quoted c rest _ plain ih =>
    obtain ⟨later, found, rfl⟩ := Option.map_eq_some_iff.mp scanned
    rw [Pattern.unquoted_plain plain, ← ih found, List.map_cons]
    -- A mark keeps its character, whether it is text or a letter.
    split <;> rfl

/-- Only ASCII letters are marked as letters. -/
theorem isAsciiLetter_of_scan? {text : List Char} {marks : List Mark}
    (scanned : scan? false text = some marks) {letter : Char} (marked : .letter letter ∈ marks) :
    Text.isAsciiLetter letter = true := by
  -- The letter stands somewhere in the text, with marks before and after it.
  obtain ⟨left, right, rfl⟩ := List.append_of_mem marked
  obtain ⟨-, -, -, -, -, isLetter⟩ := split_of_scan? scanned
  exact isLetter

end Mark

namespace Token

/-- Whether a token stands for something by itself: some text, or some times an ASCII letter. -/
def Proper : Token → Prop
  | .literal text => text ≠ []
  | .letters letter width => Text.isAsciiLetter letter = true ∧ 1 ≤ width

/-- Whether two neighbours are tokens of their own, which would not have been one token. -/
def Apart : Token → Token → Prop
  | .literal _, .literal _ => False
  | .letters letter _, .letters other _ => letter ≠ other
  | _, _ => True

instance : (token : Token) → Decidable token.Proper
  | .literal _ => inferInstanceAs (Decidable (_ ≠ _))
  | .letters _ _ => inferInstanceAs (Decidable (_ ∧ _))

instance : (token next : Token) → Decidable (Apart token next)
  | .literal _, .literal _ => inferInstanceAs (Decidable False)
  | .letters _ _, .letters _ _ => inferInstanceAs (Decidable (_ ≠ _))
  | .literal _, .letters _ _ | .letters _ _, .literal _ => inferInstanceAs (Decidable True)

/-- A normal form: proper tokens, each of which stands apart from the next. -/
structure Normal (tokens : List Token) : Prop where
  /-- There is no empty text, and no letter but those of ASCII. -/
  proper : ∀ token ∈ tokens, token.Proper
  /-- Text does not follow text, and a letter does not follow itself. -/
  apart : tokens.IsChain Apart

instance (tokens : List Token) : Decidable (Normal tokens) :=
  decidable_of_iff ((∀ token ∈ tokens, token.Proper) ∧ tokens.IsChain Apart)
    ⟨fun ⟨proper, apart⟩ => ⟨proper, apart⟩, fun ⟨proper, apart⟩ => ⟨proper, apart⟩⟩

/-- Without the first of them, normal tokens are still normal. -/
theorem Normal.tail {token : Token} {tokens : List Token} (normal : Normal (token :: tokens)) :
    Normal tokens :=
  ⟨fun other listed => normal.proper other (List.mem_cons_of_mem _ listed),
    (List.isChain_cons.mp normal.apart).2⟩

/-- A mark that joins a token adds its character in front. -/
theorem component_of_join? {mark : Mark} {token joined : Token}
    (join : join? mark token = some joined) : joined.component = mark.char :: token.component := by
  cases mark with
  | text c =>
    cases token with
    | literal text =>
      cases join
      rfl
    | letters letter width => cases join
  | letter c =>
    cases token with
    | literal text => cases join
    | letters letter width =>
      simp only [join?, Option.ite_none_right_eq_some, Option.some.injEq] at join
      obtain ⟨rfl, rfl⟩ := join
      -- One letter more in a run is the same letter once more.
      rfl

/-- A mark in front of tokens adds its character to their text. -/
theorem flatMap_component_cons (mark : Mark) (tokens : List Token) :
    (cons mark tokens).flatMap component = mark.char :: tokens.flatMap component := by
  rcases cons_eq mark tokens with ⟨first, rest, joined, rfl, join, eq⟩ | ⟨-, eq⟩
  · rw [eq, List.flatMap_cons, List.flatMap_cons, component_of_join? join, List.cons_append]
  · -- A token of its own has nothing but the character of its mark.
    rw [eq, List.flatMap_cons]
    cases mark <;> rfl

/-- The tokens of marks have the characters of the marks, in their order. -/
theorem flatMap_component_ofMarks (marks : List Mark) :
    (ofMarks marks).flatMap component = marks.map Mark.char := by
  induction marks with
  | nil => rfl
  | cons mark marks ih =>
    -- The first mark is put in front of the tokens of the others.
    show (cons mark (ofMarks marks)).flatMap component = _
    rw [flatMap_component_cons, ih, List.map_cons]

/-- A mark that joins a proper token leaves a proper token, as far from the next as before. -/
theorem normal_of_join? {mark : Mark} {first joined : Token} {rest : List Token}
    (join : join? mark first = some joined) (normal : Normal (first :: rest)) :
    Normal (joined :: rest) := by
  obtain ⟨proper, apart⟩ := normal
  have own := proper first List.mem_cons_self
  -- Joining changes neither the kind of the token nor its letter.
  have kept : joined.Proper ∧ ∀ next, Apart first next → Apart joined next := by
    cases mark with
    | text c =>
      cases first with
      | literal text =>
        cases join
        refine ⟨List.cons_ne_nil _ _, ?_⟩
        intro next between
        cases next <;> exact between
      | letters letter width => cases join
    | letter c =>
      cases first with
      | literal text => cases join
      | letters letter width =>
        simp only [join?, Option.ite_none_right_eq_some, Option.some.injEq] at join
        obtain ⟨rfl, rfl⟩ := join
        refine ⟨⟨own.1, Nat.succ_pos _⟩, ?_⟩
        intro next between
        cases next <;> exact between
  constructor
  · intro token listed
    rcases List.mem_cons.mp listed with rfl | later
    · exact kept.1
    · exact proper token (List.mem_cons_of_mem _ later)
  · rw [List.isChain_cons] at apart ⊢
    exact ⟨fun next head => kept.2 next (apart.1 next head), apart.2⟩

/-- A mark that joins nothing is a proper token in front of the others. -/
theorem normal_of_apart {mark : Mark} {tokens : List Token}
    (isLetter : ∀ letter, mark = .letter letter → Text.isAsciiLetter letter = true)
    (apart : ∀ first ∈ tokens.head?, join? mark first = none) (normal : Normal tokens) :
    Normal (single mark :: tokens) := by
  constructor
  · intro token listed
    rcases List.mem_cons.mp listed with rfl | later
    · cases mark with
      | text c => exact List.cons_ne_nil _ _
      | letter c => exact ⟨isLetter c rfl, Nat.le_refl 1⟩
    · exact normal.proper token later
  · rw [List.isChain_cons]
    refine ⟨?_, normal.apart⟩
    -- Tokens that a mark does not join are of another kind or of another letter.
    intro next head
    have refused := apart next head
    cases mark <;> cases next <;> simp_all [join?, single, Apart]

/-- Marks of ASCII letters and of text have tokens in normal form. -/
theorem normal_ofMarks {marks : List Mark}
    (isLetter : ∀ letter, .letter letter ∈ marks → Text.isAsciiLetter letter = true) :
    Normal (ofMarks marks) := by
  induction marks with
  | nil =>
    refine ⟨?_, List.isChain_nil⟩
    intro token listed
    cases listed
  | cons mark marks ih =>
    have later := ih fun letter listed => isLetter letter (List.mem_cons_of_mem _ listed)
    -- The first mark joins the first token, or stands in front of all of them.
    show Normal (cons mark (ofMarks marks))
    rcases cons_eq mark (ofMarks marks) with ⟨first, rest, joined, same, join, eq⟩ | ⟨apart, eq⟩
    · rw [eq]
      rw [same] at later
      exact normal_of_join? join later
    · rw [eq]
      refine normal_of_apart ?_ apart later
      rintro letter rfl
      exact isLetter letter List.mem_cons_self

/-- The marks of a token. -/
def marks : Token → List Mark
  | .literal text => text.map .text
  | .letters letter width => List.replicate width (.letter letter)

/-- Text with every quote written twice. -/
def doubled (text : List Char) : List Char :=
  text.flatMap fun c => if c = '\x27' then ['\x27', '\x27'] else [c]

/-- A token as a pattern spells it. -/
def spell : Token → List Char
  | .literal text =>
    -- A quotation of nothing but quotes would pair them with those that open and close it.
    if text.all (· == '\x27') then doubled text else '\x27' :: (doubled text ++ ['\x27'])
  | .letters letter width => List.replicate width letter

/-- A proper token has a mark. -/
theorem marks_ne_nil {token : Token} (proper : token.Proper) : token.marks ≠ [] := by
  -- A literal has some text, and a run has some letters.
  cases token with
  | literal text =>
    intro none
    exact proper (List.map_eq_nil_iff.mp none)
  | letters letter width =>
    have positive : 1 ≤ width := proper.2
    simp only [marks, ne_eq, List.replicate_eq_nil_iff]
    omega

/-- Quotes in text are marked as text, one for each that is written twice. -/
theorem scan?_doubled_quotes {text : List Char} (quotes : ∀ c ∈ text, c = '\x27')
    (rest : List Char) :
    Mark.scan? false (doubled text ++ rest) =
      (Mark.scan? false rest).map (text.map Mark.text ++ ·) := by
  induction text with
  | nil => simp [doubled]
  | cons c text ih =>
    obtain rfl : c = '\x27' := quotes c List.mem_cons_self
    have later := ih fun other listed => quotes other (List.mem_cons_of_mem _ listed)
    -- The first two quotes are a pair, whatever comes after them.
    have begun : doubled ('\x27' :: text) ++ rest = '\x27' :: '\x27' :: (doubled text ++ rest) :=
      rfl
    rw [begun, Mark.scan?.eq_2, later, Option.map_map]
    rfl

/-- Inside a quotation everything is marked as text, up to the quote that closes it. -/
theorem scan?_doubled_quoted (text : List Char) {rest : List Char}
    (ends : rest.head? ≠ some '\x27') :
    Mark.scan? true (doubled text ++ '\x27' :: rest) =
      (Mark.scan? false rest).map (text.map Mark.text ++ ·) := by
  induction text with
  | nil =>
    -- The quote that closes is single.
    simp [doubled, Mark.scan?_single true ends]
  | cons c text ih =>
    by_cases quote : c = '\x27'
    · subst quote
      have begun : doubled ('\x27' :: text) ++ '\x27' :: rest =
          '\x27' :: '\x27' :: (doubled text ++ '\x27' :: rest) := rfl
      rw [begun, Mark.scan?.eq_2, ih, Option.map_map]
      rfl
    · have begun : doubled (c :: text) ++ '\x27' :: rest =
          c :: (doubled text ++ '\x27' :: rest) := by
        simp [doubled, quote]
      rw [begun, Mark.scan?_plain true quote, ih, Option.map_map]
      rfl

/-- A quotation that has more than quotes in it is marked as its text. -/
theorem scan?_quotation {text rest : List Char} (other : ¬∀ c ∈ text, c = '\x27')
    (ends : rest.head? ≠ some '\x27') :
    Mark.scan? false ('\x27' :: (doubled text ++ '\x27' :: rest)) =
      (Mark.scan? false rest).map (text.map Mark.text ++ ·) := by
  -- Quotes at the beginning of the text come in pairs before the quotation is open.
  induction text with
  | nil => exact absurd (fun c listed => by cases listed) other
  | cons c text ih =>
    by_cases quote : c = '\x27'
    · subst quote
      have later : ¬∀ c ∈ text, c = '\x27' := by
        intro quotes
        apply other
        simpa using quotes
      have begun : '\x27' :: (doubled ('\x27' :: text) ++ '\x27' :: rest) =
          '\x27' :: '\x27' :: '\x27' :: (doubled text ++ '\x27' :: rest) := rfl
      rw [begun, Mark.scan?.eq_2, ih later, Option.map_map]
      rfl
    · have opened : (doubled (c :: text) ++ '\x27' :: rest).head? ≠ some '\x27' := by
        simp [doubled, quote]
      rw [Mark.scan?_single false opened]
      exact scan?_doubled_quoted (c :: text) ends

/-- Literal text is scanned as it was spelled, unless another quote joins its own. -/
theorem scan?_spell_literal (text : List Char) {rest : List Char}
    (ends : rest.head? ≠ some '\x27') :
    Mark.scan? false (spell (.literal text) ++ rest) =
      (Mark.scan? false rest).map (marks (.literal text) ++ ·) := by
  -- A text of quotes alone is spelled by doubling them, and any other text between quotes.
  simp only [spell, marks, List.all_eq_true, beq_iff_eq]
  split
  next quotes => exact scan?_doubled_quotes quotes rest
  next other =>
    rw [List.cons_append, List.append_assoc, List.singleton_append]
    exact scan?_quotation other ends

/-- After literal text, normal tokens go on with a letter. -/
theorem head?_spell_of_apart {text : List Char} {tokens : List Token}
    (normal : Normal (.literal text :: tokens)) :
    (tokens.flatMap spell).head? ≠ some '\x27' := by
  cases tokens with
  | nil => simp
  | cons next later =>
    have between := (List.isChain_cons_cons.mp normal.apart).1
    have proper := normal.proper next (List.mem_cons_of_mem _ List.mem_cons_self)
    cases next with
    | literal other => exact absurd between id
    | letters letter width =>
      obtain ⟨isLetter, positive⟩ := proper
      obtain ⟨less, rfl⟩ := Nat.exists_eq_add_one.mpr positive
      -- A letter is not a quote.
      intro quote
      obtain rfl : letter = '\x27' := Option.some.inj quote
      exact absurd isLetter (by decide)

/-- Normal tokens are spelled one after the other, and scanned as the marks of all of them. -/
theorem scan?_flatMap_spell {tokens : List Token} (normal : Normal tokens) :
    Mark.scan? false (tokens.flatMap spell) = some (tokens.flatMap marks) := by
  induction tokens with
  | nil => rfl
  | cons token tokens ih =>
    have proper := normal.proper token List.mem_cons_self
    have later := ih normal.tail
    rw [List.flatMap_cons, List.flatMap_cons]
    cases token with
    | literal text =>
      rw [scan?_spell_literal text (head?_spell_of_apart normal), later]
      rfl
    | letters letter width =>
      -- A run of letters is scanned as it stands, whatever follows it.
      rw [spell, Mark.scan?_replicate proper.1, later]
      rfl

/-- Normal tokens may hold quotes anywhere in their text, and nothing else when they stand alone. -/
example :
    let tokens : List Token :=
      [.letters 'h' 1, .literal " o'clock".toList, .letters 'a' 1, .literal ['\x27']]
    Normal tokens ∧ tokens.flatMap spell = "h' o''clock'a''".toList := by
  decide

/-- The last mark of a token does not go on with the first one of a token apart from it. -/
theorem join?_of_apart {token next : Token} (between : Apart token next) {last first : Mark}
    (own : last ∈ token.marks) (other : first ∈ next.marks) :
    join? last (single first) = none := by
  -- All marks of a token are of its kind, and those of a run are of its letter.
  cases token with
  | literal text =>
    obtain ⟨c, -, rfl⟩ := List.mem_map.mp own
    cases next with
    | literal text' => exact absurd between id
    | letters letter width =>
      obtain rfl := List.eq_of_mem_replicate other
      rfl
  | letters letter width =>
    obtain rfl := List.eq_of_mem_replicate own
    cases next with
    | literal text =>
      obtain ⟨c, -, rfl⟩ := List.mem_map.mp other
      rfl
    | letters letter' width' =>
      obtain rfl := List.eq_of_mem_replicate other
      exact if_neg between

/-- The marks of one proper token make up that token. -/
theorem ofMarks_marks {token : Token} (proper : token.Proper) : ofMarks token.marks = [token] := by
  cases token with
  | literal text =>
    -- Each character joins the text that follows it, the last of which is a token of its own.
    induction text with
    | nil => exact absurd rfl proper
    | cons c text ih =>
      show cons (.text c) (ofMarks (marks (.literal text))) = _
      cases text with
      | nil => rfl
      | cons next text =>
        rw [ih (List.cons_ne_nil _ _)]
        rfl
  | letters letter width =>
    obtain ⟨less, rfl⟩ := Nat.exists_eq_add_one.mpr proper.2
    -- Nothing follows the run, and so nothing joins it.
    have nothing : ([] : List Mark).head? ≠ some (.letter letter) := by simp
    have alone := ofMarks_replicate letter less nothing
    rwa [List.append_nil] at alone

/-- The marks of normal tokens make up those tokens. -/
theorem ofMarks_flatMap_marks {tokens : List Token} (normal : Normal tokens) :
    ofMarks (tokens.flatMap marks) = tokens := by
  induction tokens with
  | nil => rfl
  | cons token tokens ih =>
    have proper := normal.proper token List.mem_cons_self
    rw [List.flatMap_cons, ofMarks_append, ofMarks_marks proper, ih normal.tail]
    · rfl
    · intro last own first head
      cases tokens with
      | nil => cases head
      | cons next later =>
        have between := (List.isChain_cons_cons.mp normal.apart).1
        have nextProper := normal.proper next (List.mem_cons_of_mem _ List.mem_cons_self)
        -- The first mark of the others is one of the next token, which has some.
        rw [List.flatMap_cons, List.head?_append_of_ne_nil _ (marks_ne_nil nextProper)] at head
        exact join?_of_apart between (List.mem_of_getLast? own) (List.mem_of_head? head)

/--
The tokens of a pattern are in normal form and have the text of the pattern, and every normal form is that of a pattern.

Only a pattern with an odd number of quotes has no tokens.
-/
theorem ofPattern_exact :
    (∀ pattern reason, ofPattern pattern = .error reason ↔
      reason = .unterminatedQuote ∧ pattern.toList.count '\x27' % 2 = 1) ∧
    (∀ pattern tokens, ofPattern pattern = .ok tokens →
      Normal tokens ∧ tokens.flatMap component = Pattern.unquoted pattern.toList) ∧
    ∀ tokens, Normal tokens → ofPattern (String.ofList (tokens.flatMap spell)) = .ok tokens := by
  refine ⟨?_, ?_, ?_⟩
  · intro pattern reason
    have odd := Mark.scan?_eq_none_iff false pattern.toList
    rw [Bool.toNat_false, Nat.add_zero] at odd
    rw [← odd, ofPattern]
    cases Mark.scan? false pattern.toList with
    | none => simp [eq_comm]
    | some marks => simp
  · intro pattern tokens made
    rw [ofPattern] at made
    cases scanned : Mark.scan? false pattern.toList with
    | none =>
      rw [scanned] at made
      cases made
    | some marks =>
      rw [scanned] at made
      cases made
      -- The characters are those of the marks, and the letters among them are of ASCII.
      constructor
      · exact normal_ofMarks fun letter marked => Mark.isAsciiLetter_of_scan? scanned marked
      · rw [flatMap_component_ofMarks, Mark.map_char_of_scan? scanned]
  · intro tokens normal
    rw [ofPattern, String.toList_ofList, scan?_flatMap_spell normal]
    show Except.ok (ofMarks (tokens.flatMap marks)) = _
    rw [ofMarks_flatMap_marks normal]

end Token

end DatePattern
