import DatePattern.Pattern.Token

/-! Runs of letters: the tokens of a pattern are its unquoted runs, with the text between them. -/

namespace DatePattern

namespace Mark

/-- A quote without another one after it opens or closes a quotation. -/
theorem scan?_single (quoted : Bool) {rest : List Char} (single : rest.head? ≠ some '\x27') :
    scan? quoted ('\x27' :: rest) = scan? (!quoted) rest := by
  rw [scan?.eq_3]
  -- The equation asks that no quote comes next.
  rintro other rfl
  exact single rfl

/-- Any other character has its own mark. -/
theorem scan?_plain (quoted : Bool) {c : Char} (plain : c ≠ '\x27') (rest : List Char) :
    scan? quoted (c :: rest) = (scan? quoted rest).map
      ((if quoted || !Text.isAsciiLetter c then .text c else .letter c) :: ·) := by
  -- The equation for quotes does not apply.
  rw [scan?.eq_4 _ _ _ (fun _ quote _ => plain quote) plain]

/-- The marks of a pattern are lost to an open quote precisely if its quotes are odd in number. -/
theorem scan?_eq_none_iff (quoted : Bool) (text : List Char) :
    scan? quoted text = none ↔ (text.count '\x27' + quoted.toNat) % 2 = 1 := by
  -- A single quote turns the quotation around, and two in a row leave it as it is.
  fun_induction scan? quoted text with
  | case1 => simp
  | case2 quoted closed =>
    rw [Bool.not_eq_true] at closed
    simp [closed]
  | case3 quoted rest ih =>
    rw [Option.map_eq_none_iff, ih]
    simp only [List.count_cons_self]
    omega
  | case4 quoted rest _ ih =>
    have turned : (!quoted).toNat + quoted.toNat = 1 := by cases quoted <;> rfl
    rw [ih]
    simp only [List.count_cons_self]
    omega
  | case5 quoted c rest _ plain ih =>
    rw [Option.map_eq_none_iff, ih, List.count_cons_of_ne plain]

/-- A pattern with quotes in pairs has marks. -/
theorem exists_scan? {text : List Char} (even : text.count '\x27' % 2 = 0) :
    ∃ marks, scan? false text = some marks := by
  -- Only an odd number of quotes leaves a quotation open.
  cases found : scan? false text with
  | some marks => exact ⟨marks, rfl⟩
  | none =>
    rw [scan?_eq_none_iff, Bool.toNat_false] at found
    omega

/-- A pattern with marks has quotes in pairs. -/
theorem even_of_scan? {text : List Char} {marks : List Mark}
    (scanned : scan? false text = some marks) : text.count '\x27' % 2 = 0 := by
  -- A quotation that stays open would have no marks.
  have unpaired := scan?_eq_none_iff false text
  rw [scanned, Bool.toNat_false] at unpaired
  simp only [reduceCtorEq, false_iff] at unpaired
  omega

/-- A letter outside quotations is marked as a letter. -/
theorem scan?_letter {letter : Char} (isLetter : Text.isAsciiLetter letter = true)
    (rest : List Char) :
    scan? false (letter :: rest) = (scan? false rest).map (.letter letter :: ·) := by
  -- A letter is no quote, and outside quotations it is not text either.
  have plain : letter ≠ '\x27' := by
    rintro rfl
    exact absurd isLetter (by decide)
  rw [scan?_plain false plain, isLetter]
  rfl

/-- A pattern can be scanned in two parts where a closed quotation is followed by no quote. -/
theorem scan?_append {quoted : Bool} {front rest : List Char} {marks : List Mark}
    (scanned : scan? quoted front = some marks) (plain : rest.head? ≠ some '\x27') :
    scan? quoted (front ++ rest) = (scan? false rest).map (marks ++ ·) := by
  -- The scan goes through the front as before, and only a quote at its end looks at the rest.
  fun_induction scan? quoted front generalizing marks with
  | case1 => cases scanned
  | case2 quoted closed =>
    cases scanned
    rw [Bool.not_eq_true] at closed
    simp [closed]
  | case3 quoted front ih =>
    obtain ⟨later, found, rfl⟩ := Option.map_eq_some_iff.mp scanned
    simp only [List.cons_append, scan?, ih found, Option.map_map]
    rfl
  | case4 quoted front single ih =>
    -- The quote that follows a single quote would have to come from the rest.
    have stillSingle : (front ++ rest).head? ≠ some '\x27' := by
      cases front with
      | nil => exact plain
      | cons c front =>
        intro same
        cases same
        exact single front rfl
    rw [List.cons_append, scan?_single quoted stillSingle, ih scanned]
  | case5 quoted c front _ notQuote ih =>
    obtain ⟨later, found, rfl⟩ := Option.map_eq_some_iff.mp scanned
    rw [List.cons_append, scan?_plain quoted notQuote, ih found, Option.map_map]
    rfl

/-- Inside a quotation the next mark is text, and there is one before the quotation is closed. -/
theorem head?_of_scan?_quoted {text : List Char} {marks : List Mark}
    (scanned : scan? true text = some marks) (single : text.head? ≠ some '\x27') :
    ∃ c, marks.head? = some (.text c) := by
  -- An open quotation cannot end with the pattern, and a single quote would close it.
  cases text with
  | nil => cases scanned
  | cons c rest =>
    have plain : c ≠ '\x27' := fun same => single (by rw [same]; rfl)
    rw [scan?_plain true plain] at scanned
    obtain ⟨later, -, rfl⟩ := Option.map_eq_some_iff.mp scanned
    exact ⟨c, rfl⟩

/-- Outside quotations the first character is a quote that is text, or opens a quotation, or is marked. -/
theorem head?_cases {text : List Char} {marks : List Mark}
    (scanned : scan? false text = some marks) :
    text = [] ∧ marks = [] ∨ (∃ c, marks.head? = some (.text c)) ∨
      ∃ c rest, text = c :: rest ∧ marks.head? = some (.letter c) := by
  cases text with
  | nil =>
    cases scanned
    exact .inl ⟨rfl, rfl⟩
  | cons c rest =>
    right
    -- Two quotes are a quote of the text, and one opens a quotation that begins with text.
    by_cases quote : c = '\x27'
    · subst quote
      left
      by_cases single : rest.head? = some '\x27'
      · obtain ⟨other, rfl⟩ := List.head?_eq_some_iff.mp single
        rw [scan?] at scanned
        obtain ⟨later, -, rfl⟩ := Option.map_eq_some_iff.mp scanned
        exact ⟨_, rfl⟩
      · rw [scan?_single false single] at scanned
        exact head?_of_scan?_quoted scanned single
    · rw [scan?_plain false quote] at scanned
      obtain ⟨later, -, rfl⟩ := Option.map_eq_some_iff.mp scanned
      cases letter : Text.isAsciiLetter c with
      | true => exact .inr ⟨c, rest, rfl, by simp⟩
      | false => exact .inl ⟨c, by simp⟩

/-- Outside quotations a first mark that is a letter is the first character. -/
theorem head?_of_scan? {text : List Char} {marks : List Mark} {letter : Char}
    (scanned : scan? false text = some marks) (first : marks.head? = some (.letter letter)) :
    text.head? = some letter := by
  -- The mark is that of a letter, which is none of the quoted ones.
  rcases head?_cases scanned with ⟨-, rfl⟩ | ⟨c, text⟩ | ⟨c, rest, rfl, same⟩
  · cases first
  · rw [text] at first
    cases first
  · rw [same] at first
    cases first
    rfl

/-- Outside quotations there are no marks only where there are no characters. -/
theorem eq_nil_of_scan? {text : List Char} (scanned : scan? false text = some []) : text = [] := by
  -- Wherever there is a character, a mark comes first.
  rcases head?_cases scanned with ⟨empty, -⟩ | ⟨c, impossible⟩ | ⟨c, rest, -, impossible⟩
  · exact empty
  · cases impossible
  · cases impossible

/-- The text before and after a letter can be scanned by itself. -/
theorem split_of_scan? {quoted : Bool} {text : List Char} {left right : List Mark} {letter : Char}
    (scanned : scan? quoted text = some (left ++ .letter letter :: right)) :
    ∃ front rest, text = front ++ letter :: rest ∧ scan? quoted front = some left ∧
      scan? false rest = some right ∧ Text.isAsciiLetter letter = true := by
  -- What is scanned before the letter moves to the front, a character or a pair of quotes at a time.
  fun_induction scan? quoted text generalizing left with
  | case1 => cases scanned
  | case2 => simp at scanned
  | case3 quoted text ih =>
    obtain ⟨later, found, same⟩ := Option.map_eq_some_iff.mp scanned
    cases left with
    | nil => simp at same
    | cons mark left =>
      obtain ⟨rfl, rfl⟩ := List.cons.inj same
      obtain ⟨front, rest, rfl, before, after, isLetter⟩ := ih found
      exact ⟨'\x27' :: '\x27' :: front, rest, rfl, by simp [scan?, before], after, isLetter⟩
  | case4 quoted text single ih =>
    obtain ⟨front, rest, rfl, before, after, isLetter⟩ := ih scanned
    refine ⟨'\x27' :: front, rest, rfl, ?_, after, isLetter⟩
    rw [scan?_single quoted ?_, before]
    intro same
    obtain ⟨other, rfl⟩ := List.head?_eq_some_iff.mp same
    exact single _ rfl
  | case5 quoted c text _ plain ih =>
    obtain ⟨later, found, same⟩ := Option.map_eq_some_iff.mp scanned
    cases left with
    | nil =>
      -- The letter itself is the first character, and it stands outside quotations.
      obtain ⟨mark, rfl⟩ := List.cons.inj same
      split at mark
      · cases mark
      · rename_i outside
        cases mark
        simp only [Bool.or_eq_true, Bool.not_eq_true', not_or, Bool.not_eq_true,
          Bool.not_eq_false] at outside
        obtain ⟨rfl, isLetter⟩ := outside
        exact ⟨[], text, rfl, rfl, found, isLetter⟩
    | cons mark left =>
      obtain ⟨rfl, rfl⟩ := List.cons.inj same
      obtain ⟨front, rest, rfl, before, after, isLetter⟩ := ih found
      refine ⟨c :: front, rest, rfl, ?_, after, isLetter⟩
      rw [scan?_plain quoted plain, before]
      rfl

/-- A last mark that is a letter is the last character. -/
theorem getLast?_of_scan? {quoted : Bool} {text : List Char} {marks : List Mark} {letter : Char}
    (scanned : scan? quoted text = some marks) (last : marks.getLast? = some (.letter letter)) :
    text.getLast? = some letter := by
  -- The pattern is split at the letter, and the part after it has no marks.
  obtain ⟨before, rfl⟩ := List.getLast?_eq_some_iff.mp last
  obtain ⟨front, rest, rfl, -, none, -⟩ := split_of_scan? scanned
  rw [eq_nil_of_scan? none]
  simp

/-- A letter that is marked several times in a row stands there as often. -/
theorem replicate_of_scan? {text : List Char} {letter : Char} {width : Nat} {right : List Mark}
    (scanned : scan? false text = some (List.replicate width (.letter letter) ++ right)) :
    ∃ rest, text = List.replicate width letter ++ rest ∧ scan? false rest = some right := by
  -- Each letter is split off by itself, with nothing before it.
  induction width generalizing text with
  | zero => exact ⟨text, rfl, scanned⟩
  | succ width ih =>
    have begun : scan? false text =
        some ([] ++ .letter letter :: (List.replicate width (.letter letter) ++ right)) := scanned
    obtain ⟨front, rest, rfl, none, after, -⟩ := split_of_scan? begun
    obtain ⟨later, rfl, found⟩ := ih after
    exact ⟨later, by rw [eq_nil_of_scan? none]; rfl, found⟩

/-- A letter that stands several times in a row outside quotations is marked as often. -/
theorem scan?_replicate {letter : Char} (isLetter : Text.isAsciiLetter letter = true)
    (width : Nat) (rest : List Char) :
    scan? false (List.replicate width letter ++ rest) =
      (scan? false rest).map (List.replicate width (.letter letter) ++ ·) := by
  -- Each letter is marked by itself, with nothing that could be quoted between them.
  induction width with
  | zero => simp
  | succ width ih =>
    rw [List.replicate_succ, List.cons_append, scan?_letter isLetter, ih, Option.map_map]
    rfl

end Mark

namespace Token

/-- The token that a mark begins. -/
def single : Mark → Token
  | .text c => .literal [c]
  | .letter c => .letters c 1

/-- The token that a mark and a token become if the mark continues the token. -/
def join? : Mark → Token → Option Token
  | .text c, .literal text => some (.literal (c :: text))
  | .letter c, .letters letter width => if c = letter then some (.letters letter (width + 1)) else none
  | _, _ => none

/-- A mark becomes part of the first token, or stands in front of all of them. -/
theorem cons_eq (mark : Mark) (tokens : List Token) :
    (∃ first rest joined, tokens = first :: rest ∧ join? mark first = some joined ∧
      cons mark tokens = joined :: rest) ∨
    (∀ first ∈ tokens.head?, join? mark first = none) ∧ cons mark tokens = single mark :: tokens := by
  cases tokens with
  | nil => cases mark <;> exact .inr ⟨by simp, rfl⟩
  | cons first rest =>
    -- Text joins text, and a letter joins a run of itself; nothing else is joined.
    cases joined : join? mark first with
    | some token =>
      refine .inl ⟨first, rest, token, rfl, joined, ?_⟩
      cases mark <;> cases first <;> simp_all [join?, cons]
    | none =>
      refine .inr ⟨by simp [joined], ?_⟩
      cases mark <;> cases first <;> simp_all [join?, cons, single]

/-- A mark that the first token does not continue stands in front of all of them. -/
theorem cons_of_apart {mark : Mark} {tokens : List Token}
    (apart : ∀ first ∈ tokens.head?, join? mark first = none) :
    cons mark tokens = single mark :: tokens := by
  -- It could only be joined to a token that it continues.
  rcases cons_eq mark tokens with ⟨first, rest, joined, rfl, join, -⟩ | ⟨-, eq⟩
  · exact absurd (apart first rfl) (by simp [join])
  · exact eq

/-- A mark joins the tokens after it in the same way whatever comes later. -/
theorem cons_append (mark : Mark) {tokens : List Token} (later : List Token)
    (apart : tokens = [] → ∀ first ∈ later.head?, join? mark first = none) :
    cons mark (tokens ++ later) = cons mark tokens ++ later := by
  -- The first token is the same on both sides, unless there are none in between.
  rcases cons_eq mark tokens with ⟨first, rest, joined, rfl, join, eq⟩ | ⟨separate, eq⟩
  · rcases cons_eq mark (first :: rest ++ later) with ⟨_, _, _, same, again, eq'⟩ | ⟨separate, -⟩
    · obtain ⟨rfl, rfl⟩ := List.cons.inj same
      rw [join] at again
      cases again
      rw [eq', eq]
      rfl
    · exact absurd (separate first rfl) (by simp [join])
  · rcases cons_eq mark (tokens ++ later) with ⟨first, rest, joined, same, join, -⟩ | ⟨-, eq'⟩
    · cases tokens with
      | nil =>
        have := apart rfl first (by rw [← List.nil_append later, same]; rfl)
        simp [join] at this
      | cons other tokens =>
        obtain ⟨rfl, -⟩ := List.cons.inj same
        exact absurd (separate other rfl) (by simp [join])
    · rw [eq', eq]
      rfl

/-- A mark in front of tokens leaves some token. -/
theorem cons_ne_nil (mark : Mark) (tokens : List Token) : cons mark tokens ≠ [] := by
  -- In both cases a token comes first.
  rcases cons_eq mark tokens with ⟨_, _, _, -, -, eq⟩ | ⟨-, eq⟩ <;>
    · rw [eq]
      exact List.cons_ne_nil _ _

/-- Only no marks make no tokens. -/
theorem eq_nil_of_ofMarks {marks : List Mark} (none : ofMarks marks = []) : marks = [] := by
  -- A first mark would have left a token.
  cases marks with
  | nil => rfl
  | cons mark marks => exact absurd none (cons_ne_nil mark _)

/-- A mark joins the first token of some marks only if it joins the first mark. -/
theorem join?_head?_ofMarks {mark : Mark} {marks : List Mark}
    (apart : ∀ first ∈ marks.head?, join? mark (single first) = none) :
    ∀ token ∈ (ofMarks marks).head?, join? mark token = none := by
  -- The first token is that of the first mark, or it has grown from a token that the first mark
  -- joined.
  cases marks with
  | nil => simp [ofMarks]
  | cons first rest =>
    have separate := apart first rfl
    have made : ofMarks (first :: rest) = cons first (ofMarks rest) := rfl
    rw [made]
    intro token head
    rcases cons_eq first (ofMarks rest) with ⟨second, others, joined, -, join, eq⟩ | ⟨-, eq⟩
    · rw [eq, List.head?_cons] at head
      cases head
      -- What the first mark joins is of its own kind, and of its own letter.
      cases first with
      | text c =>
        cases second with
        | literal text =>
          cases join
          cases mark <;> simp_all [join?, single]
        | letters letter width => cases join
      | letter c =>
        cases second with
        | literal text => cases join
        | letters letter width =>
          simp only [join?, Option.ite_none_right_eq_some, Option.some.injEq] at join
          obtain ⟨rfl, rfl⟩ := join
          cases mark <;> simp_all [join?, single]
    · rw [eq, List.head?_cons] at head
      cases head
      exact separate

/-- Marks that begin with a letter make tokens that begin with a run of it. -/
theorem head?_ofMarks_letter (letter : Char) (marks : List Mark) :
    ∃ width, (ofMarks (.letter letter :: marks)).head? = some (.letters letter width) := by
  show ∃ width, (cons (.letter letter) (ofMarks marks)).head? = some (.letters letter width)
  -- Either the letter joins a run, which must be one of itself, or it begins one.
  rcases cons_eq (.letter letter) (ofMarks marks) with ⟨first, rest, joined, -, join, eq⟩ | ⟨-, eq⟩
  · cases first with
    | literal text => cases join
    | letters other width =>
      simp only [join?, Option.ite_none_right_eq_some, Option.some.injEq] at join
      obtain ⟨rfl, rfl⟩ := join
      exact ⟨width + 1, by rw [eq]; rfl⟩
  · exact ⟨1, by rw [eq]; rfl⟩

/-- Marks that do not continue each other make the tokens of both parts. -/
theorem ofMarks_append {left right : List Mark}
    (apart : ∀ last ∈ left.getLast?, ∀ first ∈ right.head?, join? last (single first) = none) :
    ofMarks (left ++ right) = ofMarks left ++ ofMarks right := by
  -- Marks are put in front of the right part one by one, and only the last one stands beside it.
  induction left with
  | nil => rfl
  | cons mark left ih =>
    have later : ofMarks (left ++ right) = ofMarks left ++ ofMarks right := by
      apply ih
      intro last among
      obtain ⟨before, rfl⟩ := List.getLast?_eq_some_iff.mp among
      exact apart last (by rw [← List.cons_append, List.getLast?_concat]; rfl)
    show cons mark (ofMarks (left ++ right)) = cons mark (ofMarks left) ++ ofMarks right
    rw [later]
    refine cons_append mark (ofMarks right) fun none => ?_
    -- With no tokens in between, the mark stands directly before the other part.
    rw [eq_nil_of_ofMarks none] at apart
    exact join?_head?_ofMarks (apart mark rfl)

/-- A letter several times in a row is one token, unless it goes on. -/
theorem ofMarks_replicate (letter : Char) (width : Nat) {right : List Mark}
    (ends : right.head? ≠ some (.letter letter)) :
    ofMarks (List.replicate (width + 1) (.letter letter) ++ right) =
      .letters letter (width + 1) :: ofMarks right := by
  induction width with
  | zero =>
    -- The last letter joins nothing, because the run does not go on to the right of it.
    have apart : ∀ token ∈ (ofMarks right).head?, join? (.letter letter) token = none := by
      apply join?_head?_ofMarks
      intro first head
      cases first with
      | text c => rfl
      | letter c =>
        have differ : letter ≠ c := by
          rintro rfl
          exact ends head
        simp [join?, single, differ]
    exact cons_of_apart apart
  | succ width ih =>
    -- Another letter before a run of the same letter makes its token wider.
    show cons (.letter letter) (ofMarks (List.replicate (width + 1) (.letter letter) ++ right)) = _
    rw [ih]
    exact if_pos rfl

/-- A run of one letter among marks is one token between the tokens of the other marks. -/
theorem ofMarks_run {left right : List Mark} {letter : Char} {width : Nat} (positive : 0 < width)
    (begins : left.getLast? ≠ some (.letter letter)) (ends : right.head? ≠ some (.letter letter)) :
    ofMarks (left ++ (List.replicate width (.letter letter) ++ right)) =
      ofMarks left ++ .letters letter width :: ofMarks right := by
  obtain ⟨less, rfl⟩ := Nat.exists_eq_add_one.mpr positive
  rw [ofMarks_append, ofMarks_replicate letter less ends]
  -- Nothing on the left joins the run, which is not longer than it looks.
  intro last among first head
  rw [List.replicate_succ] at head
  cases head
  cases last with
  | text c => rfl
  | letter c =>
    have differ : c ≠ letter := by
      rintro rfl
      exact begins among
    simp [join?, single, differ]

/-- A token of letters at the front comes from a run of its letter, which does not go on after it. -/
theorem split_ofMarks_front {marks : List Mark} {right : List Token} {letter : Char} {width : Nat}
    (made : ofMarks marks = .letters letter width :: right) :
    ∃ after, marks = List.replicate width (.letter letter) ++ after ∧ ofMarks after = right ∧
      0 < width ∧ after.head? ≠ some (.letter letter) := by
  -- Each mark either makes the run after it longer by one letter, or it is a run of its own.
  induction marks generalizing width with
  | nil => cases made
  | cons mark marks ih =>
    have cut : cons mark (ofMarks marks) = .letters letter width :: right := made
    rcases cons_eq mark (ofMarks marks) with ⟨first, rest, joined, same, join, eq⟩ | ⟨apart, eq⟩
    · rw [eq] at cut
      obtain ⟨rfl, rfl⟩ := List.cons.inj cut
      -- Only a letter joins a run of letters, and then it is the letter of the run.
      cases mark with
      | text c => cases first <;> simp [join?] at join
      | letter c =>
        cases first with
        | literal text => simp [join?] at join
        | letters other size =>
          simp only [join?, Option.ite_none_right_eq_some, Option.some.injEq, letters.injEq]
            at join
          obtain ⟨rfl, rfl, rfl⟩ := join
          obtain ⟨after, rfl, rest, -, ends⟩ := ih same
          exact ⟨after, rfl, rest, Nat.succ_pos _, ends⟩
    · rw [eq] at cut
      obtain ⟨own, rfl⟩ := List.cons.inj cut
      cases mark with
      | text c => cases own
      | letter c =>
        cases own
        refine ⟨marks, rfl, rfl, Nat.one_pos, ?_⟩
        -- Another such letter would begin a token that this one joins.
        intro continued
        obtain ⟨others, rfl⟩ := List.head?_eq_some_iff.mp continued
        obtain ⟨size, head⟩ := head?_ofMarks_letter letter others
        have separate := apart _ head
        simp [join?] at separate

/-- A token of letters comes from a run of its letter, between the marks of the other tokens. -/
theorem split_ofMarks {marks : List Mark} {left right : List Token} {letter : Char} {width : Nat}
    (made : ofMarks marks = left ++ .letters letter width :: right) :
    ∃ before after, marks = before ++ (List.replicate width (.letter letter) ++ after) ∧
      ofMarks before = left ∧ ofMarks after = right ∧ 0 < width ∧
      before.getLast? ≠ some (.letter letter) ∧ after.head? ≠ some (.letter letter) := by
  -- Marks are taken off the front until the run is the first token.
  induction marks generalizing left with
  | nil => simp [ofMarks] at made
  | cons mark marks ih =>
    cases left with
    | nil =>
      obtain ⟨after, split, rest, positive, ends⟩ := split_ofMarks_front made
      exact ⟨[], after, split, rfl, rest, positive, by simp, ends⟩
    | cons token left =>
      have cut : cons mark (ofMarks marks) = token :: (left ++ .letters letter width :: right) :=
        made
      rcases cons_eq mark (ofMarks marks) with ⟨first, rest, joined, same, join, eq⟩ | ⟨apart, eq⟩
      · -- The mark joined the first token, which stands before the run.
        rw [eq] at cut
        obtain ⟨rfl, rfl⟩ := List.cons.inj cut
        have later : ofMarks marks = (first :: left) ++ .letters letter width :: right := same
        obtain ⟨before, after, rfl, front, rfl, positive, begins, ends⟩ := ih later
        refine ⟨mark :: before, after, rfl, ?_, rfl, positive, ?_, ends⟩
        · show cons mark (ofMarks before) = _
          rcases cons_eq mark (ofMarks before) with ⟨_, _, _, same', join', eq'⟩ | ⟨apart, -⟩
          · rw [front] at same'
            obtain ⟨rfl, rfl⟩ := List.cons.inj same'
            rw [join] at join'
            cases join'
            exact eq'
          · exact absurd (apart first (by rw [front]; rfl)) (by simp [join])
        · cases before with
          | nil => cases front
          | cons second before => simpa using begins
      · -- The mark is a token of its own, and what comes before the run is made from the others.
        rw [eq] at cut
        obtain ⟨rfl, later⟩ := List.cons.inj cut
        obtain ⟨before, after, rfl, front, rfl, positive, begins, ends⟩ := ih later
        have fresh : ∀ first ∈ left.head?, join? mark first = none := by
          intro first head
          apply apart first
          obtain ⟨others, rfl⟩ := List.head?_eq_some_iff.mp head
          rw [later]
          rfl
        refine ⟨mark :: before, after, rfl, ?_, rfl, positive, ?_, ends⟩
        · show cons mark (ofMarks before) = _
          rw [front]
          exact cons_of_apart fresh
        · cases before with
          | nil =>
            -- Otherwise the mark would have continued the run.
            cases front
            intro last
            cases last
            have := apart (.letters letter width) (by rw [later]; rfl)
            simp [join?] at this
          | cons second before => simpa using begins

end Token

end DatePattern
