import DatePattern.Locale.Basic

/-! Styles: the customary patterns of a locale, from the most to the least verbose. -/

namespace DatePattern

/-- How much a customary pattern tells. -/
inductive Style where
  /-- Everything, spelled out. -/
  | full
  /-- Most things, spelled out. -/
  | long
  /-- The usual things. -/
  | medium
  /-- Numbers, as few as will do. -/
  | short
deriving DecidableEq, Repr

/-- The patterns of the four styles. -/
structure StyleSet where
  /-- The most verbose pattern. -/
  full : String
  /-- The long pattern. -/
  long : String
  /-- The usual pattern. -/
  medium : String
  /-- The briefest pattern. -/
  short : String
deriving DecidableEq, Repr

/-- The pattern of a style. -/
def StyleSet.get (set : StyleSet) : Style → String
  | .full => set.full
  | .long => set.long
  | .medium => set.medium
  | .short => set.short

/-- The date patterns and the time patterns of a locale. -/
structure StylePatterns where
  /-- Patterns of the date. -/
  date : StyleSet
  /-- Patterns of the time of day. -/
  time : StyleSet
deriving DecidableEq, Repr

/-- The pattern of a date style, a time style, or both with a space between them. -/
def StylePatterns.pattern? (styles : StylePatterns) : (date time : Option Style) → Option String
  | some date, some time => some (styles.date.get date ++ " " ++ styles.time.get time)
  | some date, none => some (styles.date.get date)
  | none, some time => some (styles.time.get time)
  | none, none => none

namespace StylePatterns

/-- The patterns of American English. -/
def americanEnglish : StylePatterns where
  date := ⟨"EEEE, MMMM d, yyyy", "MMMM d, yyyy", "MMM d, yyyy", "M/d/yy"⟩
  time := ⟨"h:mm:ss a z", "h:mm:ss a z", "h:mm:ss a", "h:mm a"⟩

/-- The patterns of British English. -/
def britishEnglish : StylePatterns where
  date := ⟨"EEEE, d MMMM yyyy", "dd MMMM yyyy", "dd-MMM-yyyy", "dd/MM/yy"⟩
  time := ⟨"HH:mm:ss 'o''clock' z", "HH:mm:ss z", "HH:mm:ss", "HH:mm"⟩

/-- The patterns of French. -/
def french : StylePatterns where
  date := ⟨"EEEE d MMMM yyyy", "d MMMM yyyy", "d MMM yyyy", "dd/MM/yy"⟩
  time := ⟨"HH' h 'mm z", "HH:mm:ss z", "HH:mm:ss", "HH:mm"⟩

/-- The patterns of German. -/
def german : StylePatterns where
  date := ⟨"EEEE, d. MMMM yyyy", "d. MMMM yyyy", "dd.MM.yyyy", "dd.MM.yy"⟩
  time := ⟨"HH:mm' Uhr 'z", "HH:mm:ss z", "HH:mm:ss", "HH:mm"⟩

/-- The patterns of Spanish. -/
def spanish : StylePatterns where
  date := ⟨"EEEE d' de 'MMMM' de 'yyyy", "d' de 'MMMM' de 'yyyy", "dd-MMM-yyyy", "d/MM/yy"⟩
  time := ⟨"HH'H'mm' 'z", "H:mm:ss z", "H:mm:ss", "H:mm"⟩

/-- The patterns of Japanese. -/
def japanese : StylePatterns where
  date := ⟨"yyyy'年'M'月'd'日'", "yyyy/MM/dd", "yyyy/MM/dd", "yy/MM/dd"⟩
  time := ⟨"H'時'mm'分'ss'秒' z", "H:mm:ss z", "H:mm:ss", "H:mm"⟩

/-- The patterns of Japanese with the eras of the emperors. -/
def imperial : StylePatterns where
  date := ⟨"GGGGyyyy'年'M'月'd'日'", "Gy.MM.dd", "Gy.MM.dd", "Gyy.MM.dd"⟩
  time := ⟨"H'時'mm'分'ss'秒' z", "H:mm:ss z", "H:mm:ss", "H:mm"⟩

/-- The patterns of a locale, when its language is known. -/
def ofLocale? (locale : Locale) : Option StylePatterns :=
  if locale.isImperial then some imperial
  else match locale.language with
    | "en" => some (if locale.country = "GB" then britishEnglish else americanEnglish)
    | "fr" => some french
    | "de" => some german
    | "es" => some spanish
    | "ja" => some japanese
    | _ => none

end StylePatterns

end DatePattern
