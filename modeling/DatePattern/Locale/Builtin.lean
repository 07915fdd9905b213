import DatePattern.Locale.Symbols

/-! The symbols of the languages known by themselves. -/

namespace DatePattern

/-- Weeks that begin on Sunday, the first of which has any day of its period. -/
def WeekRules.sunday : WeekRules := ⟨1, 1⟩

/-- Weeks that begin on Monday, the first of which has most days in its period. -/
def WeekRules.monday : WeekRules := ⟨2, 4⟩

namespace Symbols

/-- American English names. -/
def americanEnglish : Symbols where
  eras := ["BC", "AD"]
  months := #v["January", "February", "March", "April", "May", "June", "July", "August",
    "September", "October", "November", "December"]
  shortMonths := #v["Jan", "Feb", "Mar", "Apr", "May", "Jun", "Jul", "Aug", "Sep", "Oct", "Nov",
    "Dec"]
  weekdays := #v["Sunday", "Monday", "Tuesday", "Wednesday", "Thursday", "Friday", "Saturday"]
  shortWeekdays := #v["Sun", "Mon", "Tue", "Wed", "Thu", "Fri", "Sat"]
  halves := #v["AM", "PM"]
  calendar := ⟨.gregorian, .sunday⟩

/-- British English names, which differ from the American ones in the weeks alone. -/
def britishEnglish : Symbols := { americanEnglish with calendar := ⟨.gregorian, .monday⟩ }

/-- French names. -/
def french : Symbols where
  eras := ["av. J.-C.", "ap. J.-C."]
  months := #v["janvier", "février", "mars", "avril", "mai", "juin", "juillet", "août",
    "septembre", "octobre", "novembre", "décembre"]
  shortMonths := #v["janv.", "févr.", "mars", "avr.", "mai", "juin", "juil.", "août", "sept.",
    "oct.", "nov.", "déc."]
  weekdays := #v["dimanche", "lundi", "mardi", "mercredi", "jeudi", "vendredi", "samedi"]
  shortWeekdays := #v["dim.", "lun.", "mar.", "mer.", "jeu.", "ven.", "sam."]
  halves := #v["AM", "PM"]
  calendar := ⟨.gregorian, .monday⟩

/-- German names. -/
def german : Symbols where
  eras := ["v. Chr.", "n. Chr."]
  months := #v["Januar", "Februar", "März", "April", "Mai", "Juni", "Juli", "August",
    "September", "Oktober", "November", "Dezember"]
  shortMonths := #v["Jan", "Feb", "Mär", "Apr", "Mai", "Jun", "Jul", "Aug", "Sep", "Okt", "Nov",
    "Dez"]
  weekdays := #v["Sonntag", "Montag", "Dienstag", "Mittwoch", "Donnerstag", "Freitag", "Samstag"]
  shortWeekdays := #v["So", "Mo", "Di", "Mi", "Do", "Fr", "Sa"]
  halves := #v["AM", "PM"]
  calendar := ⟨.gregorian, .monday⟩

/-- Spanish names. -/
def spanish : Symbols where
  eras := ["a.C.", "d.C."]
  months := #v["enero", "febrero", "marzo", "abril", "mayo", "junio", "julio", "agosto",
    "septiembre", "octubre", "noviembre", "diciembre"]
  shortMonths := #v["ene", "feb", "mar", "abr", "may", "jun", "jul", "ago", "sep", "oct", "nov",
    "dic"]
  weekdays := #v["domingo", "lunes", "martes", "miércoles", "jueves", "viernes", "sábado"]
  shortWeekdays := #v["dom", "lun", "mar", "mié", "jue", "vie", "sáb"]
  halves := #v["AM", "PM"]
  calendar := ⟨.gregorian, .monday⟩

/-- Japanese names, whose months have no short form. -/
def japanese : Symbols where
  eras := ["紀元前", "西暦"]
  months := #v["1月", "2月", "3月", "4月", "5月", "6月", "7月", "8月", "9月", "10月", "11月",
    "12月"]
  shortMonths := #v["1月", "2月", "3月", "4月", "5月", "6月", "7月", "8月", "9月", "10月", "11月",
    "12月"]
  weekdays := #v["日曜日", "月曜日", "火曜日", "水曜日", "木曜日", "金曜日", "土曜日"]
  shortWeekdays := #v["日", "月", "火", "水", "木", "金", "土"]
  halves := #v["午前", "午後"]
  calendar := ⟨.gregorian, .sunday⟩

/-- Japanese names with the eras of the emperors, the first of which covers all earlier dates. -/
def imperial : Symbols :=
  { japanese with
    eras := ["西暦", "明治", "大正", "昭和", "平成", "令和"]
    calendar := ⟨.imperial, .sunday⟩ }

/-- The symbols of a locale, which are American where its language is not known. -/
def ofLocale (locale : Locale) : Symbols :=
  if locale.isImperial then imperial
  else match locale.language with
    | "en" => if locale.country = "GB" then britishEnglish else americanEnglish
    | "fr" => french
    | "de" => german
    | "es" => spanish
    | "ja" => japanese
    | _ => americanEnglish

end Symbols

end DatePattern
