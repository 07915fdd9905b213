import DatePattern.Locale.Basic
import DatePattern.Zone.Basic

/-! Defaults that a process takes from its environment variables. -/

namespace DatePattern.Environment

/-- The locale that a variable's value such as de_DE.UTF-8@euro names, if it names any. -/
def localeOf? (value : String) : Option Locale :=
  -- The encoding and the modifier are no part of the tag.
  let tag := Text.trim (value.toList.takeWhile fun c => c != '.' && c != '@')
  if tag = [] then none
  else if tag = ['C'] ∨ tag = ['P', 'O', 'S', 'I', 'X'] then some .americanEnglish
  else some (.ofTag (String.ofList tag))

/-- The locale of the first variable that names one, and American English otherwise. -/
def locale (setting : String → Option String) : Locale :=
  ((["LC_ALL", "LC_TIME", "LANG"].findSome? fun name =>
    (setting name).bind localeOf?)).getD .americanEnglish

/-- The zone named by the variable TZ, else the zone of the host, else UTC. -/
def zone (regions : List Region) (setting : String → Option String) (host : Option String) : Zone :=
  -- A colon may precede the name in the variable.
  let named := (setting "TZ").bind fun value =>
    Zone.ofId? regions (String.ofList (value.toList.dropWhile (· == ':')))
  (named.orElse fun _ => host.bind (Zone.ofId? regions)).getD .utc

end DatePattern.Environment
