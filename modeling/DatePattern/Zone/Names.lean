import DatePattern.Zone.Basic

/-! Display names of zones, as they are printed and read. -/

namespace DatePattern

/-- The display names of one zone. -/
structure ZoneNames where
  /-- The identifier of the zone. -/
  id : String
  /-- The long name of standard time. -/
  longStandard : String
  /-- The short name of standard time. -/
  shortStandard : String
  /-- The long name of daylight saving time. -/
  longDaylight : String
  /-- The short name of daylight saving time. -/
  shortDaylight : String
deriving DecidableEq, Repr

namespace ZoneNames

/-- The name of one kind of time in one length. -/
def name (names : ZoneNames) (daylight long : Bool) : String :=
  match daylight, long with
  | false, true => names.longStandard
  | false, false => names.shortStandard
  | true, true => names.longDaylight
  | true, false => names.shortDaylight

/-- English names; where zones share a name, it means the first of them. -/
def english : List ZoneNames := [
    ⟨"UTC", "Coordinated Universal Time", "UTC", "Coordinated Universal Time", "UTC"⟩,
    ⟨"GMT", "Greenwich Mean Time", "GMT", "Greenwich Mean Time", "GMT"⟩,
    ⟨"America/New_York", "Eastern Standard Time", "EST", "Eastern Daylight Time", "EDT"⟩,
    ⟨"America/Chicago", "Central Standard Time", "CST", "Central Daylight Time", "CDT"⟩,
    ⟨"America/Denver", "Mountain Standard Time", "MST", "Mountain Daylight Time", "MDT"⟩,
    ⟨"America/Phoenix", "Mountain Standard Time", "MST", "Mountain Standard Time", "MST"⟩,
    ⟨"America/Los_Angeles", "Pacific Standard Time", "PST", "Pacific Daylight Time", "PDT"⟩,
    ⟨"America/Anchorage", "Alaska Standard Time", "AKST", "Alaska Daylight Time", "AKDT"⟩,
    ⟨"Pacific/Honolulu", "Hawaii Standard Time", "HST", "Hawaii Daylight Time", "HDT"⟩,
    ⟨"America/Halifax", "Atlantic Standard Time", "AST", "Atlantic Daylight Time", "ADT"⟩,
    ⟨"America/St_Johns", "Newfoundland Standard Time", "NST", "Newfoundland Daylight Time", "NDT"⟩,
    ⟨"America/Sao_Paulo", "Brasilia Time", "BRT", "Brasilia Summer Time", "BRST"⟩,
    ⟨"Europe/London", "Greenwich Mean Time", "GMT", "British Summer Time", "BST"⟩,
    ⟨"Europe/Lisbon", "Western European Time", "WET", "Western European Summer Time", "WEST"⟩,
    ⟨"Europe/Paris", "Central European Time", "CET", "Central European Summer Time", "CEST"⟩,
    ⟨"Europe/Berlin", "Central European Time", "CET", "Central European Summer Time", "CEST"⟩,
    ⟨"Europe/Madrid", "Central European Time", "CET", "Central European Summer Time", "CEST"⟩,
    ⟨"Europe/Athens", "Eastern European Time", "EET", "Eastern European Summer Time", "EEST"⟩,
    ⟨"Europe/Moscow", "Moscow Standard Time", "MSK", "Moscow Daylight Time", "MSD"⟩,
    ⟨"Asia/Dubai", "Gulf Standard Time", "GST", "Gulf Daylight Time", "GDT"⟩,
    ⟨"Asia/Kolkata", "India Standard Time", "IST", "India Daylight Time", "IDT"⟩,
    ⟨"Asia/Kathmandu", "Nepal Time", "NPT", "Nepal Summer Time", "NPST"⟩,
    ⟨"Asia/Shanghai", "China Standard Time", "CST", "China Daylight Time", "CDT"⟩,
    ⟨"Asia/Hong_Kong", "Hong Kong Time", "HKT", "Hong Kong Summer Time", "HKST"⟩,
    ⟨"Asia/Tokyo", "Japan Standard Time", "JST", "Japan Daylight Time", "JDT"⟩,
    ⟨"Asia/Seoul", "Korea Standard Time", "KST", "Korea Daylight Time", "KDT"⟩,
    ⟨"Australia/Perth", "Australian Western Standard Time", "AWST",
      "Australian Western Daylight Time", "AWDT"⟩,
    ⟨"Australia/Adelaide", "Australian Central Standard Time (South Australia)", "ACST",
      "Australian Central Daylight Time (South Australia)", "ACDT"⟩,
    ⟨"Australia/Sydney", "Australian Eastern Standard Time (New South Wales)", "AEST",
      "Australian Eastern Daylight Time (New South Wales)", "AEDT"⟩,
    ⟨"Australia/Lord_Howe", "Lord Howe Standard Time", "LHST", "Lord Howe Daylight Time", "LHDT"⟩,
    ⟨"Pacific/Auckland", "New Zealand Standard Time", "NZST", "New Zealand Daylight Time", "NZDT"⟩]

end ZoneNames

/-- The display name of a zone, which spells out an offset where the table has no entry. -/
def Zone.displayName (zone : Zone) (daylight long : Bool) (table : List ZoneNames)
    (reference : Int) : String :=
  match table.find? (·.id == zone.id) with
  | some names => names.name daylight long
  | none =>
    -- The offset is the one that the zone uses in the year around the reference.
    String.ofList (CustomZone.render ((zone.offsetsAt reference).standard +
      if daylight then zone.daylightSaving reference else 0))

end DatePattern
