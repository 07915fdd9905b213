import DatePattern.Zone.Americas
import DatePattern.Zone.AsiaPacific
import DatePattern.Zone.EuropeAfrica

/-!
A table of regions for programs that have no other one.

The library takes its regions from whoever sets up a registry, so nothing but a program depends on this table.
-/

namespace DatePattern.Region

/-- Second names of regions. -/
def aliases : List Region :=
  [{ History.newYork.region with name := "US/Eastern" }, { greenwich with name := "Etc/UTC" },
    { greenwich with name := "Zulu" }, { greenwich with name := "Greenwich" }]

/-- Some regions of the time zone database, Greenwich first. -/
def sample : List Region :=
  greenwich ::
    ((History.americas ++ History.europeAfrica ++ History.asiaPacific).map (·.region) ++ aliases)

end DatePattern.Region
