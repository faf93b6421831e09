/-!
# Regions

The region that a location constraint stands for.
-/

set_option autoImplicit false

namespace BucketRegion.Region

/-- The region of buckets without a constraint; location queries are signed for it. -/
def default : String := "us-east-1"

/-- A region by its constraint: none stands for the default region, and `EU` for Ireland; all
others name their region. -/
def ofConstraint (constraint : String) : String :=
  if constraint == "" then default
  else if constraint == "EU" then "eu-west-1"
  else constraint

end BucketRegion.Region
