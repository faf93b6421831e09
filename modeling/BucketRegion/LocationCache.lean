import BucketRegion.Value.Basic

/-!
# The location cache

The regions of buckets that have been looked up. Entries do not expire; a bucket is forgotten
only on demand.
-/

set_option autoImplicit false

namespace BucketRegion

/-- Regions by bucket, in order of first storing. -/
structure LocationCache where
  entries : List (String × String)
  deriving Repr, DecidableEq

namespace LocationCache

def empty : LocationCache := ⟨[]⟩

/-- The stored region of a bucket. -/
def get? (cache : LocationCache) (bucket : String) : Option String :=
  Fields.get? bucket cache.entries

/-- Stores the region of a bucket in the place of an earlier one. -/
def set (cache : LocationCache) (bucket region : String) : LocationCache :=
  ⟨Fields.put bucket region cache.entries⟩

/-- Forgets a bucket. -/
def delete (cache : LocationCache) (bucket : String) : LocationCache :=
  ⟨Fields.erase bucket cache.entries⟩

def size (cache : LocationCache) : Nat := cache.entries.length

end LocationCache

end BucketRegion
