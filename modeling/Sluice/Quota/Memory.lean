import Sluice.Quota.Store

/-!
# Buckets in memory

The state is a catalog of buckets. No operation fails.
-/

namespace Sluice.Memory

/-- The bucket of an id, or a fresh one. -/
def lookup (limits : Limits) (now : Timestamp) (id : String) (c : Catalog Bucket) : Bucket :=
  (c.find? id).getD (Bucket.fresh id limits now)

/-- A store that gives new buckets these limits. -/
def store (limits : Limits) : Store (Catalog Bucket) where
  get now id c :=
    let b := lookup limits now id c
    (.ok b, c.insert id b)
  take now id cost c :=
    let (o, b) := (lookup limits now id c).take cost now
    (.ok o, c.insert id b)
  correct now id s c := (.ok (), c.insert id ((lookup limits now id c).correct s now))
  list c := .ok (c.toList.map (·.2))

end Sluice.Memory
