import GuestSeat.Ids

/-!
The registry of the clip's owner. It belongs to the desktop thread; the other threads report to it when
their capture windows come and go, and a new owner evicts the one before it.
-/

namespace GuestSeat

structure ClipRegistry where
  /-- The capture window that owns the clip, null if there is none. -/
  owner : Handle := Handle.null
deriving DecidableEq, Inhabited

/-- What became of a report. -/
inductive OwnerUpdate
  /-- It counts; a window that was evicted has to be told. -/
  | accepted (evicted : Option Handle)
  /-- A window gave up a clip that it does not own. -/
  | rejected
deriving DecidableEq, Inhabited

namespace ClipRegistry

/-- Take the report that the clip passed from `source` to `target`, which is null if it ended. -/
def update (r : ClipRegistry) (source target : Handle) : ClipRegistry × OwnerUpdate :=
  if target.isNull then
    if source = r.owner then (⟨Handle.null⟩, .accepted none) else (r, .rejected)
  else
    (⟨target⟩, .accepted (r.owner.nonNull?.filter fun h => h != target && h != source))

end ClipRegistry

end GuestSeat
