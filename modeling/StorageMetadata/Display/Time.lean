import StorageMetadata.Resource.Instant

/-!
# Times for people

A time is shown by its timestamp, as it stands in a resource.
-/

namespace StorageMetadata.Display

/-- The text of a time; nothing is shown as a dash. -/
def timeText (millis : Value) : Result String :=
  if millis = .null then .ok "-" else Resource.writeInstant "timestamp" millis

end StorageMetadata.Display
