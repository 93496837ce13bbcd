/-!
Time. Instants and durations are counted in microseconds.
-/

namespace SkinRelay.Time

def millis (n : Nat) : Nat := 1000 * n

def seconds (n : Nat) : Nat := millis (1000 * n)

def days (n : Nat) : Nat := seconds (86400 * n)

/-- The whole milliseconds of a duration. -/
def toMillis (duration : Nat) : Nat := duration / 1000

end SkinRelay.Time
