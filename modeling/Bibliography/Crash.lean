/-!
# Crashes

What the program calls may end in an error that the program has not prepared
for. All that is known of such an error is its name and what it reports.
-/

namespace Bibliography

/-- An error that nobody has prepared for. -/
structure Crash where
  name : String
  message : String
  deriving DecidableEq, Repr

end Bibliography
