/-!
# Authentication tokens

A sender asks for a token once for every batch.
-/

namespace MetricRelay

/-- There is no token, for a reason. -/
structure NoToken where
  reason : String
deriving DecidableEq, Repr

def NoToken.message (e : NoToken) : String := s!"No authentication token available: {e.reason}"

/-- The answer to each time a token is asked for, counted from zero. -/
abbrev TokenProvider := Nat → Except NoToken String

namespace TokenProvider

/-- One token for ever; an empty one is none. -/
def fixed (token : String) : TokenProvider := fun _ =>
  if token.isEmpty then .error ⟨"configured token is empty"⟩ else .ok token

/-- A fixed token as it is shown, which does not give it away. -/
def shownFixed (_ : String) : String :=
  "StaticAuthToken \x7b token: \"<redacted>\" \x7d"

end TokenProvider

end MetricRelay
