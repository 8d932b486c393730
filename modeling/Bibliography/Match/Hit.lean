import Bibliography.Match.Rule
/-!
# Hits

A record is a hit of a query when every token matches it. The hit keeps
what each token found, and from that come its strength and its score.
-/

namespace Bibliography.Match

/-- All that one token finds in a record. -/
def ofToken (token : Query.Token) (r : Record) : Except NumeralError (List Found) := do
  let rules := match token.field with
    | some field => [Rule.ofField field]
    | none => Rule.all
  return (← rules.mapM (Rule.find token.value r)).filterMap id

/-- A token and what it found. -/
structure TokenMatch where
  token : Query.Token
  found : List Found
  deriving DecidableEq, Repr

/-- A token matches exactly when one of the fields it found does. -/
def TokenMatch.strength (m : TokenMatch) : Strength :=
  if m.found.any (·.strength == .exact) then .exact else .inPart

/-- What each token finds in a record, if each finds something. Tokens after
one that finds nothing are not looked for. -/
def ofTokens (r : Record) : List Query.Token → Except NumeralError (Option (List TokenMatch))
  | [] => .ok (some [])
  | token :: rest => do
    let found ← ofToken token r
    if found.isEmpty then return none
    return (← ofTokens r rest).map (⟨token, found⟩ :: ·)

/-- A record that every token of a query matches. -/
structure Hit where
  entry : Entry
  /-- What each token found, in the order of the query. -/
  tokens : List TokenMatch
  deriving Repr

namespace Hit

/-- The strength after one more token: once exact, it stays exact. -/
def raise (strength : Strength) (m : TokenMatch) : Strength :=
  if m.strength = .exact then .exact
  else if strength = .none then .inPart
  else strength

/-- The strength that the tokens bring about, one after the other. -/
def strength (h : Hit) : Strength :=
  h.tokens.foldl raise .none

/-- Exact hits start at a hundred, others at fifty; each token counts one. -/
def score (h : Hit) : Nat :=
  (if h.strength = .exact then 100 else 50) + h.tokens.length

/-- The names that occur, each where it stands first. -/
def distinct (names : List String) : List String :=
  names.foldl (fun seen n => if seen.contains n then seen else seen ++ [n]) []

/-- The names of the fields that the tokens found, without repetitions. -/
def fields (h : Hit) : List String :=
  distinct (h.tokens.flatMap fun m => m.found.map (·.field))

end Hit

/-- Matches a record with the tokens of a query. No record matches a query
without tokens. -/
def hit? (tokens : List Query.Token) (entry : Entry) : Except NumeralError (Option Hit) :=
  if tokens.isEmpty then .ok none
  else (ofTokens entry.record tokens).map (·.map fun found => ⟨entry, found⟩)

/-- The hits among the records, in their order. -/
def hits (tokens : List Query.Token) (entries : List Entry) : Except NumeralError (List Hit) := do
  return (← entries.mapM (hit? tokens)).filterMap id

end Bibliography.Match
