import Bibliography.Json.Value
/-!
# Laying one object over another

The upper object wins wherever both have a value, except that objects are
laid over objects member by member. Keys of the lower object keep their
places and new keys follow.
-/

namespace Bibliography.Json

mutual

/-- What is seen of a value with another one over it. -/
def under (lower : Json) : Json → Json
  | obj members =>
    match lower with
    | obj below => obj (overlayOn below members)
    | _ => obj members
  | upper => upper

/-- The members with further ones laid over them, one after the other. -/
def overlayOn (below : Members) : List (String × Json) → Members
  | [] => below
  | (key, value) :: rest =>
    let seen := match Members.get? key below with
      | some lower => under lower value
      | none => value
    overlayOn (Members.put key seen below) rest

end

/-- The members of one object with those of another laid over them. -/
def Members.overlay (lower upper : Members) : Members :=
  overlayOn lower upper

end Bibliography.Json
