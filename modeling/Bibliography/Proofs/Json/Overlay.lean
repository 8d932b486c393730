import Bibliography.Json.Overlay
import Bibliography.Proofs.Json.Members
/-!
# One object over another

An overlay takes one member after the other, so what is under a key in the end is
told by the upper object only where this names the key once (`get?_overlay`). Two
objects that differ in what is fallen back to anyway still do so with a third one
laid over them, if nothing can be seen through a fallback (`AgreeUpTo.overlay`).
-/

namespace Bibliography.Json

/-- What is seen of a value that is laid over another one, or over nothing. -/
def laidOver (lower : Option Json) (upper : Json) : Json :=
  lower.elim upper (under · upper)

variable {lower upper value : Json}

/-- Nothing is seen through a value that is no object. -/
theorem laidOver_of_leaf (hupper : upper.obj? = none) (lower : Option Json) :
    laidOver lower upper = upper := by
  cases lower with
  | none => rfl
  | some lower =>
    cases upper with
    | obj members => cases hupper
    | _ => simp [laidOver, under]

/-- A value that is no object is not seen through any other. -/
theorem laidOver_some_of_leaf (hlower : lower.obj? = none) (upper : Json) :
    laidOver (some lower) upper = upper := by
  cases upper with
  | obj members =>
    cases lower with
    | obj below => cases hlower
    | _ => simp [laidOver, under]
  | _ => simp [laidOver, under]

/-- So nothing is seen of a fallback either. -/
theorem laidOver_or {fallback : Option Json}
    (hfallback : ∀ value, fallback = some value → value.obj? = none) (lower : Option Json)
    (upper : Json) : laidOver (lower.or fallback) upper = laidOver lower upper := by
  cases lower with
  | some lower => rfl
  | none =>
    cases fallback with
    | none => rfl
    | some value => exact laidOver_some_of_leaf (hfallback value rfl) upper

theorem laidOver_obj (below members : Members) :
    laidOver (some (.obj below)) (.obj members) = .obj (below.overlay members) := by
  rw [laidOver, Option.elim, under]
  rfl

namespace Members

variable {key : String} {members below : Members} {fallback : String → Option Json}

theorem overlay_nil (below : Members) : below.overlay [] = below := by
  rw [overlay, overlayOn]

theorem overlay_cons (m : String × Json) (rest below : Members) :
    below.overlay (m :: rest) = (put m.1 (laidOver (get? m.1 below) m.2) below).overlay rest := by
  rw [overlay, overlayOn]
  cases get? m.1 below <;> rfl

/-- **What is under a key of an overlay**: what the upper object has there, over
what the lower one has, or the latter alone. -/
theorem get?_overlay (hkeys : (members.map (·.1)).Nodup) (key : String) (below : Members) :
    get? key (below.overlay members) =
      ((get? key members).map (laidOver (get? key below))).or (get? key below) := by
  induction members generalizing below with
  | nil => rw [overlay_nil]; rfl
  | cons m rest ih =>
    obtain ⟨k, v⟩ := m
    rw [List.map_cons, List.nodup_cons] at hkeys
    rw [overlay_cons, ih hkeys.2, get?_put]
    by_cases hk : key = k
    · -- no later member has the key
      subst hk
      rw [get?_eq_none hkeys.1, get?_cons, if_pos rfl, if_pos rfl]
      rfl
    · rw [get?_cons, if_neg hk, if_neg hk]

theorem get?_nil_overlay (hkeys : (members.map (·.1)).Nodup) (key : String) :
    get? key (overlay [] members) = get? key members := by
  rw [get?_overlay hkeys]
  cases get? key members <;> rfl

/-- Members that are seen already change nothing. -/
theorem overlay_eq_self
    (h : ∀ m ∈ members, get? m.1 below = some (laidOver (get? m.1 below) m.2)) :
    below.overlay members = below := by
  induction members with
  | nil => exact overlay_nil below
  | cons m rest ih =>
    obtain ⟨hm, hrest⟩ := List.forall_mem_cons.1 h
    rw [overlay_cons, put_of_get? hm, ih hrest]

/-! ## Fallbacks -/

/-- **Members that agree up to fallbacks**: under every key stands the same in both,
if what is not there is taken from the fallbacks. -/
def AgreeUpTo (fallback : String → Option Json) (members members' : Members) : Prop :=
  ∀ key, (get? key members).or (fallback key) = (get? key members').or (fallback key)

variable {below' above : Members}

/-- **Members that agree up to fallbacks agree below any other members**, since
nothing is seen through a fallback. -/
theorem AgreeUpTo.overlay (h : AgreeUpTo fallback below below')
    (hfallback : ∀ key value, fallback key = some value → value.obj? = none)
    (hkeys : (above.map (·.1)).Nodup) :
    AgreeUpTo fallback (below.overlay above) (below'.overlay above) := by
  intro key
  rw [get?_overlay hkeys, get?_overlay hkeys]
  cases get? key above with
  | none => exact h key
  | some value =>
    have hseen : laidOver (get? key below) value = laidOver (get? key below') value := by
      rw [← laidOver_or (hfallback key), h key, laidOver_or (hfallback key)]
    rw [Option.map_some, Option.map_some, hseen]
    rfl

end Members

end Bibliography.Json
