/-!
# Text for a plain terminal

Sequences that set colours and move the cursor are left out of what is
printed: an escape character, an opening bracket, digits with semicolons
and question marks, and a letter.
-/

namespace Bibliography.Output

/-- The parameters of a control sequence. -/
def isParameter (c : Char) : Bool :=
  c == ';' || c == '?' || c.isDigit

/-- What follows a control sequence at the front of a text. -/
def afterControl? : List Char → Option (List Char)
  | '\x1b' :: '[' :: rest =>
    match rest.dropWhile isParameter with
    | c :: after => if c.isAlpha then some after else none
    | [] => none
  | _ => none

theorem length_afterControl?_lt {cs after : List Char} (h : afterControl? cs = some after) :
    after.length < cs.length := by
  unfold afterControl? at h
  split at h
  · rename_i rest
    have hle := (List.dropWhile_suffix (p := isParameter) (l := rest)).length_le
    split at h
    · rename_i c tail hd
      rw [hd] at hle
      split at h
      · cases h
        simp only [List.length_cons] at hle ⊢
        omega
      · simp at h
    · simp at h
  · simp at h

/-- The text without control sequences. -/
def withoutControls (cs : List Char) : List Char :=
  match _h : afterControl? cs with
  | some after => withoutControls after
  | none =>
    match cs with
    | [] => []
    | c :: rest => c :: withoutControls rest
termination_by cs.length
decreasing_by
  · exact length_afterControl?_lt _h
  · simp

/-- What a text looks like when it is printed. -/
def plain (text : String) : String :=
  String.ofList (withoutControls text.toList)

end Bibliography.Output
