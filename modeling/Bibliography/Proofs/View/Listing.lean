import Bibliography.View.Listing
import Mathlib.Data.List.TakeWhile
/-!
# Listings, entry by entry

The text of a listing is the texts of its entries, one after the other, with an empty
line between them (`text_cons`). Only at the end blanks are cut off, and those are blanks
of the last entry (`text_singleton`); its heading and all before stay as they are.
-/

namespace Bibliography

namespace Text

/-- Blanks at the end are cut off from the last part that is not blank. -/
theorem stripEnd_append {cs ds : List Char} (h : ∃ c ∈ ds, isBlank c = false) :
    stripEnd (cs ++ ds) = cs ++ stripEnd ds := by
  have hrest : (ds.reverse.dropWhile isBlank).isEmpty = false := by
    rw [List.isEmpty_eq_false_iff, ne_eq, List.dropWhile_eq_nil_iff]
    obtain ⟨c, hc, hblank⟩ := h
    exact fun hall => by simp [hall c (List.mem_reverse.2 hc)] at hblank
  rw [stripEnd, List.reverse_append, List.dropWhile_append, hrest, if_neg Bool.false_ne_true,
    List.reverse_append, List.reverse_reverse]
  rfl

end Text

namespace Listing

variable {v : View} {views rest : List View} {start number : Int}

/-- The line of an entry that has its number. -/
def heading (number : Int) (v : View) : String :=
  Number.intText number ++ ". [" ++ (v.id ++ "] " ++
    (if v.title.isEmpty then "(untitled)" else v.title))

/-- The lines below the heading of an entry. -/
def detailLines (v : View) : List String :=
  ["   Authors: " ++ authors v.authors, "   Published: " ++ published v] ++
    optional "DOI" v.doi ++ optional "URL" v.url ++ matched v

/-- What is said below the heading of an entry. -/
def body (v : View) : String :=
  "\n".intercalate (detailLines v)

/-- What is left of it at the end of a listing, where blanks are cut off. -/
def lastBody (v : View) : String :=
  String.ofList (Text.stripEnd (body v ++ "\n").toList)

theorem detailLines_ne_nil (v : View) : detailLines v ≠ [] := by
  simp [detailLines]

theorem entryLines_eq : entryLines number v = heading number v :: detailLines v := by
  simp [entryLines, heading, detailLines, String.append_assoc]

theorem intercalate_entryLines :
    "\n".intercalate (entryLines number v) = heading number v ++ "\n" ++ body v := by
  rw [entryLines_eq, String.intercalate_cons_of_ne_nil (detailLines_ne_nil v)]
  rfl

/-- The first line below a heading is that of the authors. -/
theorem exists_body_eq (v : View) : ∃ more, body v = "   Authors: " ++ more := by
  rw [body, detailLines, List.append_assoc, List.append_assoc, List.cons_append,
    String.intercalate_cons_of_ne_nil (by simp), String.append_assoc, String.append_assoc]
  exact ⟨_, rfl⟩

theorem lines_ne_nil (hne : views ≠ []) : lines start views ≠ [] := by
  cases views with
  | nil => exact absurd rfl hne
  | cons v rest => simp [lines]

theorem intercalate_lines_singleton :
    "\n".intercalate (lines start [v]) = heading start v ++ "\n" ++ (body v ++ "\n") := by
  have hlines : lines start [v] = entryLines start v ++ [""] := by simp [lines]
  rw [hlines, String.intercalate_append_of_ne_nil (by simp [entryLines]) (by simp),
    intercalate_entryLines, String.intercalate_singleton, String.append_empty, String.append_assoc]

theorem intercalate_lines_cons (hrest : rest ≠ []) :
    "\n".intercalate (lines start (v :: rest)) =
      heading start v ++ "\n" ++ body v ++ "\n\n" ++
        "\n".intercalate (lines (start + 1) rest) := by
  have hblank : "\n".intercalate [""] = "" := String.intercalate_singleton
  rw [lines, String.intercalate_append_of_ne_nil (by simp) (lines_ne_nil hrest),
    String.intercalate_append_of_ne_nil (by simp [entryLines]) (by simp), intercalate_entryLines,
    hblank, String.append_empty]
  simp only [String.append_assoc]
  rfl

/-- There is a heading in every listing, which is no blank text. -/
theorem exists_not_isBlank (hne : views ≠ []) :
    ∃ c ∈ ("\n".intercalate (lines start views)).toList, Text.isBlank c = false := by
  have hdot : Text.isBlank '.' = false := by decide
  obtain ⟨v, rest, rfl⟩ := List.exists_cons_of_ne_nil hne
  refine ⟨'.', ?_, hdot⟩
  rcases eq_or_ne rest [] with rfl | hrest
  · rw [intercalate_lines_singleton, heading]
    simp
  · rw [intercalate_lines_cons hrest, heading]
    simp

/-- **One entry.** At its end blanks are cut off. -/
theorem text_singleton :
    text [v] start = heading start v ++ "\n" ++ lastBody v ++ "\n" := by
  have hcolon : Text.isBlank ':' = false := by decide
  obtain ⟨more, hbody⟩ := exists_body_eq v
  have hmore : ∃ c ∈ (body v ++ "\n").toList, Text.isBlank c = false :=
    ⟨':', by rw [hbody]; simp, hcolon⟩
  rw [text, if_neg (by simp), intercalate_lines_singleton, String.toList_append,
    Text.stripEnd_append hmore, String.ofList_append, String.ofList_toList, lastBody]

/-- **And the entries behind it**, after an empty line. -/
theorem text_cons (hrest : rest ≠ []) :
    text (v :: rest) start =
      heading start v ++ "\n" ++ body v ++ "\n\n" ++ text rest (start + 1) := by
  rw [text, text, if_neg (by simp), if_neg (by simpa using hrest), intercalate_lines_cons hrest,
    String.toList_append, Text.stripEnd_append (exists_not_isBlank hrest), String.ofList_append,
    String.ofList_toList, String.append_assoc]

end Listing

end Bibliography
