import Bibliography.Proofs.View.Listing
import Mathlib.Data.List.DropRight
/-!
# Listings one behind the other

The text of an entry (`entry`) is made of its number and its view, and a listing is the
texts of its entries with empty lines between (`text_eq`). Only the last one is cut off at
its end (`lastEntry`), which is all that stands in the way of putting listings one behind
the other: where its last line does not end in a blank, the listing of all entries is the
listings of the two parts (`text_append_eq_iff`).
-/

namespace Bibliography

namespace Text

variable {cs : List Char} {c : Char}

/-- A blank at the end is cut off. -/
theorem stripEnd_concat (h : isBlank c = true) : stripEnd (cs ++ [c]) = stripEnd cs :=
  List.rdropWhile_concat_pos isBlank cs c h

/-- Nothing is cut off where the last character is no blank. -/
theorem stripEnd_eq_self_iff : stripEnd cs = cs ↔ ∀ c ∈ cs.getLast?, isBlank c = false := by
  have hself : stripEnd cs = cs ↔ ∀ hne : cs ≠ [], ¬ isBlank (cs.getLast hne) = true :=
    List.rdropWhile_eq_self_iff
  rw [hself]
  rcases eq_or_ne cs [] with rfl | hne
  · simp
  · simp [List.getLast?_eq_some_getLast hne, hne]

/-- What is left ends in a character that is no blank. -/
theorem exists_stripEnd_eq (h : ∃ c ∈ cs, isBlank c = false) :
    ∃ front c, stripEnd cs = front ++ [c] ∧ isBlank c = false := by
  have hne : cs.rdropWhile isBlank ≠ [] := by
    obtain ⟨c, hc, hbare⟩ := h
    intro hnil
    have hblank := List.rdropWhile_eq_nil_iff.1 hnil c hc
    simp [hbare] at hblank
  have hlast := List.rdropWhile_last_not isBlank cs hne
  exact ⟨_, _, (List.dropLast_append_getLast hne).symm, by simpa using hlast⟩

end Text

namespace Listing

/-- The text does not end in a blank. -/
def EndsBare (s : String) : Prop :=
  ∀ c ∈ s.toList.getLast?, Text.isBlank c = false

instance (s : String) : Decidable (EndsBare s) :=
  decidable_of_iff (s.toList.getLast?.all (!Text.isBlank ·) = true)
    (by simp [EndsBare, Option.all_eq_true])

/-- The last line of an entry. -/
def lastDetail (v : View) : String :=
  (detailLines v).getLast (detailLines_ne_nil v)

/-- **The text of an entry**, of a number and a view. -/
def entry (number : Int) (v : View) : String :=
  "\n".intercalate (entryLines number v)

/-- What is left of it at the end of a listing. -/
def lastEntry (number : Int) (v : View) : String :=
  String.ofList (Text.stripEnd (entry number v).toList)

section Entry

variable {v : View} {number : Int}

theorem entry_eq : entry number v = heading number v ++ "\n" ++ body v :=
  intercalate_entryLines

theorem lastEntry_eq : lastEntry number v = heading number v ++ "\n" ++ lastBody v := by
  have hcolon : Text.isBlank ':' = false := by decide
  have hend : Text.isBlank '\n' = true := by decide
  obtain ⟨more, hbody⟩ := exists_body_eq v
  have hbare : ∃ c ∈ (body v).toList, Text.isBlank c = false :=
    ⟨':', by rw [hbody]; simp, hcolon⟩
  have hlines : (body v ++ "\n").toList = (body v).toList ++ ['\n'] := by simp
  rw [lastEntry, entry_eq, String.toList_append, Text.stripEnd_append hbare, String.ofList_append,
    String.ofList_toList, lastBody, hlines, Text.stripEnd_concat hend]

theorem ne_empty_of_mem_optional {label : String} {field : Option String} {line : String}
    (h : line ∈ optional label field) : line ≠ "" := by
  unfold optional at h
  split at h
  · obtain rfl := List.mem_singleton.1 h
    simp [← String.toList_inj]
  · cases h

theorem ne_empty_of_mem_matched {line : String} (h : line ∈ matched v) : line ≠ "" := by
  unfold matched at h
  split at h
  · obtain rfl := List.mem_singleton.1 h
    simp [← String.toList_inj]
  · split at h
    · obtain rfl := List.mem_singleton.1 h
      simp [← String.toList_inj]
    · cases h

/-- Each line below a heading has a label in front. -/
theorem lastDetail_ne_empty (v : View) : lastDetail v ≠ "" := by
  have hmem : lastDetail v ∈ detailLines v := List.getLast_mem _
  simp only [detailLines, List.mem_append, List.mem_cons, List.not_mem_nil, or_false] at hmem
  rcases hmem with (((h | h) | h) | h) | h
  · simp [h, ← String.toList_inj]
  · simp [h, ← String.toList_inj]
  · exact ne_empty_of_mem_optional h
  · exact ne_empty_of_mem_optional h
  · exact ne_empty_of_mem_matched h

/-- An entry ends as its last line does, whatever its number. -/
theorem getLast?_entry : (entry number v).toList.getLast? = (lastDetail v).toList.getLast? := by
  have hlines : entryLines number v =
      (heading number v :: (detailLines v).dropLast) ++ [lastDetail v] := by
    rw [entryLines_eq, List.cons_append, lastDetail, List.dropLast_append_getLast]
  have hne : (lastDetail v).toList ≠ [] := by simpa using lastDetail_ne_empty v
  rw [entry, hlines, String.intercalate_append_of_ne_nil (by simp) (by simp),
    String.intercalate_singleton, String.toList_append, List.getLast?_append,
    List.getLast?_eq_some_getLast hne, Option.some_or]

/-- **An entry stays whole at the end of a listing** just if its last line does not end in a
blank. -/
theorem lastEntry_eq_entry_iff : lastEntry number v = entry number v ↔ EndsBare (lastDetail v) := by
  rw [lastEntry, ← String.toList_inj, String.toList_ofList, Text.stripEnd_eq_self_iff,
    getLast?_entry]
  rfl

end Entry

section Listings

variable {v : View} {views more : List View} {start : Int}

theorem text_one : text [v] start = lastEntry start v ++ "\n" := by
  rw [text_singleton, lastEntry_eq]

theorem text_more (hviews : views ≠ []) :
    text (v :: views) start = entry start v ++ "\n\n" ++ text views (start + 1) := by
  rw [text_cons hviews, entry_eq]

/-- **A listing is the texts of its entries**, each of a number and a view. -/
theorem text_eq (hviews : views ≠ []) :
    text views start =
      String.join (views.dropLast.mapIdx fun i v => entry (start + i) v ++ "\n\n") ++
        (lastEntry (start + (views.length - 1)) (views.getLast hviews) ++ "\n") := by
  induction views generalizing start with
  | nil => exact absurd rfl hviews
  | cons v rest ih =>
    rcases eq_or_ne rest [] with rfl | hrest
    · simp [text_one]
    · have hnumber : ∀ i : Nat, start + 1 + (i : Int) = start + ((i + 1 : Nat) : Int) := by
        intro i
        omega
      have hlast : start + 1 + ((rest.length : Int) - 1) = start + (((v :: rest).length : Int) - 1) := by
        rw [List.length_cons]
        omega
      rw [text_more hrest, ih hrest, List.dropLast_cons_of_ne_nil hrest, List.mapIdx_cons,
        String.join_cons, List.getLast_cons hrest, hlast, Int.natCast_zero, Int.add_zero,
        String.append_assoc, String.append_assoc, String.append_assoc]
      simp only [hnumber]

/-- **Listings may be put one behind the other**, with an empty line between, just where the
first one loses nothing at its end. -/
theorem text_append_iff (hviews : views ≠ []) (hmore : more ≠ []) :
    text (views ++ more) start = text views start ++ "\n" ++ text more (start + views.length) ↔
      EndsBare (lastDetail (views.getLast hviews)) := by
  induction views generalizing start with
  | nil => exact absurd rfl hviews
  | cons v rest ih =>
    rcases eq_or_ne rest [] with rfl | hrest
    · have hgap : "\n\n" = "\n" ++ "\n" := rfl
      rw [List.singleton_append, text_more hmore, text_one, List.length_singleton,
        Int.natCast_one, List.getLast_singleton, hgap, ← String.append_assoc,
        String.append_left_inj, String.append_left_inj, String.append_left_inj, eq_comm,
        lastEntry_eq_entry_iff]
    · have happend : rest ++ more ≠ [] := by simp [hrest]
      have hnumber : start + ((v :: rest).length : Int) = start + 1 + rest.length := by
        rw [List.length_cons]
        omega
      have hfront : ∀ first later : String, entry start v ++ "\n\n" ++ first ++ "\n" ++ later =
          entry start v ++ "\n\n" ++ (first ++ "\n" ++ later) := by
        intro first later
        simp only [String.append_assoc]
      rw [List.cons_append, text_more happend, text_more hrest, hnumber, List.getLast_cons hrest,
        hfront, String.append_right_inj, ih hrest]

/-- A listing ends in a single line end. -/
theorem exists_text_eq (hviews : views ≠ []) (start : Int) :
    ∃ front c, text views start = String.ofList (front ++ [c]) ++ "\n" ∧
      Text.isBlank c = false := by
  obtain ⟨front, c, hstrip, hc⟩ := Text.exists_stripEnd_eq (exists_not_isBlank hviews)
  exact ⟨front, c, by rw [text, if_neg (by simpa using hviews), hstrip], hc⟩

/-- **Listings compose.** That of all views is that of the first of them, an empty line and
that of the others with the numbers that follow, just where the last line of the first part
does not end in a blank. What stands in a listing for an entry is told by its number and its
view alone, and by whether it is the last. After the last there is a single line end. -/
theorem text_append_eq_iff (hviews : views ≠ []) :
    (∀ more ≠ [],
      text (views ++ more) start =
          text views start ++ "\n" ++ text more (start + views.length) ↔
        EndsBare (lastDetail (views.getLast hviews))) ∧
      text views start =
        String.join (views.dropLast.mapIdx fun i v => entry (start + i) v ++ "\n\n") ++
          (lastEntry (start + (views.length - 1)) (views.getLast hviews) ++ "\n") ∧
      ∃ front c, text views start = String.ofList (front ++ [c]) ++ "\n" ∧ c ≠ '\n' := by
  refine ⟨fun more hmore => text_append_iff hviews hmore, text_eq hviews, ?_⟩
  have hend : Text.isBlank '\n' = true := by decide
  obtain ⟨front, c, htext, hbare⟩ := exists_text_eq hviews start
  refine ⟨front, c, htext, ?_⟩
  rintro rfl
  simp [hend] at hbare

/-- A view with a title of two lines, and with its address below all else. -/
def unevenView (doi : String) : View where
  id := "smith2023"
  title := "Machine learning\nin radiology "
  authors := ["Smith John", "RSNA Working Group"]
  year := some "2023"
  containerTitle := some "Radiology"
  doi := some doi
  url := none
  uuid := none
  matchedFields := []
  tokenFields := []

theorem text_append_eq_iff_uneven :
    (∀ doi, [unevenView doi] ≠ []) ∧
      text ([unevenView "10.1148/x"] ++ [unevenView "10.1148/y"]) 3 =
        text [unevenView "10.1148/x"] 3 ++ "\n" ++ text [unevenView "10.1148/y"] 4 ∧
      text ([unevenView "10.1148/x "] ++ [unevenView "10.1148/y"]) 3 ≠
        text [unevenView "10.1148/x "] 3 ++ "\n" ++ text [unevenView "10.1148/y"] 4 := by
  have hsome : ∀ doi, [unevenView doi] ≠ [] := fun doi => List.cons_ne_nil _ _
  have hbare : EndsBare (lastDetail (unevenView "10.1148/x")) := by decide
  have hblank : ¬ EndsBare (lastDetail (unevenView "10.1148/x ")) := by decide
  exact ⟨hsome, ((text_append_eq_iff (hsome _)).1 _ (hsome _)).2 hbare,
    fun happend => hblank (((text_append_eq_iff (hsome _)).1 _ (hsome _)).1 happend)⟩

end Listings

end Listing

end Bibliography
