import DriverValidation.Config
import DriverValidation.Files.Path

/-!
The names on the way to a path that is joined from a directory and a name. Joining puts the name
behind those of the directory, however the directory is written, so the ready markers of a run stand
side by side in its output directory and have different names.
-/

namespace DriverValidation

namespace Files.Path

/-- A name that stands for itself on the way of a path. -/
structure Plain (name : String) : Prop where
  noSlash : '/' ∉ name.toList
  nonempty : name ≠ ""
  notDot : name ≠ "."

theorem pieces_append_slash (s t : String) : pieces (s ++ "/" ++ t) = pieces s ++ pieces t := by
  have hchars : (s ++ "/" ++ t).toList = s.toList ++ '/' :: t.toList := by
    simp [String.toList_append]
  rw [pieces, hchars, List.splitOn_append_cons_self, List.map_append]
  rfl

theorem pieces_of_noSlash {name : String} (h : '/' ∉ name.toList) : pieces name = [name] := by
  rw [pieces, List.splitOn_eq_singleton h, List.map_singleton, String.ofList_toList]

/-- A text that ends in a slash, cut before it. -/
theorem exists_of_endsWith_slash {s : String} (h : s.endsWith "/" = true) :
    ∃ front, s = front ++ "/" := by
  rw [String.endsWith_eq_endsWith_toSlice, String.Slice.endsWith_string_iff] at h
  obtain ⟨front, hfront⟩ := h
  refine ⟨String.ofList front, String.toList_inj.mp ?_⟩
  simpa [String.toList_append] using hfront.symm

/-- The pieces of a joined path: those of the directory, of which an empty last one may be dropped,
and the name. -/
theorem pieces_join (directory : String) {name : String} (hname : Plain name) :
    ∃ front, pieces (join directory name) = front ++ [name] ∧
      (ofText directory).names = front.filter fun n => n != "" && n != "." := by
  rw [join]
  by_cases hempty : directory = ""
  · subst hempty
    exact ⟨[], by simp [pieces_of_noSlash hname.noSlash], by decide +kernel⟩
  · cases hends : directory.endsWith "/" with
    | true =>
        obtain ⟨front, rfl⟩ := exists_of_endsWith_slash hends
        refine ⟨pieces front, ?_, ?_⟩
        · rw [if_pos (by simp), pieces_append_slash, pieces_of_noSlash hname.noSlash]
        · have hpieces : pieces (front ++ "/") = pieces front ++ [""] := by
            have happend := pieces_append_slash front ""
            rwa [String.append_empty] at happend
          rw [ofText, hpieces, List.filter_append]
          simp
    | false =>
        refine ⟨pieces directory, ?_, rfl⟩
        rw [if_neg (by simp [hempty]), pieces_append_slash, pieces_of_noSlash hname.noSlash]

/-- Joining puts the name behind those of the directory. -/
theorem names_join (directory : String) {name : String} (hname : Plain name) :
    (ofText (join directory name)).names = (ofText directory).names ++ [name] := by
  obtain ⟨front, hpieces, hnames⟩ := pieces_join directory hname
  have hkept : (name != "" && name != ".") = true := by simp [hname.nonempty, hname.notDot]
  rw [ofText, hpieces, hnames]
  simp only [List.filter_append, List.filter_cons, List.filter_nil, hkept, if_true]

theorem ending_join (directory : String) {name : String} (hname : Plain name) :
    (ofText (join directory name)).ending = .bare := by
  obtain ⟨front, hpieces, -⟩ := pieces_join directory hname
  rw [ofText, hpieces, endingOf, List.getLast?_concat]
  split
  · rename_i heq
    exact absurd (Option.some.inj heq) hname.nonempty
  · rename_i heq
    exact absurd (Option.some.inj heq) hname.notDot
  · rfl

/-- A zero byte in a joined path is one of the directory, if the name has none. -/
theorem hasNul_join (directory : String) {name : String} (hname : '\x00' ∉ name.toList) :
    (ofText (join directory name)).hasNul = (ofText directory).hasNul := by
  simp only [ofText, join, List.contains_eq_mem, decide_eq_decide]
  split <;> simp [String.toList_append, hname]

theorem size_ne_zero {s : String} (h : (ofText s).names ≠ []) : (ofText s).size ≠ 0 := by
  intro hsize
  have hempty : s = "" := String.utf8ByteSize_eq_zero_iff.mp hsize
  subst hempty
  exact h (by decide +kernel)

end Files.Path

namespace Component

def markerName (c : Component) : String := c.name ++ "-ready"

theorem plain_markerName (c : Component) : Files.Path.Plain c.markerName := by
  cases c <;> exact ⟨by decide +kernel, by decide, by decide⟩

theorem markerName_ne_dots (c : Component) : c.markerName ≠ ".." := by
  cases c <;> decide

theorem no_nul_markerName (c : Component) : '\x00' ∉ c.markerName.toList := by
  cases c <;> decide +kernel

theorem markerName_injective {a b : Component} (h : a.markerName = b.markerName) : a = b := by
  revert h
  cases a <;> cases b <;> decide

theorem size_markerName_le (c : Component) : c.markerName.utf8ByteSize ≤ 255 := by
  cases c <;> decide +kernel

end Component

end DriverValidation
