import Apexd.Text.Decimal

/-! # Fields of a text

`split` cuts a text at every occurrence of a character and `join` puts the fields together again.
-/

namespace Text

/-- The fields between the occurrences of `c`; an empty text has one empty field. -/
def split (c : Char) (text : String) : List String :=
  (text.toList.splitOn c).map String.ofList

def join (c : Char) (fields : List String) : String :=
  .ofList ([c].intercalate (fields.map String.toList))

theorem split_join {c : Char} {fields : List String} (some : fields ≠ [])
    (fresh : ∀ field ∈ fields, c ∉ field.toList) : split c (join c fields) = fields := by
  have parts : ∀ part ∈ fields.map String.toList, c ∉ part := by
    intro part member
    obtain ⟨field, inside, rfl⟩ := List.mem_map.mp member
    exact fresh field inside
  rw [split, join, String.toList_ofList, List.splitOn_intercalate c parts (by simpa using some),
    List.map_map]
  simp

theorem mem_join {c d : Char} {fields : List String} (member : d ∈ (join c fields).toList) :
    d = c ∨ ∃ field ∈ fields, d ∈ field.toList := by
  rw [join, String.toList_ofList] at member
  induction fields with
  | nil => simp at member
  | cons field rest ih =>
    cases rest with
    | nil => exact .inr ⟨field, by simp, by simpa using member⟩
    | cons next rest =>
      rw [List.map_cons, List.map_cons, List.intercalate_cons_cons, List.append_assoc,
        List.mem_append, List.mem_append] at member
      rcases member with here | separator | later
      · exact .inr ⟨field, by simp, here⟩
      · exact .inl (by simpa using separator)
      · rcases ih later with same | ⟨field, inside, found⟩
        · exact .inl same
        · exact .inr ⟨field, List.mem_cons_of_mem _ inside, found⟩

end Text
