/-!
# Lines of a text

A text in which every line is closed can be taken apart into its lines, and these are the lines that
it was put together from, as long as none of them holds the end of a line itself.
-/

namespace ObjectStatus
namespace Text

/-- The lines of a text. What stands behind the last end of a line is not a line. -/
def lines (text : String) : List String :=
  (text.toList.splitOn '\n').dropLast.map String.ofList

theorem splitOn_toList_join
    {parts : List String}
    (single : ∀ line ∈ parts, '\n' ∉ line.toList) :
    (String.join (parts.map fun line => line ++ "\n")).toList.splitOn '\n' =
      parts.map String.toList ++ [[]] := by
  induction parts with
  | nil => rfl
  | cons line rest inductionHypothesis =>
      obtain ⟨single_line, single_rest⟩ := List.forall_mem_cons.mp single
      have rest_eq := inductionHypothesis single_rest
      rw [String.toList_join] at rest_eq ⊢
      simp only [List.map_cons, List.flatMap_cons, String.toList_append, List.append_assoc]
      rw [show "\n".toList = ['\n'] from rfl, List.singleton_append,
        List.splitOn_append_cons_self_of_not_mem single_line, rest_eq, List.cons_append]

/-- Lines that are joined are found again. -/
theorem lines_join
    {parts : List String}
    (single : ∀ line ∈ parts, '\n' ∉ line.toList) :
    lines (String.join (parts.map fun line => line ++ "\n")) = parts := by
  rw [lines, splitOn_toList_join single, List.dropLast_concat, List.map_map]
  simp

end Text
end ObjectStatus
