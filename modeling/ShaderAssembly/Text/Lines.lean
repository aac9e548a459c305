/-!
# Texts written line by line

A text given as the list of its lines, each of which ends with a line break.
-/

namespace ShaderAssembly.Text

/-- The lines one after another, each with a line break at its end. -/
def ofLines : List String → String
  | [] => ""
  | line :: lines => line ++ "\n" ++ ofLines lines

theorem ofLines_append (a b : List String) : ofLines (a ++ b) = ofLines a ++ ofLines b := by
  induction a with
  | nil => simp [ofLines]
  | cons line lines ih => simp [ofLines, ih, String.append_assoc]

theorem toList_ofLines (lines : List String) :
    (ofLines lines).toList = lines.flatMap fun line => line.toList ++ ['\n'] := by
  induction lines with
  | nil => rfl
  | cons line lines ih =>
      rw [ofLines, String.toList_append, String.toList_append, ih, List.flatMap_cons]
      rfl

end ShaderAssembly.Text
