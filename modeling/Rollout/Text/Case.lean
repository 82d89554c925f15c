/-!
# Letter case

Texts that are the same up to case, where only the letters A to Z have two cases.
-/

namespace Rollout.Text

/-- A text with the letters A to Z in lower case. -/
def lowered (s : String) : String :=
  String.ofList (s.toList.map Char.toLower)

end Rollout.Text
