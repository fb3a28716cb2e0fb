import BringUp.Pattern
import BringUp.Table
import BringUp.Text.Template

/-!
# Variables

Variables hold texts that were captured from replies and results. Commands refer to them by
references, which are replaced in a single pass: a value that holds a reference is inserted as it
is. A variable that was never set counts as empty there.
-/

namespace BringUp

/-- The variables of a session. -/
abbrev Variables := Table String

namespace Variables

/-- What a piece of a command becomes. -/
def expand (v : Variables) : Text.Piece → List Char
  | .char c => [c]
  | .reference name => ((v.get? (String.ofList name)).getD "").toList

/-- The text with every reference replaced by the value of its variable. -/
def substitute (text : String) (v : Variables) : String :=
  String.ofList ((Text.templatePieces Unicode.isWord text.toList).flatMap v.expand)

/-- The variables after a text is matched: each named group that took part in the match is set to
the part it matched. Nothing if the pattern does not match. -/
def capture? (p : Pattern) (text : String) (v : Variables) : Option Variables :=
  (p.captures? text).map v.setAll

end Variables

end BringUp
