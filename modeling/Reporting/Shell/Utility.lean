import Reporting.Shell.Utility.Bytes
import Reporting.Shell.Utility.Condition
import Reporting.Shell.Utility.Edit
import Reporting.Shell.Utility.Files
import Reporting.Shell.Utility.Printing
import Reporting.Shell.Utility.Search
import Reporting.Shell.Utility.Values

/-!
The programs that scripts are made of, by their names.
-/

namespace Reporting.Shell.Utility

def all : List (String × Utility) :=
  [("[", bracket), ("base64", base64), ("basename", basename), ("cat", cat), ("chmod", chmod),
    ("cmp", cmp), ("cp", cp), ("cut", cut), ("dd", dd), ("dirname", dirname), ("echo", plainEcho),
    ("expr", expr), ("false", false_), ("fold", fold), ("grep", grep), ("head", head), ("ln", ln),
    ("ls", ls), ("mkdir", mkdir), ("mv", mv), ("nl", nl), ("od", od), ("paste", paste),
    ("printenv", printenv), ("printf", printf), ("pwd", pwd), ("rev", rev), ("rm", rm),
    ("rmdir", rmdir), ("sed", sed), ("seq", seq), ("sleep", sleep), ("sort", sort), ("stat", stat),
    ("sync", true_), ("tac", tac), ("tail", tail), ("tee", tee), ("test", test), ("touch", touch),
    ("tr", tr), ("true", true_), ("truncate", truncate), ("uname", uname), ("uniq", uniq),
    ("wc", wc), ("yes", yes)]

end Reporting.Shell.Utility
