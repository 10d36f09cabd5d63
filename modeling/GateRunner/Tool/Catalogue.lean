import GateRunner.Program.Condition
import GateRunner.Program.Printf
import GateRunner.Tool.Compare
import GateRunner.Tool.Copy
import GateRunner.Tool.Cut
import GateRunner.Tool.Edit
import GateRunner.Tool.Ends
import GateRunner.Tool.Expression
import GateRunner.Tool.Files
import GateRunner.Tool.Find
import GateRunner.Tool.Launch
import GateRunner.Tool.Listing
import GateRunner.Tool.Search
import GateRunner.Tool.Sequence
import GateRunner.Tool.Show
import GateRunner.Tool.Sort
import GateRunner.Tool.Transliterate

/-!
# The programs there are

The programs that stand in the directory for programs, by name.
-/

namespace GateRunner

/-- The programs by name, all but the shell. -/
def tools : List (String × Tool) :=
  [("[", testProgram), ("basename", basenameProgram), ("cat", catProgram), ("chmod", chmodProgram), ("cmp",
    cmpProgram), ("comm", commProgram), ("cp", cpProgram), ("cut", cutProgram), ("diff", diffProgram), ("dirname",
    dirnameProgram), ("echo", echoProgram), ("egrep", grepWith 'E'), ("env", envProgram), ("expr", exprProgram),
    ("false", fun _ => return 1), ("fgrep", grepWith 'F'), ("find", findProgram), ("fold", foldProgram), ("grep",
    grepWith 'G'), ("head", headProgram), ("ln", lnProgram), ("ls", lsProgram), ("mkdir", mkdirProgram), ("mktemp",
    mktempProgram), ("mv", mvProgram), ("nice", niceProgram), ("nl", nlProgram), ("nohup", nohupProgram), ("paste",
    pasteProgram), ("printenv", printenvProgram), ("printf", printfProgram), ("pwd", pwdProgram), ("readlink",
    readlinkProgram), ("realpath", realpathProgram), ("rev", revProgram), ("rm", rmProgram), ("rmdir",
    rmdirProgram), ("sed", sedProgram), ("seq", seqProgram), ("sleep", sleepProgram), ("sort", sortProgram),
    ("stat", statProgram), ("tac", tacProgram), ("tail", tailProgram), ("tee", teeProgram), ("test", testProgram),
    ("timeout", timeoutProgram), ("touch", touchProgram), ("tr", trProgram), ("true", fun _ => return 0),
    ("truncate", truncateProgram), ("uniq", uniqProgram), ("unlink", unlinkProgram), ("wc", wcProgram), ("which",
    whichProgram), ("xargs", xargsProgram), ("yes", yesProgram)]

/-- The names of all programs. -/
def programNames : List String := "dash" :: "sh" :: tools.map (·.1)

end GateRunner
