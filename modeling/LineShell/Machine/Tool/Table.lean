import LineShell.Machine.Tool.Columns
import LineShell.Machine.Tool.Condition
import LineShell.Machine.Tool.Edit.Run
import LineShell.Machine.Tool.Expression
import LineShell.Machine.Tool.Search
import LineShell.Machine.Tool.Sequence
import LineShell.Machine.Tool.Sorted
import LineShell.Machine.Tool.Transfer
import LineShell.Machine.Tool.Directory
import LineShell.Machine.Tool.Numbering
import LineShell.Machine.Tool.Tabs
import LineShell.Machine.Tool.Translate

/-!
# The tools of the machine
-/
namespace LineShell.Machine

/-- The programs that are part of the machine, by their names. -/
def tools : List (String × Tool) := [
  ("[", bracketTool "[: "),
  ("base64", base64Tool),
  ("basename", basenameTool),
  ("cat", catTool),
  ("chmod", chmodTool),
  ("cmp", cmpTool),
  ("comm", commTool),
  ("cp", cpTool),
  ("cut", cutTool),
  ("dirname", dirnameTool),
  ("echo", echoTool),
  ("egrep", fun args => grepTool ("-E" :: args)),
  ("expand", expandTool),
  ("expr", exprTool),
  ("factor", factorTool),
  ("false", fun _ run => (1, run)),
  ("fgrep", fun args => grepTool ("-F" :: args)),
  ("fold", foldTool),
  ("grep", grepTool),
  ("head", headTool),
  ("id", idTool),
  ("ln", lnTool),
  ("ls", lsTool),
  ("mkdir", mkdirTool),
  ("mv", mvTool),
  ("nl", nlTool),
  ("od", odTool),
  ("paste", pasteTool),
  ("printenv", printenvTool),
  ("printf", Printf.tool),
  ("pwd", pwdTool),
  ("readlink", readlinkTool),
  ("realpath", realpathTool),
  ("rev", revTool),
  ("rm", rmTool),
  ("rmdir", rmdirTool),
  ("sed", sedTool),
  ("seq", seqTool),
  ("sleep", sleepTool),
  ("sort", sortTool),
  ("sync", fun _ run => (0, run)),
  ("tac", tacTool),
  ("tail", tailTool),
  ("tee", teeTool),
  ("test", testTool "test: "),
  ("touch", touchTool),
  ("tr", trTool),
  ("true", fun _ run => (0, run)),
  ("truncate", truncateTool),
  ("tty", ttyTool),
  ("uname", unameTool),
  ("unexpand", unexpandTool),
  ("uniq", uniqTool),
  ("unlink", unlinkTool),
  ("wc", wcTool),
  ("whoami", whoamiTool),
  ("yes", yesTool)]

end LineShell.Machine
