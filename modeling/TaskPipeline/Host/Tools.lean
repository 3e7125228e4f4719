import TaskPipeline.Host.Calculation
import TaskPipeline.Host.Columns
import TaskPipeline.Host.Editing
import TaskPipeline.Host.Encoding
import TaskPipeline.Host.Exchange
import TaskPipeline.Host.Finding
import TaskPipeline.Host.Order
import TaskPipeline.Host.Search
import TaskPipeline.Host.Sequence
import TaskPipeline.Host.Tending
import TaskPipeline.Host.Words

/-!
All tools of a host, by their names.
-/

namespace TaskPipeline.Host

/-- The tool with a name, if there is one. -/
def tool? (base : String) : Option Tool :=
  match base with
  | "true" => some fun _ => {}
  | "false" => some fun _ => { status := 1 }
  | "[" | "test" => some (test base)
  | "base64" => some base64
  | "basename" => some basename
  | "cat" => some cat
  | "chmod" => some chmod
  | "cmp" => some cmp
  | "comm" => some comm
  | "cp" => some cp
  | "cut" => some cut
  | "dirname" => some dirname
  | "echo" => some echo
  | "egrep" | "fgrep" | "grep" => some (grep base)
  | "expand" => some expand
  | "expr" => some expr
  | "factor" => some factor
  | "find" => some find
  | "fold" => some fold
  | "head" => some head
  | "id" => some userId
  | "ls" => some ls
  | "mkdir" => some mkdir
  | "mv" => some mv
  | "nl" => some nl
  | "od" => some od
  | "paste" => some paste
  | "printenv" => some printenv
  | "printf" => some printf
  | "pwd" => some workingFolder
  | "realpath" => some realpath
  | "rev" => some rev
  | "rm" => some rm
  | "rmdir" => some rmdir
  | "sed" => some sed
  | "seq" => some seq
  | "sort" => some sort
  | "tac" => some tac
  | "tail" => some tail
  | "tee" => some tee
  | "touch" => some touch
  | "tr" => some tr
  | "uname" => some uname
  | "uniq" => some uniq
  | "wc" => some wc
  | "which" => some which
  | "whoami" => some (tells "root")
  | "yes" => some yes
  | _ => none

/-- What a tool says when what it prints cannot be written, and its status then. -/
def unwritten (w : Workpiece) (base reason : String) : String × Nat :=
  let plain := w.message ("write error: " ++ reason)
  match base with
  | "cat" =>
    (if reason = "Bad file descriptor" then w.message ("standard output: " ++ reason) else plain, 1)
  | "yes" => (w.message ("standard output: " ++ reason), 1)
  | "tee" => (w.message ("'standard output': " ++ reason), 1)
  | "cmp" => (w.message ("standard output: " ++ reason), 2)
  | "sed" => (w.message ("couldn't flush stdout: " ++ reason), 4)
  | "sort" =>
    (w.message ("fflush failed: 'standard output': " ++ reason) ++ w.message "write error", 2)
  | "expr" => (plain, 3)
  | "egrep" | "fgrep" | "grep" | "ls" | "printenv" => (plain, 2)
  | _ => (plain, 1)

end TaskPipeline.Host
