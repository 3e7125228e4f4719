import TaskPipeline.Executor.Basic
import TaskPipeline.Executor.Program
import TaskPipeline.Settings.Section
import TaskPipeline.Task.Codec
import TaskPipeline.Text.Utf8

/-!
Executors that are programs: `CommandExecutor`. The task comes to the program in environment
variables; its exit decides about success, and what it wrote becomes the output and the error. What
comes of a launch is a parameter.
-/

namespace TaskPipeline

/-! ## What a program wrote -/

/-- How many bytes of an output are kept: `MAX_OUTPUT_BYTES`. -/
def outputLimit : Nat := 64000

/-- What stands in the place of the bytes that are not kept. -/
def truncationMark : String := "[truncated]..."

/-- The text of an output, of which only the end is kept where it is long: `truncate_tail`. The part
that is kept begins with a whole character. -/
def outputTail (bytes : List UInt8) : String :=
  let text (bs : List UInt8) : String := String.ofList (Text.Utf8.decode bs)
  if bytes.length ≤ outputLimit then text bytes
  else
    truncationMark ++
      text ((bytes.drop (bytes.length - outputLimit)).dropWhile Text.Utf8.isContinuation)

theorem outputTail_of_le {bytes : List UInt8} (h : bytes.length ≤ outputLimit) :
    outputTail bytes = String.ofList (Text.Utf8.decode bytes) := if_pos h

theorem outputTail_of_lt {bytes : List UInt8} (h : outputLimit < bytes.length) :
    outputTail bytes = truncationMark ++ String.ofList (Text.Utf8.decode
      ((bytes.drop (bytes.length - outputLimit)).dropWhile Text.Utf8.isContinuation)) :=
  if_neg (Nat.not_le.mpr h)

def exitText : Exit → String
  | .code n => "exit Some(" ++ toString n ++ ")"
  | .signal _ => "exit None"

/-- A labelled part of an error, unless it is blank. -/
def errorPart (label text : String) : String :=
  let text := Text.trim text
  if text.isEmpty then "" else "\n" ++ label ++ ": " ++ text

/-- The report on a program that was run: the end of `CommandExecutor::launch`. -/
def Report.ofRan (r : Ran) : Report :=
  let out := outputTail r.out
  if r.exit = .code 0 then ⟨true, out, none⟩
  else
    ⟨false, out,
      some (exitText r.exit ++ errorPart "stderr" (outputTail r.err) ++ errorPart "stdout" out)⟩

/-! ## The task for a program -/

/-- The environment variables that tell a program about its task, as `build_command` sets them. -/
def taskVariables (t : Task) : List (String × String) :=
  [("HIVE_TASK_ID", t.id),
    ("HIVE_TASK_TYPE", t.taskType.name),
    ("HIVE_TASK_DIRECTION", t.direction),
    ("HIVE_TASK_ATTEMPT", toString t.attemptCount.toNat),
    ("HIVE_TASK_CONTEXT", (t.context.map Json.toText).getD "")]

/-- The program of an executor with the task it is to carry out: `build_command`. -/
def ExecutorSettings.programFor (s : ExecutorSettings) (t : Task) : Program where
  name := s.program
  args := s.args
  folder := s.workdir
  environment := taskVariables t

/-- An executor that launches a program: `CommandExecutor`. The host says what comes of it, or why it
cannot be launched. -/
def Executor.ofProgram (name : String) (s : ExecutorSettings)
    (launch : Program → Except String Ran) : Executor where
  name := name
  duration _ t :=
    match launch (s.programFor t) with
    | .ok r => r.closesAt
    | .error _ => some 0
  ending _ _ t :=
    match launch (s.programFor t) with
    | .ok r => .report (.ofRan r)
    | .error cause => .unreachable [cause]

end TaskPipeline
