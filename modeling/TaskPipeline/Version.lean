import TaskPipeline.Text.Blank
import TaskPipeline.Text.Utf8

/-!
The deployed version: the first line of a file, trimmed. A file that is no text or whose first line
is blank names no version.
-/

namespace TaskPipeline

/-- The version that a text names: `read_deployed_version`, once the file is read. -/
def deployedVersion? (content : String) : Option String :=
  let line := Text.trimChars (content.toList.takeWhile (· != '\n'))
  if line.isEmpty then none else some (String.ofList line)

/-- The text that bytes encode, if they encode one. -/
def Text.ofBytes? (bytes : List UInt8) : Option String :=
  let text := Text.Utf8.decode bytes
  if Text.Utf8.encode text = bytes then some (String.ofList text) else none

end TaskPipeline
