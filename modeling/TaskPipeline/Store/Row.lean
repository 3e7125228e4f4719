import TaskPipeline.Store.Cell
import TaskPipeline.Task.Codec

/-!
Stored rows of tasks. `Row.ofTask` writes a task, `Row.toTask` reads one back or says which column
it stumbled over first, and `Row.save` writes back what may change over the life of a task.
-/

namespace TaskPipeline

/-- A row of the table `tasks`; the cells in the order of `TASK_COLUMNS`. -/
structure Row where
  id : Cell
  taskType : Cell
  direction : Cell
  context : Cell
  status : Cell
  attemptCount : Cell
  maxAttempts : Cell
  lastFailureCategory : Cell
  retryReflections : Cell
  claimedBy : Cell
  nextAttemptAt : Cell
  cancelled : Cell
  output : Cell
  createdAt : Cell
  updatedAt : Cell
  deriving DecidableEq, Repr

namespace Row

/-- Puts a cell into a column, as the column keeps it. -/
def set (r : Row) (column : Column) (cell : Cell) : Row :=
  let cell := column.keep cell
  match column with
  | .id => { r with id := cell }
  | .taskType => { r with taskType := cell }
  | .direction => { r with direction := cell }
  | .context => { r with context := cell }
  | .status => { r with status := cell }
  | .attemptCount => { r with attemptCount := cell }
  | .maxAttempts => { r with maxAttempts := cell }
  | .lastFailureCategory => { r with lastFailureCategory := cell }
  | .retryReflections => { r with retryReflections := cell }
  | .claimedBy => { r with claimedBy := cell }
  | .nextAttemptAt => { r with nextAttemptAt := cell }
  | .cancelled => { r with cancelled := cell }
  | .output => { r with output := cell }
  | .createdAt => { r with createdAt := cell }
  | .updatedAt => { r with updatedAt := cell }

/-! ## Writing -/

def ofUInt32 (n : UInt32) : Cell := .integer (Int64.ofNat n.toNat)

def ofBool (b : Bool) : Cell := .integer (if b then 1 else 0)

/-- The row of a task, with the values of `insert_task`. -/
def ofTask (t : Task) : Row where
  id := .text t.id
  taskType := .text t.taskType.name
  direction := .text t.direction
  context := .ofOption (.text ·.toText) t.context
  status := .text t.status.name
  attemptCount := ofUInt32 t.attemptCount
  maxAttempts := ofUInt32 t.maxAttempts
  lastFailureCategory := .ofOption (.text ·.name) t.lastFailureCategory
  retryReflections := .text (Reflection.listText t.reflections)
  claimedBy := .ofOption .text t.claimedBy
  nextAttemptAt := .ofOption .integer t.nextAttemptAt
  cancelled := ofBool t.cancelled
  output := .ofOption .text t.output
  createdAt := .integer t.createdAt
  updatedAt := .integer t.updatedAt

/-- The row with what a task may have changed, as `save_task` writes it; what identifies the work
stays. -/
def save (r : Row) (t : Task) : Row :=
  { ofTask t with
    id := r.id, taskType := r.taskType, direction := r.direction, context := r.context,
    createdAt := r.createdAt }

/-! ## Reading -/

/-- What a column holds, or what is wrong with it. -/
abbrev Read (α : Type) := Except ColumnError α

def wrongType {α : Type} (c : Column) (cell : Cell) : Read α :=
  .error (.wrongType c.index c.name cell.typeName)

def readText (c : Column) : Cell → Read String
  | .text s => .ok s
  | cell => wrongType c cell

def readInteger (c : Column) : Cell → Read Int64
  | .integer n => .ok n
  | cell => wrongType c cell

def readOption {α : Type} (read : Cell → Read α) : Cell → Read (Option α)
  | .null => .ok none
  | cell => (read cell).map some

def readUInt32 (c : Column) (cell : Cell) : Read UInt32 := do
  let n ← readInteger c cell
  if 0 ≤ n.toInt ∧ n.toInt < UInt32.size then .ok (UInt32.ofNat n.toInt.toNat)
  else .error (.outOfRange c.index n.toInt)

def readBool (c : Column) (cell : Cell) : Read Bool := do
  return (← readInteger c cell) ≠ 0

/-- `parse_column`. -/
def readName {α : Type} (c : Column) (find : String → Option α) (cause : String → UnknownName)
    (s : String) : Read α :=
  match find s with
  | some a => .ok a
  | none => .error (.unknownName c.index (cause s))

/-- `parse_json_column`. -/
def readJson {α : Type} (c : Column) (read : String → Option α) (s : String) : Read α :=
  match read s with
  | some a => .ok a
  | none => .error (.badJson c.index)

/-- A free-form JSON text. -/
def freeForm? (s : String) : Option Json := do Json.asFreeForm (← Json.parse? s)

/-- The task of a row: `row_to_task`. The columns with a form of their own are fetched before the
others. -/
def toTask (r : Row) : Read Task := do
  let context ← readOption (readText .context) r.context
  let category ← readOption (readText .lastFailureCategory) r.lastFailureCategory
  let reflections ← readText .retryReflections r.retryReflections
  return {
    id := ← readText .id r.id
    taskType := ← do readName .taskType TaskType.ofName? .taskType (← readText .taskType r.taskType)
    direction := ← readText .direction r.direction
    context := ← context.mapM (readJson .context freeForm?)
    status := ← do readName .status TaskStatus.ofName? .status (← readText .status r.status)
    attemptCount := ← readUInt32 .attemptCount r.attemptCount
    maxAttempts := ← readUInt32 .maxAttempts r.maxAttempts
    lastFailureCategory :=
      ← category.mapM (readName .lastFailureCategory FailureCategory.ofName? .category)
    reflections := ← readJson .retryReflections Reflection.ofListText? reflections
    claimedBy := ← readOption (readText .claimedBy) r.claimedBy
    nextAttemptAt := ← readOption (readInteger .nextAttemptAt) r.nextAttemptAt
    cancelled := ← readBool .cancelled r.cancelled
    output := ← readOption (readText .output) r.output
    createdAt := ← readInteger .createdAt r.createdAt
    updatedAt := ← readInteger .updatedAt r.updatedAt }

end Row

end TaskPipeline
