import WorkflowDrivers.Lib.LineLog
import WorkflowDrivers.Models.Dump

/-!
# `Store.Log` — the text of the event and decision logs

`appendJsonl` writes a record as the compact JSON of its form and a newline; `readJsonl` splits the text with
`splitlines`, skips blank lines and parses each of the others. Parsing a line (`loads`) and building a record from
the parsed object (`validate`) are code of other packages, so they are parameters here.
-/

namespace WorkflowDrivers
open Lib

/-- Why a log cannot be read. What `json.loads` raises is told with the line, also the `ValueError` for an integer of
    too many digits, which `_read_jsonl` passes on as it is. -/
inductive LogError
  | invalidJsonl (lineNumber : Nat) (msg : String)
  | invalidRecord (msg : String)
  deriving DecidableEq

/-- The text of the error; a record that does not validate raises with the validator's own text. -/
def LogError.message (path : String) : LogError → String
  | .invalidJsonl lineNumber msg => "invalid JSONL at " ++ path ++ ":" ++ toString lineNumber ++ ": " ++ msg
  | .invalidRecord msg => msg

namespace JsonlLog

variable {α Obj : Type}

/-- The text of a record: its compact JSON. -/
def recordText [Dump α] (record : α) : List Char := (dump record).render

/-- `_append_jsonl`: opening for append creates a missing file. -/
def appendJsonl [Dump α] (file : Option (List Char)) (record : α) : Option (List Char) :=
  some (file.getD [] ++ (recordText record ++ ['\n']))

/-- Appending a list of records one by one. -/
def appendAll [Dump α] (file : Option (List Char)) (records : List α) : Option (List Char) :=
  records.foldl appendJsonl file

/-- The loop of `_read_jsonl` over the lines, numbered from `lineNumber`. -/
def readLines (loads : List Char → Except String Obj) (lineNumber : Nat) :
    List (List Char) → Except LogError (List Obj)
  | [] => .ok []
  | line :: rest =>
      if isBlank line then readLines loads (lineNumber + 1) rest
      else
        match loads line with
        | .error msg => .error (.invalidJsonl lineNumber msg)
        | .ok item => (readLines loads (lineNumber + 1) rest).map (item :: ·)

/-- `_read_jsonl`: a missing file reads as an empty log. -/
def readJsonl (loads : List Char → Except String Obj) : Option (List Char) → Except LogError (List Obj)
  | none => .ok []
  | some text => readLines loads 1 (splitlines (universalNewlines false text))

/-- `[Model.model_validate(item) for item in items]`. -/
def validateAll (validate : Obj → Except String α) : List Obj → Except LogError (List α)
  | [] => .ok []
  | item :: rest =>
      match validate item with
      | .error msg => .error (.invalidRecord msg)
      | .ok record => (validateAll validate rest).map (record :: ·)

/-- The records of a log file. -/
def iterRecords (loads : List Char → Except String Obj) (validate : Obj → Except String α)
    (file : Option (List Char)) : Except LogError (List α) :=
  (readJsonl loads file).bind (validateAll validate)

/-- `iter_decisions`. -/
def iterDecisions (loads : List Char → Except String Obj) (validate : Obj → Except String WorkflowDecision)
    (decisionsFile : Option (List Char)) : Except LogError (List WorkflowDecision) :=
  iterRecords loads validate decisionsFile

/-- `iter_events`. -/
def iterEvents (loads : List Char → Except String Obj) (validate : Obj → Except String WorkflowEvent)
    (eventsFile : Option (List Char)) : Except LogError (List WorkflowEvent) :=
  iterRecords loads validate eventsFile

/-! ## Writing -/

/-- What is written is the log of the records' texts. -/
theorem appendAll_eq [Dump α] (text : List Char) (records : List α) :
    appendAll (some text) records = some (text ++ logText (records.map recordText)) := by
  induction records generalizing text with
  | nil => simp [appendAll, logText]
  | cons record rest ih =>
      have hstep : appendAll (some text) (record :: rest) =
          appendAll (some (text ++ (recordText record ++ ['\n']))) rest := rfl
      rw [hstep, ih, List.map_cons, logText, logText, List.flatMap_cons, List.append_assoc]

/-! ## Reading -/

/-- One object is read for each line that is not blank. -/
theorem readLines_length {loads : List Char → Except String Obj} {lineNumber : Nat} {lines : List (List Char)}
    {items : List Obj} (h : readLines loads lineNumber lines = .ok items) :
    items.length = (lines.filter (fun line => !isBlank line)).length := by
  induction lines generalizing lineNumber items with
  | nil =>
      obtain rfl := Except.ok.inj h
      rfl
  | cons line rest ih =>
      rw [readLines] at h
      cases hblank : isBlank line with
      | true =>
          rw [if_pos hblank] at h
          rw [List.filter_cons_of_neg (by simp [hblank]), ih h]
      | false =>
          rw [if_neg (by simp [hblank])] at h
          rw [List.filter_cons_of_pos (by simp [hblank]), List.length_cons]
          cases hloads : loads line with
          | error msg => simp [hloads] at h
          | ok item =>
              simp only [hloads] at h
              cases hread : readLines loads (lineNumber + 1) rest with
              | error error => simp [hread, Except.map] at h
              | ok tail =>
                  rw [hread] at h
                  obtain rfl := Except.ok.inj h
                  rw [List.length_cons, ih hread]

/-- Validation keeps the number of objects. -/
theorem validateAll_length {validate : Obj → Except String α} {items : List Obj} {records : List α}
    (h : validateAll validate items = .ok records) : records.length = items.length := by
  induction items generalizing records with
  | nil =>
      obtain rfl := Except.ok.inj h
      rfl
  | cons item rest ih =>
      rw [validateAll] at h
      cases hitem : validate item with
      | error msg => simp [hitem] at h
      | ok record =>
          simp only [hitem] at h
          cases hrest : validateAll validate rest with
          | error error => simp [hrest, Except.map] at h
          | ok tail =>
              rw [hrest] at h
              obtain rfl := Except.ok.inj h
              rw [List.length_cons, List.length_cons, ih hrest]

end JsonlLog
end WorkflowDrivers
