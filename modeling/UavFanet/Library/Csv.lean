import Mathlib.Data.List.Forall2

/-! Comma separated values as RFC 4180 has them, over any symbols: a reader that goes through a
text symbol by symbol, and what it makes of records that were written field by field. A record
ends with a line feed. -/
namespace UavFanet.Library.Csv

/-- The four symbols that mean something. -/
structure Dialect (α : Type) where
  comma : α
  quote : α
  lineFeed : α
  carriageReturn : α
  distinct : [comma,quote,lineFeed,carriageReturn].Nodup

inductive Mode where
  | start | plain | quoted | closed
  deriving DecidableEq,Repr

/-- The records and the fields of the last one that are complete, and the field being read. -/
structure Reader (α : Type) where
  records : List (List (List α)) := []
  fields : List (List α) := []
  field : List α := []
  mode : Mode := .start
  deriving DecidableEq,Repr

namespace Reader

variable {α : Type} (reader : Reader α)

def push (symbol : α) (mode : Mode) : Reader α :=
  { reader with field := reader.field ++ [symbol], mode }

def endField : Reader α :=
  { reader with fields := reader.fields ++ [reader.field], field := [], mode := .start }

def endRecord : Reader α where
  records := reader.records ++ [reader.fields ++ [reader.field]]

/-- What is read when the text ends: nothing if a quoted field is open. A last record may lack its
line feed. -/
def finish : Option (List (List (List α))) :=
  if reader.mode = .quoted then none
  else if reader.mode = .start ∧ reader.fields = [] then some reader.records
  else some reader.endRecord.records

end Reader

namespace Dialect

section Symbols

variable {α : Type} {dialect : Dialect α}

theorem lineFeed_ne_comma : dialect.lineFeed ≠ dialect.comma := by
  have distinct := dialect.distinct
  simp only [List.nodup_cons,List.mem_cons,not_or] at distinct
  exact Ne.symm distinct.1.2.1

theorem comma_ne_quote : dialect.comma ≠ dialect.quote := by
  have distinct := dialect.distinct
  simp only [List.nodup_cons,List.mem_cons,not_or] at distinct
  exact distinct.1.1

theorem lineFeed_ne_quote : dialect.lineFeed ≠ dialect.quote := by
  have distinct := dialect.distinct
  simp only [List.nodup_cons,List.mem_cons,not_or] at distinct
  exact Ne.symm distinct.2.1.1

end Symbols

variable {α : Type} [DecidableEq α] (dialect : Dialect α)

def special : List α :=
  [dialect.comma,dialect.quote,dialect.lineFeed,dialect.carriageReturn]

def separate (reader : Reader α) (symbol : α) (other : Option (Reader α)) : Option (Reader α) :=
  if symbol = dialect.comma then some reader.endField
  else if symbol = dialect.lineFeed then some reader.endRecord
  else other

/-- The next symbol. Outside of quotes there is neither a quote nor a carriage return, and after
the closing quote the field has to end. -/
def step (reader : Reader α) (symbol : α) : Option (Reader α) :=
  let text := if symbol ∈ dialect.special then none else some (reader.push symbol .plain)
  match reader.mode with
  | .start =>
    if symbol = dialect.quote then some { reader with mode := .quoted }
    else dialect.separate reader symbol text
  | .plain => dialect.separate reader symbol text
  | .quoted =>
    if symbol = dialect.quote then some { reader with mode := .closed }
    else some (reader.push symbol .quoted)
  | .closed =>
    if symbol = dialect.quote then some (reader.push symbol .quoted)
    else dialect.separate reader symbol none

def run (reader : Reader α) (text : List α) : Option (Reader α) := text.foldlM dialect.step reader

def parse (text : List α) : Option (List (List (List α))) := dialect.run {} text >>= Reader.finish

/-- A quote in a quoted field is written twice. -/
def escaped (symbol : α) : List α :=
  if symbol = dialect.quote then [dialect.quote,symbol] else [symbol]

/-- The ways to write a field: as it is, if there is nothing special in it, or in quotes. -/
inductive Renders : List α → List α → Prop where
  | plain {field : List α} (free : ∀ symbol ∈ field, symbol ∉ dialect.special) : Renders field field
  | quoted (field : List α) :
    Renders field (dialect.quote :: field.flatMap dialect.escaped ++ [dialect.quote])

/-- The fields of a line, separated by commas. -/
def line : List (List α) → List α
  | [] => [dialect.lineFeed]
  | first :: rest => first ++ rest.flatMap (dialect.comma :: ·) ++ [dialect.lineFeed]

/-- A line with a text for each field of the record. -/
def Written (record : List (List α)) (text : List α) : Prop :=
  record ≠ [] ∧ ∃ texts, List.Forall₂ dialect.Renders record texts ∧ text = dialect.line texts

section Reading

variable {dialect}

theorem run_append {reader next : Reader α} {front : List α}
    (read : dialect.run reader front = some next) (rest : List α) :
    dialect.run reader (front ++ rest) = dialect.run next rest := by
  unfold run at *
  rw [List.foldlM_append,read]
  rfl

theorem run_cons {reader next : Reader α} {symbol : α} (read : dialect.step reader symbol = some next)
    (rest : List α) : dialect.run reader (symbol :: rest) = dialect.run next rest := by
  rw [run,List.foldlM_cons,read]
  rfl

theorem step_comma {reader : Reader α} (outside : reader.mode ≠ .quoted) :
    dialect.step reader dialect.comma = some reader.endField := by
  unfold step
  cases mode : reader.mode with
  | start => simp [comma_ne_quote,separate]
  | plain => simp [separate]
  | quoted => exact absurd mode outside
  | closed => simp [comma_ne_quote,separate]

theorem step_lineFeed {reader : Reader α} (outside : reader.mode ≠ .quoted) :
    dialect.step reader dialect.lineFeed = some reader.endRecord := by
  unfold step
  cases mode : reader.mode with
  | start => simp [lineFeed_ne_comma,lineFeed_ne_quote,separate]
  | plain => simp [lineFeed_ne_comma,separate]
  | quoted => exact absurd mode outside
  | closed => simp [lineFeed_ne_comma,lineFeed_ne_quote,separate]

theorem step_free {reader : Reader α} {symbol : α} (free : symbol ∉ dialect.special)
    (open_field : reader.mode = .start ∨ reader.mode = .plain) :
    dialect.step reader symbol = some (reader.push symbol .plain) := by
  have apart := free
  simp only [special,List.mem_cons,not_or] at apart
  obtain ⟨not_comma,not_quote,not_feed,-⟩ := apart
  rcases open_field with mode | mode
  · simp [step,mode,separate,not_comma,not_quote,not_feed,free]
  · simp [step,mode,separate,not_comma,not_feed,free]

/-- Nothing special in it, a field is read as it is. -/
theorem run_plain {field : List α} (free : ∀ symbol ∈ field, symbol ∉ dialect.special)
    {reader : Reader α} (open_field : reader.mode = .start ∨ reader.mode = .plain) :
    ∃ mode, mode ≠ .quoted ∧ dialect.run reader field =
      some { reader with field := reader.field ++ field, mode } := by
  induction field generalizing reader with
  | nil =>
    refine ⟨reader.mode,?_,by rw [List.append_nil]; rfl⟩
    rcases open_field with mode | mode
    · rw [mode]
      decide
    · rw [mode]
      decide
  | cons symbol rest ih =>
    have first := step_free (free symbol (.head rest)) open_field
    obtain ⟨mode,outside,read⟩ :=
      @ih (fun later member => free later (.tail symbol member)) (reader.push symbol .plain) (.inr rfl)
    refine ⟨mode,outside,?_⟩
    rw [run_cons first,read]
    simp [Reader.push]

/-- Inside of quotes every symbol is read, a doubled quote as one. -/
theorem run_escaped (field : List α) {reader : Reader α} (inside : reader.mode = .quoted) :
    dialect.run reader (field.flatMap dialect.escaped) =
      some { reader with field := reader.field ++ field } := by
  induction field generalizing reader with
  | nil => simp [run]
  | cons symbol rest ih =>
    have first : dialect.run reader (dialect.escaped symbol) = some (reader.push symbol .quoted) := by
      by_cases doubled : symbol = dialect.quote
      · simp [escaped,doubled,run,step,inside,Reader.push]
      · simp [escaped,doubled,run,step,inside]
    rw [List.flatMap_cons,run_append first,@ih (reader.push symbol .quoted) rfl]
    simp [Reader.push,inside]

/-- However a field is written, it is read, and with the next separator it ends. -/
theorem Renders.run {field text : List α} (renders : dialect.Renders field text)
    (records : List (List (List α))) (fields : List (List α)) :
    ∃ mode, mode ≠ .quoted ∧ dialect.run { records, fields } text =
      some { records, fields, field, mode } := by
  cases renders with
  | plain free => exact @run_plain _ _ _ _ free { records, fields } (.inl rfl)
  | quoted =>
    refine ⟨.closed,by decide,?_⟩
    have opened : dialect.step { records, fields } dialect.quote =
        some { records, fields, mode := .quoted } := by
      simp [step]
    have closed : dialect.step { records, fields, field, mode := .quoted } dialect.quote =
        some { records, fields, field, mode := .closed } := by
      simp [step]
    rw [List.cons_append,run_cons opened,run_append (run_escaped field rfl),List.nil_append,
      run_cons closed]
    rfl

theorem run_rest {rest texts : List (List α)} (rendered : List.Forall₂ dialect.Renders rest texts)
    (records : List (List (List α))) (fields : List (List α)) {field : List α} {mode : Mode}
    (outside : mode ≠ .quoted) :
    dialect.run { records, fields, field, mode }
      (texts.flatMap (dialect.comma :: ·) ++ [dialect.lineFeed]) =
      some { records := records ++ [fields ++ field :: rest] } := by
  induction rendered generalizing fields field mode with
  | nil =>
    rw [List.flatMap_nil,List.nil_append,run_cons (step_lineFeed outside)]
    rfl
  | cons first later ih =>
    obtain ⟨last,ended,read⟩ := first.run records (fields ++ [field])
    rw [List.flatMap_cons,List.append_assoc,List.cons_append,run_cons (step_comma outside)]
    rw [show Reader.endField _ = { records, fields := fields ++ [field] } from rfl]
    rw [run_append read,ih (fields ++ [field]) ended,List.append_assoc]
    rfl

theorem Written.run {record : List (List α)} {text : List α} (written : dialect.Written record text)
    (records : List (List (List α))) :
    dialect.run { records } text = some { records := records ++ [record] } := by
  obtain ⟨nonempty,texts,rendered,rfl⟩ := written
  cases rendered with
  | nil => exact absurd rfl nonempty
  | cons first later =>
    obtain ⟨mode,outside,read⟩ := first.run records []
    rw [line,List.append_assoc,run_append read,run_rest later records [] outside]
    rfl

/-- Whatever was written record by record is read back. -/
theorem parse_written {records : List (List (List α))} {texts : List (List α)}
    (written : List.Forall₂ dialect.Written records texts) :
    dialect.parse texts.flatten = some records := by
  have whole : ∀ earlier : List (List (List α)), dialect.run { records := earlier } texts.flatten =
      some { records := earlier ++ records } := by
    induction written with
    | nil =>
      intro earlier
      rw [List.append_nil]
      rfl
    | cons first later ih =>
      intro earlier
      rw [List.flatten_cons,run_append (first.run earlier),ih,List.append_assoc]
      rfl
  rw [parse,whole []]
  rfl

end Reading

end Dialect
end UavFanet.Library.Csv
