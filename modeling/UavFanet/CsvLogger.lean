import UavFanet.Types
import UavFanet.Library.Csv
import Mathlib.Data.List.Induction

/-! `CsvLogger`: a header and rows of texts, written field by field to the end of a file. -/
namespace UavFanet
open Library

/-- `,`, `"`, LF and CR. -/
def csvDialect : Csv.Dialect UInt8 where
  comma := 0x2C
  quote := 0x22
  lineFeed := 0x0A
  carriageReturn := 0x0D
  distinct := by decide

/-- The file behind an output stream, and whether a write has failed. -/
structure OutputStream where
  content : ByteBuffer
  bad : Bool := false
  deriving DecidableEq,Repr

/-- A write takes all bytes, or fails after the given number of them; a stream that is bad takes
none. -/
def OutputStream.write (stream : OutputStream) (s : ByteBuffer) (fails : Option Nat) : OutputStream :=
  if stream.bad then stream
  else match fails with
    | none => { content := stream.content ++ s }
    | some taken => { content := stream.content ++ s.take taken, bad := true }

def OutputStream.clear (stream : OutputStream) : OutputStream := { stream with bad := false }

/-- What the file system has to a path: whether its directory can be made, the file if there is
one, and whether it can be asked for its size and opened. -/
structure CsvPath where
  parent : Bool := true
  file : Option ByteBuffer
  sized : Bool := true
  opens : Bool := true
  deriving DecidableEq,Repr

structure CsvLogger where
  m_header : List ByteBuffer
  m_col_index : ByteBuffer → Option Nat
  m_stream : OutputStream
  m_ok : Bool := false
  m_rows : UInt64 := 0

namespace CsvLogger

def escapeField (v : ByteBuffer) : ByteBuffer :=
  let needs_quote := v.any fun c => c = 0x2C ∨ c = 0x22 ∨ c = 0x0A ∨ c = 0x0D
  if !needs_quote then v
  else [0x22] ++ v.flatMap (fun c => if c = 0x22 then [0x22,c] else [c]) ++ [0x22]

/-- The loop that writes a line: `n` columns, and nothing in those that have no value. -/
def lineText (n : Nat) (values : List ByteBuffer) : ByteBuffer :=
  (List.range n).flatMap (fun i => (if i > 0 then [0x2C] else []) ++
    match values[i]? with
    | some v => escapeField v
    | none => []) ++ [0x0A]

/-- A name that the header has twice is that of its last column. -/
def colIndex (header : List ByteBuffer) : ByteBuffer → Option Nat :=
  header.zipIdx.foldl (fun index column name => if name = column.1 then some column.2 else index name)
    fun _ => none

end CsvLogger

def CsvLogger.open (path : CsvPath) (header : List ByteBuffer) (fails : Option Nat) : CsvLogger :=
  let inst : CsvLogger := {
    m_header := header
    m_col_index := colIndex header
    m_stream := { content := path.file.getD [] } }
  if !path.parent then inst
  else
    let already_exists_with_content := match path.file with
      | none => false
      | some content => path.sized && decide (content.length > 0)
    if !path.opens then inst
    else
      let inst := { inst with m_ok := true }
      if !already_exists_with_content then
        { inst with m_stream := inst.m_stream.write (lineText header.length header) fails }
      else inst

namespace CsvLogger

def appendRow (values : List ByteBuffer) (fails : Option Nat) (logger : CsvLogger) : CsvLogger :=
  if !logger.m_ok then logger
  else
    let m_stream := logger.m_stream.write (lineText logger.m_header.length values) fails
    if m_stream.bad then { logger with m_stream := m_stream.clear }
    else { logger with m_stream, m_rows := logger.m_rows+1 }

/-- The row of a call by column names, in whatever order the map has them; those that are no column
are passed over. -/
def namedRow (named : List (ByteBuffer × ByteBuffer)) (logger : CsvLogger) : List ByteBuffer :=
  named.foldl (fun row kv =>
    match logger.m_col_index kv.1 with
    | some column => row.set column kv.2
    | none => row) (List.replicate logger.m_header.length [])

def appendNamed (named : List (ByteBuffer × ByteBuffer)) (fails : Option Nat) (logger : CsvLogger) :
    CsvLogger := logger.appendRow (logger.namedRow named) fails

/-- A call of `AppendRow`, with the values in order or by the names of their columns. -/
inductive Append where
  | ordered (values : List ByteBuffer)
  | named (kvs : List (ByteBuffer × ByteBuffer))

def append (call : Append) (fails : Option Nat) (logger : CsvLogger) : CsvLogger :=
  match call with
  | .ordered values => logger.appendRow values fails
  | .named kvs => logger.appendNamed kvs fails

/-- The values cut or padded to the columns that there are. -/
def fit (n : Nat) (values : List ByteBuffer) : List ByteBuffer :=
  values.take n ++ List.replicate (n-values.length) []

/-- The value last given for a name, or nothing. -/
def given (named : List (ByteBuffer × ByteBuffer)) (name : ByteBuffer) : ByteBuffer :=
  named.foldl (fun value kv => if kv.1 = name then kv.2 else value) []

/-- The value of each column's name; of columns of one name only the last has it. -/
def byNames (named : List (ByteBuffer × ByteBuffer)) : List ByteBuffer → List ByteBuffer
  | [] => []
  | name :: later => (if name ∈ later then [] else given named name) :: byNames named later

/-- The record that a call is to write. -/
def Append.record (header : List ByteBuffer) : Append → List ByteBuffer
  | .ordered values => fit header.length values
  | .named kvs => byNames kvs header

theorem fit_range (n : Nat) (values : List ByteBuffer) :
    fit n values = (List.range n).map fun i => values[i]?.getD [] := by
  unfold fit
  apply List.ext_getElem
  · simp
    omega
  · intro i inside _
    rw [List.getElem_append,List.getElem_map,List.getElem_range]
    split
    · rename_i given
      simp only [List.length_take] at given
      rw [List.getElem_take,List.getElem?_eq_getElem (by omega)]
      rfl
    · rename_i missing
      simp only [List.length_append,List.length_take,List.length_replicate] at inside missing
      rw [List.getElem_replicate,List.getElem?_eq_none (by omega)]
      rfl

theorem escapeField_renders (v : ByteBuffer) : csvDialect.Renders v (escapeField v) := by
  unfold escapeField
  simp only
  split
  · rename_i free
    apply Csv.Dialect.Renders.plain
    simpa [csvDialect,Csv.Dialect.special] using free
  · exact .quoted v

theorem lineText_written {n : Nat} (columns : n ≠ 0) (values : List ByteBuffer) :
    csvDialect.Written (fit n values) (lineText n values) := by
  let text (i : Nat) : ByteBuffer :=
    match values[i]? with
    | some v => escapeField v
    | none => []
  have rendered (i : Nat) : csvDialect.Renders (values[i]?.getD []) (text i) := by
    simp only [text]
    cases values[i]? with
    | none => exact .plain nofun
    | some v => exact escapeField_renders v
  refine ⟨?_,(List.range n).map text,?_,?_⟩
  · rw [fit_range]
    simpa using columns
  · rw [fit_range,List.forall₂_map_left_iff,List.forall₂_map_right_iff]
    exact List.forall₂_same.mpr fun i _ => rendered i
  · obtain ⟨columns,rfl⟩ := Nat.exists_eq_succ_of_ne_zero columns
    rw [lineText,List.range_succ_eq_map,List.map_cons,List.flatMap_cons,List.flatMap_map,
      Csv.Dialect.line,List.map_map,List.flatMap_map]
    rfl

@[simp] theorem colIndex_nil (name : ByteBuffer) : colIndex [] name = none := rfl

/-- Later columns come first, then the one in front. -/
theorem colIndex_cons (first : ByteBuffer) (later : List ByteBuffer) (name : ByteBuffer) :
    colIndex (first :: later) name =
      ((colIndex later name).map (·+1)).or (if name = first then some 0 else none) := by
  have scanned (rest : List ByteBuffer) (k : Nat) (index : ByteBuffer → Option Nat) :
      (rest.zipIdx k).foldl (fun index column name =>
        if name = column.1 then some column.2 else index name) index name =
      ((colIndex rest name).map (·+k)).or (index name) := by
    induction rest using List.reverseRecOn with
    | nil => rfl
    | append_singleton front last ih =>
      rw [colIndex,List.zipIdx_append,List.zipIdx_append,List.foldl_append,List.foldl_append,
        ← colIndex]
      simp only [List.zipIdx_cons,List.zipIdx_nil,List.foldl_cons,List.foldl_nil]
      by_cases same : name = last
      · simp [same,Nat.add_comm]
      · simp only [same,if_false]
        exact ih
  rw [colIndex,List.zipIdx_cons,List.foldl_cons,scanned]

theorem colIndex_none {header : List ByteBuffer} {name : ByteBuffer} :
    colIndex header name = none ↔ name ∉ header := by
  induction header with
  | nil => simp
  | cons first later ih => simp [colIndex_cons,ih,and_comm]

theorem given_concat (front : List (ByteBuffer × ByteBuffer)) (kv : ByteBuffer × ByteBuffer)
    (name : ByteBuffer) :
    given (front ++ [kv]) name = if kv.1 = name then kv.2 else given front name :=
  List.foldl_concat ..

/-- One more name sets its column, if there is one. -/
theorem byNames_concat (front : List (ByteBuffer × ByteBuffer)) (kv : ByteBuffer × ByteBuffer)
    (header : List ByteBuffer) : byNames (front ++ [kv]) header =
      match colIndex header kv.1 with
      | some column => (byNames front header).set column kv.2
      | none => byNames front header := by
  induction header with
  | nil => rfl
  | cons name later ih =>
    rw [byNames,byNames,ih,colIndex_cons,given_concat]
    cases place : colIndex later kv.1 with
    | none =>
      have absent := colIndex_none.mp place
      by_cases same : kv.1 = name
      · rw [same] at absent
        simp [same,absent]
      · simp [same]
    | some column =>
      have present : kv.1 ∈ later := by
        by_contra absent
        rw [colIndex_none.mpr absent] at place
        cases place
      by_cases same : kv.1 = name
      · rw [same] at present
        simp [present]
      · simp [same]

theorem namedRow_byNames {logger : CsvLogger} (index : logger.m_col_index = colIndex logger.m_header)
    (named : List (ByteBuffer × ByteBuffer)) :
    logger.namedRow named = byNames named logger.m_header := by
  induction named using List.reverseRecOn with
  | nil =>
    have none_given (header : List ByteBuffer) : byNames [] header = List.replicate header.length [] := by
      induction header with
      | nil => rfl
      | cons name later ih => simp [byNames,given,ih,List.replicate_succ]
    exact (none_given logger.m_header).symm
  | append_singleton front kv ih =>
    rw [namedRow,List.foldl_concat,← namedRow,ih,byNames_concat,index]

theorem length_byNames (named : List (ByteBuffer × ByteBuffer)) (header : List ByteBuffer) :
    (byNames named header).length = header.length := by
  induction header with
  | nil => rfl
  | cons name later ih => rw [byNames,List.length_cons,List.length_cons,ih]

/-- A logger that writes and has not failed. -/
structure Healthy (logger : CsvLogger) : Prop where
  ok : logger.m_ok = true
  good : logger.m_stream.bad = false
  index : logger.m_col_index = colIndex logger.m_header

/-- Calls of `AppendRow` on a stream that does not fail. -/
def appendRows (calls : List Append) (logger : CsvLogger) : CsvLogger :=
  calls.foldl (fun logger call => logger.append call none) logger

/-- The line of a call. -/
def Append.text (header : List ByteBuffer) : Append → ByteBuffer
  | .ordered values => lineText header.length values
  | .named kvs => lineText header.length (byNames kvs header)

theorem Append.text_written {header : List ByteBuffer} (columns : header ≠ []) (call : Append) :
    csvDialect.Written (call.record header) (call.text header) := by
  have count : header.length ≠ 0 := by simpa using columns
  cases call with
  | ordered values => exact lineText_written count values
  | named kvs =>
    have written := lineText_written count (byNames kvs header)
    have whole : fit header.length (byNames kvs header) = byNames kvs header := by
      rw [← length_byNames kvs header]
      simp [fit]
    rwa [whole] at written

theorem append_healthy {logger : CsvLogger} (healthy : logger.Healthy) (call : Append) :
    (logger.append call none).Healthy ∧ (logger.append call none).m_header = logger.m_header ∧
      (logger.append call none).m_stream.content =
        logger.m_stream.content ++ call.text logger.m_header := by
  have appended (values : List ByteBuffer) : (logger.appendRow values none).Healthy ∧
      (logger.appendRow values none).m_header = logger.m_header ∧
      (logger.appendRow values none).m_stream.content =
        logger.m_stream.content ++ lineText logger.m_header.length values := by
    obtain ⟨ok,good,index⟩ := healthy
    refine ⟨⟨?_,?_,?_⟩,?_,?_⟩ <;> simp [appendRow,OutputStream.write,ok,good,index]
  cases call with
  | ordered values => exact appended values
  | named kvs =>
    rw [append,appendNamed,namedRow_byNames healthy.index]
    exact appended (byNames kvs logger.m_header)

theorem appendRows_content {logger : CsvLogger} (healthy : logger.Healthy) (calls : List Append) :
    (logger.appendRows calls).m_stream.content =
      logger.m_stream.content ++ (calls.map (Append.text logger.m_header)).flatten := by
  induction calls generalizing logger with
  | nil => simp [appendRows]
  | cons call rest ih =>
    obtain ⟨next,same,grown⟩ := append_healthy healthy call
    rw [appendRows,List.foldl_cons,← appendRows,ih next,same,grown,List.map_cons,List.flatten_cons,
      List.append_assoc]

/-- A path to a file that is not there or empty, and can be written. -/
structure Fresh (path : CsvPath) : Prop where
  parent : path.parent = true
  opens : path.opens = true
  empty : path.file.getD [] = []

theorem open_fresh {path : CsvPath} (fresh : Fresh path) (header : List ByteBuffer) :
    (CsvLogger.open path header none).Healthy ∧
      (CsvLogger.open path header none).m_header = header ∧
      (CsvLogger.open path header none).m_stream.content = lineText header.length header := by
  obtain ⟨parent,opens,empty⟩ := fresh
  cases file : path.file with
  | none =>
    refine ⟨⟨?_,?_,?_⟩,?_,?_⟩ <;> simp [CsvLogger.open,parent,opens,file,OutputStream.write]
  | some content =>
    obtain rfl : content = [] := by simpa [file] using empty
    refine ⟨⟨?_,?_,?_⟩,?_,?_⟩ <;> simp [CsvLogger.open,parent,opens,file,OutputStream.write]

/-- What was logged is read back: the header, and a record for each call. -/
theorem rows_read_back {path : CsvPath} {header : List ByteBuffer} (fresh : Fresh path)
    (columns : header ≠ []) (calls : List Append) :
    csvDialect.parse ((CsvLogger.open path header none).appendRows calls).m_stream.content =
      some (header :: calls.map (Append.record header)) := by
  obtain ⟨healthy,same,begun⟩ := open_fresh fresh header
  have first := (Append.ordered header).text_written columns
  have own : (Append.ordered header).record header = header := by simp [Append.record,fit]
  rw [own] at first
  have written : List.Forall₂ csvDialect.Written (header :: calls.map (Append.record header))
      (lineText header.length header :: calls.map (Append.text header)) := by
    refine .cons first ?_
    rw [List.forall₂_map_left_iff,List.forall₂_map_right_iff]
    exact List.forall₂_same.mpr fun call _ => call.text_written columns
  rw [appendRows_content healthy,begun,same,← List.flatten_cons]
  exact Csv.Dialect.parse_written written

/-- A header of a quote and a comma; a row that is too short, one that is too long, and one whose
last column is named alone. -/
theorem odd_rows_read_back : csvDialect.parse
    ((CsvLogger.open { file := none } [[0x22],[0x2C]] none).appendRows
      [.ordered [],.ordered [[0x0D,0x0A],[0x20],[0x41]],
        .named [([0x2C],[0x22]),([0x41],[0x41])]]).m_stream.content =
    some [[[0x22],[0x2C]],[[],[]],[[0x0D,0x0A],[0x20]],[[],[0x22]]] :=
  rows_read_back ⟨rfl,rfl,rfl⟩ (by decide) [.ordered [],.ordered [[0x0D,0x0A],[0x20],[0x41]],
    .named [([0x2C],[0x22]),([0x41],[0x41])]]

end CsvLogger
end UavFanet
