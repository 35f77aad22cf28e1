import AdvancedShellHistory.Database.Basic
import Mathlib.Data.String.Basic

/-!
# `insert_delimited`: the `csv` and `null` formatters

`insert_delimited` writes the headings, when shown, and then every row of a result, each on a
line of its own with the delimiter between two cells; `CsvFormatter` delimits with a comma and
`NullFormatter` with `NUL`.  Both descriptions say the strings are quoted, and neither
formatter quotes or escapes anything.

* Read back, the text gives the result when no heading or cell holds the delimiter, a newline
  or, for CSV, a double quote or a carriage return, and there is a column: `nullSplit_insert`
  and `csvDecode_insert`.
* A command with a comma or a newline in it, as logged commands often have, breaks the rows
  apart (`insert_splits_command`).
-/

namespace Ash

/-! ### `insert_delimited` -/

/-- One line of `insert_delimited`: `cells[c]` for `c < n`, each followed by the delimiter `d`
when `c + 1 < columns`. -/
def delimitedLine (d : String) (columns n : Nat) (cells : List String) : String :=
  String.join ((List.range n).map fun c => cells.getD c "" ++ if c + 1 < columns then d else "")

/-- `insert_delimited(rs, out, d, do_show_headings)`: the loop over the headings when they are
shown, then the loop over the rows `r < rows` and columns `c < columns`, each line ended by
`endl`. -/
def insertDelimited (rs : ResultSet) (d : String) (doShowHeadings : Bool) : String :=
  (if doShowHeadings then delimitedLine d rs.columns rs.headers.length rs.headers ++ "\n"
    else "") ++
  String.join ((List.range rs.rows).map fun r =>
    delimitedLine d rs.columns rs.columns (rs.data.getD r []) ++ "\n")

/-- `CsvFormatter::insert`: columns separated by commas. -/
def CsvFormatter.insert (rs : ResultSet) (doShowHeadings : Bool) : String :=
  insertDelimited rs "," doShowHeadings

/-- `NullFormatter::insert`: columns separated by `NUL`. -/
def NullFormatter.insert (rs : ResultSet) (doShowHeadings : Bool) : String :=
  insertDelimited rs "\x00" doShowHeadings

/-! ### Reading the text back -/

/-- The `null` formatter's text read as its lines, each split into cells at `NUL`: a row ends at
each newline. -/
def nullSplit (t : String) : List (List String) :=
  ((t.toList.splitOn '\n').dropLast).map fun line => (line.splitOn '\x00').map String.mk

/-- Where a CSV reader is in a field: outside quotes, inside quotes, just after a double quote
inside quotes, which either closes the quotes or, doubled, stands for one, or just after a
carriage return that ended a record. -/
inductive CsvState
  | plain
  | quoted
  | closing
  | afterCr
  deriving DecidableEq, Repr

/-- A CSV reader after RFC 4180 that takes `CRLF`, a bare `LF` or a bare `CR` as the line break
ending a record: a field is a run of characters up to a comma or a line break, or a quoted run
in which two double quotes stand for one.  `field` and `record` are what the reader holds of
the current record. -/
def csvRecords : List Char → List Char → List String → CsvState → List (List String)
  | [], field, record, _ => if field = [] ∧ record = [] then [] else [record ++ [⟨field⟩]]
  | c :: cs, field, record, st =>
    if st = .quoted then
      if c = '"' then csvRecords cs field record .closing
      else csvRecords cs (field ++ [c]) record .quoted
    else if st = .afterCr ∧ c = '\n' then csvRecords cs [] [] .plain
    else if c = '"' ∧ (st = .closing ∨ field = []) then
      csvRecords cs (if st = .closing then field ++ ['"'] else field) record .quoted
    else if c = ',' then csvRecords cs [] (record ++ [⟨field⟩]) .plain
    else if c = '\n' then (record ++ [⟨field⟩]) :: csvRecords cs [] [] .plain
    else if c = '\r' then (record ++ [⟨field⟩]) :: csvRecords cs [] [] .afterCr
    else csvRecords cs (field ++ [c]) record .plain

/-- The records of a CSV text. -/
def csvDecode (t : String) : List (List String) := csvRecords t.toList [] [] .plain

/-- `CRLF`, `CR` and `LF` each end one record. -/
example : csvDecode "a\r\nb\rc\n" = [["a"], ["b"], ["c"]] := by decide

/-! ### The text, line by line -/

theorem flatten_delimited (d : List Char) : ∀ cells : List String,
    ((List.range cells.length).map fun c =>
        (cells.getD c "").data ++ if c + 1 < cells.length then d else []).flatten =
      d.intercalate (cells.map String.data)
  | [] => rfl
  | x :: xs => by
    rw [List.length_cons, List.range_succ_eq_map, List.map_cons, List.map_map, List.flatten_cons]
    simp only [Function.comp_def, List.getD_cons_succ, List.getD_cons_zero,
      Nat.add_lt_add_iff_right, flatten_delimited d xs]
    cases xs <;> simp [List.intercalate]

/-- A line of as many cells as columns is the cells joined by the delimiter. -/
theorem toList_delimitedLine (d : String) (cells : List String) :
    (delimitedLine d cells.length cells.length cells).toList =
      d.toList.intercalate (cells.map String.toList) := by
  simp only [delimitedLine, String.toList, String.data_join, List.map_map, Function.comp_def,
    String.data_append, apply_ite String.data]
  exact flatten_delimited d.data cells

/-- The text of `insert_delimited` with the headings shown, on a result that keeps the
invariant: the headings and then each row, the cells joined by the delimiter, each followed by
a newline. -/
theorem toList_insertDelimited {rs : ResultSet} (hv : rs.Valid) (d : String) :
    (insertDelimited rs d true).toList =
      ((rs.headers :: rs.data).map fun cells =>
        d.toList.intercalate (cells.map String.toList) ++ ['\n']).flatten := by
  have hrow : ∀ row ∈ rs.data, delimitedLine d rs.columns rs.columns row =
      delimitedLine d row.length row.length row := fun row h => by rw [hv.row_length row h]
  have hline : ∀ cells : List String, (delimitedLine d cells.length cells.length cells).data =
      d.data.intercalate (cells.map String.toList) := toList_delimitedLine d
  rw [insertDelimited, if_pos rfl, hv.rows_eq,
    map_range_getD (fun row => delimitedLine d rs.columns rs.columns row ++ "\n") [] rs.data,
    List.map_congr_left fun row h => by rw [hrow row h], hv.columns_eq]
  simp only [String.toList, String.data_append, String.data_join, List.map_map,
    Function.comp_def, hline, List.map_cons, List.flatten_cons, List.append_assoc]

/-! ### The `null` text read back -/

theorem flatten_map_append_singleton {α β : Type} (f : β → List α) (x : α) :
    ∀ ls : List β, (ls.map fun l => f l ++ [x]).flatten = [x].intercalate (ls.map f ++ [[]])
  | [] => rfl
  | l :: ls => by
    rw [List.map_cons, List.flatten_cons, flatten_map_append_singleton f x ls, List.map_cons,
      List.cons_append]
    obtain ⟨m, ms, hm⟩ := List.exists_cons_of_ne_nil (List.append_ne_nil_of_right_ne_nil
      (ls.map f) (List.cons_ne_nil [] []))
    rw [hm]
    simp [List.intercalate]

theorem splitOn_intercalate_cells {sep : Char} {cells : List String} (hne : cells ≠ [])
    (h : ∀ x ∈ cells, sep ∉ x.toList) :
    (([sep].intercalate (cells.map String.toList)).splitOn sep).map String.mk = cells := by
  rw [List.splitOn_intercalate _ sep (by simpa using h) (by simpa using hne), List.map_map]
  exact List.map_id'' (fun _ => rfl) cells

theorem ne_nil_of_valid {rs : ResultSet} (hv : rs.Valid) (hcol : 0 < rs.columns) :
    ∀ cells ∈ rs.headers :: rs.data, cells ≠ [] := by
  intro cells hc
  rcases List.mem_cons.mp hc with rfl | hc
  · exact List.ne_nil_of_length_pos (hv.columns_eq ▸ hcol)
  · exact List.ne_nil_of_length_pos (hv.row_length cells hc ▸ hcol)

/-- **The `null` text round-trips** when there is a column and no heading or cell holds a
newline or `NUL`: split at the newlines and then at `NUL`, it gives back the headings and the
rows. -/
theorem nullSplit_insert {rs : ResultSet} (hv : rs.Valid) (hcol : 0 < rs.columns)
    (h : ∀ cells ∈ rs.headers :: rs.data, ∀ x ∈ cells, '\n' ∉ x.toList ∧ '\x00' ∉ x.toList) :
    nullSplit (NullFormatter.insert rs true) = rs.headers :: rs.data := by
  rw [nullSplit, NullFormatter.insert, toList_insertDelimited hv,
    show ("\x00" : String).toList = ['\x00'] from rfl, flatten_map_append_singleton,
    List.splitOn_intercalate, List.dropLast_concat, List.map_map]
  · conv_rhs => rw [← List.map_id (rs.headers :: rs.data)]
    exact List.map_congr_left fun cells hc =>
      splitOn_intercalate_cells (ne_nil_of_valid hv hcol cells hc) fun x hx => (h cells hc x hx).2
  · intro l hl
    rcases List.mem_append.mp hl with hl | hl
    · obtain ⟨cells, hc, rfl⟩ := List.mem_map.mp hl
      exact fun hx => forall_mem_intercalate (P := fun c => c ≠ '\n') (by simp) _
        (fun l hl => by
          obtain ⟨x, hx, rfl⟩ := List.mem_map.mp hl
          exact fun c hc hcn => (h cells ‹_› x hx).1 (hcn ▸ hc)) _ hx rfl
    · simp_all
  · simp

/-- Two commands with their exit codes. -/
def lsCommands : ResultSet := ResultSet.make ["command", "rval"] [["ls -l", "0"], ["cd /tmp", "1"]]

theorem nullSplit_insert_lsCommands :
    lsCommands.Valid ∧ 0 < lsCommands.columns ∧
      (∀ cells ∈ lsCommands.headers :: lsCommands.data, ∀ x ∈ cells,
        '\n' ∉ x.toList ∧ '\x00' ∉ x.toList) ∧
      nullSplit (NullFormatter.insert lsCommands true) = lsCommands.headers :: lsCommands.data :=
  have hv : lsCommands.Valid := by decide
  have hcol : 0 < lsCommands.columns := by decide
  have h : ∀ cells ∈ lsCommands.headers :: lsCommands.data, ∀ x ∈ cells,
      '\n' ∉ x.toList ∧ '\x00' ∉ x.toList := by decide
  ⟨hv, hcol, h, nullSplit_insert hv hcol h⟩

/-! ### The `csv` text read back -/

theorem csvRecords_plain {c : Char} (hq : c ≠ '"') (hs : c ≠ ',') (hn : c ≠ '\n')
    (hr : c ≠ '\r') (cs field : List Char) (record : List String) :
    csvRecords (c :: cs) field record .plain = csvRecords cs (field ++ [c]) record .plain := by
  simp only [csvRecords, hq, hs, hn, hr, false_and, and_false, if_false, reduceCtorEq]

theorem csvRecords_comma (cs field : List Char) (record : List String) :
    csvRecords (',' :: cs) field record .plain = csvRecords cs [] (record ++ [⟨field⟩]) .plain := by
  simp [csvRecords]

theorem csvRecords_newline (cs field : List Char) (record : List String) :
    csvRecords ('\n' :: cs) field record .plain =
      (record ++ [⟨field⟩]) :: csvRecords cs [] [] .plain := by
  simp [csvRecords]

/-- Characters other than a double quote, a comma and a line break are read into the field. -/
theorem csvRecords_append_plain {f : List Char}
    (hf : ∀ c ∈ f, c ≠ '"' ∧ c ≠ ',' ∧ c ≠ '\n' ∧ c ≠ '\r')
    (rest field : List Char) (record : List String) :
    csvRecords (f ++ rest) field record .plain = csvRecords rest (field ++ f) record .plain := by
  induction f generalizing field with
  | nil => simp
  | cons c f ih =>
    obtain ⟨hq, hs, hn, hr⟩ := hf c (List.mem_cons_self c f)
    rw [List.cons_append, csvRecords_plain hq hs hn hr,
      ih (fun x hx => hf x (List.mem_cons_of_mem c hx)), List.append_assoc, List.singleton_append]

/-- A line of plain cells joined by commas is read as one record of those cells. -/
theorem csvRecords_line {cells : List String} (hne : cells ≠ [])
    (h : ∀ x ∈ cells, ∀ c ∈ x.toList, c ≠ '"' ∧ c ≠ ',' ∧ c ≠ '\n' ∧ c ≠ '\r')
    (rest : List Char) :
    ∀ record : List String,
      csvRecords ([','].intercalate (cells.map String.toList) ++ '\n' :: rest) [] record .plain =
        (record ++ cells) :: csvRecords rest [] [] .plain := by
  induction cells with
  | nil => exact absurd rfl hne
  | cons x xs ih =>
    intro record
    cases xs with
    | nil =>
      simp only [List.map_cons, List.map_nil, List.intercalate, List.intersperse_single,
        List.flatten_cons, List.flatten_nil, List.append_nil]
      rw [csvRecords_append_plain (h x (List.mem_singleton_self x)), List.nil_append,
        csvRecords_newline]
      rfl
    | cons y ys =>
      rw [List.map_cons, show [','].intercalate (x.toList :: (y :: ys).map String.toList) =
          x.toList ++ ',' :: [','].intercalate ((y :: ys).map String.toList) from rfl,
        List.append_assoc, List.cons_append, csvRecords_append_plain (h x (List.mem_cons_self x _)),
        List.nil_append, csvRecords_comma, ih (List.cons_ne_nil y ys)
          (fun z hz => h z (List.mem_cons_of_mem x hz))]
      simp

/-- **The `csv` text round-trips** when there is a column and no heading or cell holds a
double quote, a comma or a line break: read by `csvRecords`, it gives back the headings and the
rows. -/
theorem csvDecode_insert {rs : ResultSet} (hv : rs.Valid) (hcol : 0 < rs.columns)
    (h : ∀ cells ∈ rs.headers :: rs.data, ∀ x ∈ cells, ∀ c ∈ x.toList,
      c ≠ '"' ∧ c ≠ ',' ∧ c ≠ '\n' ∧ c ≠ '\r') :
    csvDecode (CsvFormatter.insert rs true) = rs.headers :: rs.data := by
  rw [csvDecode, CsvFormatter.insert, toList_insertDelimited hv,
    show ("," : String).toList = [','] from rfl]
  have hne := ne_nil_of_valid hv hcol
  generalize rs.headers :: rs.data = L at h hne ⊢
  induction L with
  | nil => rfl
  | cons cells L ih =>
    rw [List.map_cons, List.flatten_cons, List.append_assoc, List.singleton_append,
      csvRecords_line (hne cells (List.mem_cons_self _ _)) (h cells (List.mem_cons_self _ _)),
      List.nil_append, ih (fun c hc => h c (List.mem_cons_of_mem _ hc))
        (fun c hc => hne c (List.mem_cons_of_mem _ hc))]

theorem csvDecode_insert_lsCommands :
    lsCommands.Valid ∧ 0 < lsCommands.columns ∧
      (∀ cells ∈ lsCommands.headers :: lsCommands.data, ∀ x ∈ cells, ∀ c ∈ x.toList,
        c ≠ '"' ∧ c ≠ ',' ∧ c ≠ '\n' ∧ c ≠ '\r') ∧
      csvDecode (CsvFormatter.insert lsCommands true) = lsCommands.headers :: lsCommands.data :=
  have hv : lsCommands.Valid := by decide
  have hcol : 0 < lsCommands.columns := by decide
  have h : ∀ cells ∈ lsCommands.headers :: lsCommands.data, ∀ x ∈ cells, ∀ c ∈ x.toList,
      c ≠ '"' ∧ c ≠ ',' ∧ c ≠ '\n' ∧ c ≠ '\r' := by decide
  ⟨hv, hcol, h, csvDecode_insert hv hcol h⟩

/-! ### A command with a comma and a newline -/

/-- A one-column result holding the command `echo a,b` followed, on a second line, by
`echo c`. -/
def multilineCommand : ResultSet := ResultSet.make ["command"] [["echo a,b\necho c"]]

/-- Read back, the `csv` text of `multilineCommand` has three records and the `null` text three
rows, where the result has a heading and one row. -/
theorem insert_splits_command :
    multilineCommand.Valid ∧
    csvDecode (CsvFormatter.insert multilineCommand true) =
      [["command"], ["echo a", "b"], ["echo c"]] ∧
    nullSplit (NullFormatter.insert multilineCommand true) =
      [["command"], ["echo a,b"], ["echo c"]] := by
  decide

end Ash
