import AdvancedShellHistory.Formatter.Spaced

/-!
# `GroupedFormatter::insert`: the `auto` formatter

`GroupedFormatter::insert` prints the first `levels` columns of a result as nested groups, with
`levels` from `get_grouped_level_count`: a grouped cell is printed on a line of its own, followed
by the indent of the next level, and left out, as four spaces, when it repeats what the vector
`prev` holds for its column.  Printing a grouped cell clears `prev` from its column on, so that the
levels below it are printed again under it.

* **`prev` is the row above**: the loop over the rows, which carries `prev` from row to row,
  writes the text of a rendering in which a row depends only on the row above it and on whether
  a grouped cell to its left was printed (`GroupedFormatter.insert_eq_aboveRows`).  Read off it: a grouped
  cell that differs from the cell above it is printed, but for an empty cell after a printed
  grouped cell of the same row, which is left out as if it repeated the cell above it.
* **No level, no grouping**: when `get_grouped_level_count` gives `0`, which it does whenever
  grouping every column is the least area (see `getGroupedLevelCount_localSessions`), the `auto`
  text is the `aligned` text (`GroupedFormatter.insert_of_levels_zero`).
-/

namespace Ash

/-! ### The code -/

/-- `for (size_t i = n; i > 0; --i) out << "    "`. -/
def indent (n : Nat) : String := String.join (List.replicate n "    ")

/-- `for (size_t i = c; i < levels; ++i) prev[i] = ""`. -/
def clearFrom (prev : List String) (c levels : Nat) : List String :=
  (List.range' c (levels - c)).foldl (fun prev i => prev.set i "") prev

/-- The headings loop of `GroupedFormatter::insert`: a grouped heading, a newline and the next
level's indent; the others as the `aligned` formatter lays them out. -/
def groupedHeadings (widths : List Nat) (levels : Nat) (headers : List String) (cols : Nat) :
    String :=
  String.join ((List.range cols).map fun c =>
    if c < levels then headers.getD c "" ++ "\n" ++ indent (c + 1)
    else alignedCell widths cols c (headers.getD c ""))

/-- What the row loop carries: the vector `prev` and the text written so far. -/
structure GroupedOut where
  prev : List String
  out : String

/-- The pass for cell `c` of row `r`. -/
def groupedCell (widths : List Nat) (levels cols r : Nat) (row : List String) (st : GroupedOut)
    (c : Nat) : GroupedOut :=
  let value := row.getD c ""
  if c < levels then
    if value ≠ st.prev.getD c "" ∨ r = 0 then
      if c < cols - 1 then
        ⟨(clearFrom st.prev c levels).set c value, st.out ++ value ++ "\n" ++ indent (c + 1)⟩
      else ⟨st.prev.set c value, st.out ++ value⟩
    else ⟨st.prev, st.out ++ "    "⟩
  else ⟨st.prev, st.out ++ alignedCell widths cols c value⟩

/-- Row `r`: its cells `c < cols`, then `endl`. -/
def groupedRow (widths : List Nat) (levels cols : Nat) (rs : ResultSet) (st : GroupedOut)
    (r : Nat) : GroupedOut :=
  let st := (List.range cols).foldl (groupedCell widths levels cols r (rs.data.getD r [])) st
  ⟨st.prev, st.out ++ "\n"⟩

/-- `GroupedFormatter::insert(rs, out)`: the headings when shown, then the rows `r < rows` with
`prev` starting as `levels` empty strings. -/
def GroupedFormatter.insert (rs : ResultSet) (doShowHeadings : Bool) : String :=
  let widths := getWidths rs doShowHeadings
  let levels := getGroupedLevelCount rs widths
  (if doShowHeadings then groupedHeadings widths levels rs.headers rs.columns ++ "\n" else "") ++
    ((List.range rs.rows).foldl (groupedRow widths levels rs.columns rs)
      ⟨List.replicate levels "", ""⟩).out

theorem length_clearFrom (prev : List String) (c levels : Nat) :
    (clearFrom prev c levels).length = prev.length := by
  unfold clearFrom
  induction List.range' c (levels - c) generalizing prev with
  | nil => rfl
  | cons i is ih => rw [List.foldl_cons, ih, List.length_set]

theorem getD_clearFrom (prev : List String) (c levels i : Nat) :
    (clearFrom prev c levels).getD i "" = if c ≤ i ∧ i < levels then "" else prev.getD i "" := by
  unfold clearFrom
  suffices h : ∀ (is : List Nat) (prev : List String),
      (is.foldl (fun prev i => prev.set i "") prev).getD i "" =
        if i ∈ is then "" else prev.getD i "" by
    rw [h]
    by_cases hm : c ≤ i ∧ i < levels
    · rw [if_pos (List.mem_range'_1.mpr ⟨hm.1, by omega⟩), if_pos hm]
    · rw [if_neg fun h' => hm (by have := List.mem_range'_1.mp h'; omega), if_neg hm]
  intro is
  induction is with
  | nil => exact fun _ => rfl
  | cons j is ih =>
    intro prev
    rw [List.foldl_cons, ih]
    by_cases hj : j = i
    · subst hj
      by_cases hl : j < prev.length <;>
        simp [List.getElem?_set, hl, List.getElem?_eq_none, Nat.le_of_not_lt]
    · simp [List.getElem?_set, hj, Ne.symm hj]

/-! ### The rendering from the row above -/

/-- What `prev[c]` holds when cell `c` of a row is reached: `""` once a grouped cell to its left
was printed in this row (`reset`), and otherwise the cell above it, `""` on the first row. -/
def prevAbove (above : Option (List String)) (reset : Bool) (c : Nat) : String :=
  if reset then "" else (above.getD []).getD c ""

/-- Cell `c` of a row, told by the row above it (`none` on the first row) and by whether a
grouped cell to its left was printed in this row, in place of `prev`. -/
def aboveCell (widths : List Nat) (levels cols : Nat) (above : Option (List String))
    (row : List String) (st : Bool × String) (c : Nat) : Bool × String :=
  let value := row.getD c ""
  if c < levels then
    if value ≠ prevAbove above st.1 c ∨ above = none then
      if c < cols - 1 then (true, st.2 ++ value ++ "\n" ++ indent (c + 1))
      else (st.1, st.2 ++ value)
    else (st.1, st.2 ++ "    ")
  else (st.1, st.2 ++ alignedCell widths cols c value)

/-- A row's text, told by the row above it. -/
def aboveRow (widths : List Nat) (levels cols : Nat) (above : Option (List String))
    (row : List String) : String :=
  ((List.range cols).foldl (aboveCell widths levels cols above row) (false, "")).2 ++ "\n"

/-- The relation between `prev` and the rendering's state before cell `c` of `row`: the grouped
cells to the left are the row's own, the others what `prevAbove` says. -/
def PrevMatches (levels : Nat) (above : Option (List String)) (row : List String) (reset : Bool)
    (c : Nat) (prev : List String) : Prop :=
  prev.length = levels ∧
    ∀ i < levels, prev.getD i "" = if i < c then row.getD i "" else prevAbove above reset i

section Simulation

variable {widths : List Nat} {levels cols r : Nat} {above : Option (List String)}
  {row : List String}

/-- **One cell**: both passes write the same text and keep the relation. -/
theorem groupedCell_sim (hr : r = 0 ↔ above = none) {c : Nat} {st : GroupedOut}
    {a : Bool × String} (h : PrevMatches levels above row a.1 c st.prev) (hout : st.out = a.2) :
    (groupedCell widths levels cols r row st c).out =
        (aboveCell widths levels cols above row a c).2 ∧
      PrevMatches levels above row (aboveCell widths levels cols above row a c).1
        (c + 1) (groupedCell widths levels cols r row st c).prev := by
  obtain ⟨prev, out⟩ := st
  obtain ⟨reset, out'⟩ := a
  obtain rfl : out = out' := hout
  obtain ⟨hlen, hprev⟩ := h
  unfold groupedCell aboveCell
  by_cases hc : c < levels
  · have hpc : prev.getD c "" = prevAbove above reset c := by
      rw [hprev c hc, if_neg (Nat.lt_irrefl c)]
    have hset : ∀ (p : List String), p.length = levels → ∀ i < levels,
        (p.set c (row.getD c "")).getD i "" = if i = c then row.getD c "" else p.getD i "" :=
      fun p hp i hi => by
        by_cases hi' : c = i
        · subst hi'; simp [List.getElem?_set, hp, hc]
        · simp [List.getElem?_set, hi', Ne.symm hi']
    simp only [if_pos hc, hpc, hr]
    by_cases hp : row.getD c "" ≠ prevAbove above reset c ∨ above = none
    · simp only [if_pos hp]
      by_cases hl : c < cols - 1
      · simp only [if_pos hl]
        refine ⟨trivial, by rw [List.length_set, length_clearFrom, hlen], fun i hi => ?_⟩
        rw [hset _ (by rw [length_clearFrom, hlen]) i hi, getD_clearFrom, prevAbove]
        rcases Nat.lt_trichotomy i c with hic | rfl | hic
        · rw [if_neg (by omega), if_neg (by omega), hprev i hi, if_pos hic, if_pos (by omega)]
        · simp
        · rw [if_neg (by omega), if_pos ⟨by omega, hi⟩, if_neg (by omega), if_pos rfl]
      · simp only [if_neg hl]
        refine ⟨trivial, by rw [List.length_set, hlen], fun i hi => ?_⟩
        rw [hset _ hlen i hi]
        rcases Nat.lt_trichotomy i c with hic | rfl | hic
        · rw [if_neg (by omega), hprev i hi, if_pos hic, if_pos (by omega)]
        · simp
        · rw [if_neg (by omega), hprev i hi, if_neg (by omega), if_neg (by omega)]
    · simp only [if_neg hp]
      refine ⟨trivial, hlen, fun i hi => ?_⟩
      rw [hprev i hi]
      rcases Nat.lt_trichotomy i c with hic | rfl | hic
      · rw [if_pos hic, if_pos (by omega)]
      · rw [if_neg (Nat.lt_irrefl i), if_pos (Nat.lt_succ_self i)]
        exact (not_not.mp (not_or.mp hp).1).symm
      · rw [if_neg (by omega), if_neg (by omega)]
  · simp only [if_neg hc]
    refine ⟨trivial, hlen, fun i hi => ?_⟩
    rw [hprev i hi, if_pos (by omega), if_pos (by omega)]

/-- **One row's cells**: the two loops over `c < n` write the same text and keep the relation. -/
theorem groupedCells_sim (hr : r = 0 ↔ above = none) (n : Nat) {st : GroupedOut}
    (h : PrevMatches levels above row false 0 st.prev) :
    ((List.range n).foldl (groupedCell widths levels cols r row) st).out =
        ((List.range n).foldl (aboveCell widths levels cols above row) (false, st.out)).2 ∧
      PrevMatches levels above row
        ((List.range n).foldl (aboveCell widths levels cols above row) (false, st.out)).1 n
        ((List.range n).foldl (groupedCell widths levels cols r row) st).prev := by
  induction n with
  | zero => exact ⟨rfl, h⟩
  | succ n ih =>
    simp only [List.range_succ, List.foldl_append, List.foldl_cons, List.foldl_nil]
    exact @groupedCell_sim widths levels cols r above row hr _ _ _ ih.2 ih.1

end Simulation

theorem aboveCell_append (widths : List Nat) (levels cols : Nat) (above : Option (List String))
    (row : List String) (st : Bool × String) (out : String) (c : Nat) :
    aboveCell widths levels cols above row (st.1, out ++ st.2) c =
      ((aboveCell widths levels cols above row st c).1,
        out ++ (aboveCell widths levels cols above row st c).2) := by
  obtain ⟨b, s⟩ := st
  unfold aboveCell
  dsimp only
  split_ifs <;> simp [String.append_assoc]

/-- The rendering's cells write after what was written before them. -/
theorem aboveCells_append (widths : List Nat) (levels cols : Nat) (above : Option (List String))
    (row : List String) (n : Nat) (b : Bool) (out : String) :
    (List.range n).foldl (aboveCell widths levels cols above row) (b, out) =
      (((List.range n).foldl (aboveCell widths levels cols above row) (b, "")).1,
        out ++ ((List.range n).foldl (aboveCell widths levels cols above row) (b, "")).2) := by
  induction n with
  | zero => simp
  | succ n ih =>
    simp only [List.range_succ, List.foldl_append, List.foldl_cons, List.foldl_nil]
    rw [ih, aboveCell_append]

/-- The row above row `r`: none for the first row. -/
def rowAbove (rs : ResultSet) (r : Nat) : Option (List String) :=
  if r = 0 then none else some (rs.data.getD (r - 1) [])

/-- **One row**: when `prev` holds the cells above, the row loop writes the row rendered from
the row above it and leaves `prev` holding the row's own grouped cells. -/
theorem groupedRow_sim {widths : List Nat} {levels : Nat} {rs : ResultSet}
    (hl : levels ≤ rs.columns) {r : Nat} {st : GroupedOut}
    (h : PrevMatches levels (rowAbove rs r) (rs.data.getD r []) false 0 st.prev) :
    (groupedRow widths levels rs.columns rs st r).out =
        st.out ++ aboveRow widths levels rs.columns (rowAbove rs r) (rs.data.getD r []) ∧
      (groupedRow widths levels rs.columns rs st r).prev.length = levels ∧
      ∀ i < levels,
        (groupedRow widths levels rs.columns rs st r).prev.getD i "" = (rs.data.getD r []).getD i "" := by
  have hr : r = 0 ↔ rowAbove rs r = none := by by_cases h0 : r = 0 <;> simp [rowAbove, h0]
  obtain ⟨hout, hlen, hprev⟩ :=
    @groupedCells_sim widths levels rs.columns r _ _ hr rs.columns st h
  refine ⟨?_, hlen, fun i hi => (hprev i hi).trans (if_pos (by omega))⟩
  rw [groupedRow, aboveRow]
  dsimp only
  rw [hout, aboveCells_append, String.append_assoc]

/-- **The rows**: after the rows `r < n`, the text is each row rendered from the row above it,
and `prev` holds the cells above row `n`. -/
theorem groupedRows_eq {widths : List Nat} {levels : Nat} {rs : ResultSet}
    (hl : levels ≤ rs.columns) (n : Nat) :
    ((List.range n).foldl (groupedRow widths levels rs.columns rs)
        ⟨List.replicate levels "", ""⟩).out =
      String.join ((List.range n).map fun r =>
        aboveRow widths levels rs.columns (rowAbove rs r) (rs.data.getD r [])) ∧
    PrevMatches levels (rowAbove rs n) (rs.data.getD n []) false 0
      ((List.range n).foldl (groupedRow widths levels rs.columns rs)
        ⟨List.replicate levels "", ""⟩).prev := by
  induction n with
  | zero =>
    refine ⟨rfl, List.length_replicate _ _, fun i hi => ?_⟩
    simp [prevAbove, rowAbove, hi]
  | succ n ih =>
    obtain ⟨hout, hlen, hprev⟩ := @groupedRow_sim widths _ _ hl _ _ ih.2
    simp only [List.range_succ, List.foldl_append, List.foldl_cons, List.foldl_nil,
      List.map_append, List.map_cons, List.map_nil, join_append, join_cons, join_nil,
      String.append_empty]
    refine ⟨by rw [hout, ih.1], hlen, fun i hi => ?_⟩
    rw [hprev i hi, if_neg (Nat.not_lt_zero i)]
    simp [prevAbove, rowAbove]

/-- **`prev` is the row above**: the `auto` formatter's text is its headings, when shown, and
then each row rendered from the row above it and from whether a grouped cell to its left was
printed, as `aboveRow` does, with no other state carried from row to row. -/
theorem GroupedFormatter.insert_eq_aboveRows (rs : ResultSet) (doShowHeadings : Bool) :
    GroupedFormatter.insert rs doShowHeadings =
      (if doShowHeadings then
          groupedHeadings (getWidths rs doShowHeadings)
            (getGroupedLevelCount rs (getWidths rs doShowHeadings)) rs.headers rs.columns ++ "\n"
        else "") ++
      String.join ((List.range rs.rows).map fun r =>
        aboveRow (getWidths rs doShowHeadings)
          (getGroupedLevelCount rs (getWidths rs doShowHeadings)) rs.columns (rowAbove rs r)
          (rs.data.getD r [])) := by
  rw [GroupedFormatter.insert, (groupedRows_eq ((getGroupedLevelCount_le rs _).trans
    (Nat.sub_le _ _)) rs.rows).1]

/-! ### No level, no grouping -/

theorem aboveCells_levels_zero (widths : List Nat) (cols : Nat) (above : Option (List String))
    (row : List String) (n : Nat) (st : Bool × String) :
    ((List.range n).foldl (aboveCell widths 0 cols above row) st).2 =
      st.2 ++ String.join ((List.range n).map fun c => alignedCell widths cols c (row.getD c "")) := by
  induction n with
  | zero => exact (String.append_empty _).symm
  | succ n ih =>
    simp only [List.range_succ, List.foldl_append, List.foldl_cons, List.foldl_nil,
      List.map_append, List.map_cons, List.map_nil, join_append, join_cons, join_nil,
      String.append_empty]
    rw [aboveCell, if_neg (Nat.not_lt_zero n)]
    dsimp only
    rw [ih, String.append_assoc]

/-- **No level, no grouping**: on a result that keeps the invariant, when
`get_grouped_level_count` gives `0` the `auto` formatter prints exactly what the `aligned`
formatter prints. -/
theorem GroupedFormatter.insert_of_levels_zero {rs : ResultSet} (hv : rs.Valid)
    (doShowHeadings : Bool) (h0 : getGroupedLevelCount rs (getWidths rs doShowHeadings) = 0) :
    GroupedFormatter.insert rs doShowHeadings = SpacedFormatter.insert rs doShowHeadings := by
  have hrow : ∀ above row, aboveRow (getWidths rs doShowHeadings) 0 rs.columns above row =
      alignedLine (getWidths rs doShowHeadings) rs.columns row ++ "\n" := fun above row => by
    rw [aboveRow, aboveCells_levels_zero, alignedLine, String.empty_append]
  rw [GroupedFormatter.insert, (groupedRows_eq ((getGroupedLevelCount_le rs _).trans
    (Nat.sub_le _ _)) rs.rows).1, h0, SpacedFormatter.insert_eq hv, List.map_append, join_append]
  simp only [hrow]
  rw [hv.rows_eq, map_range_getD (fun row => alignedLine (getWidths rs doShowHeadings)
    rs.columns row ++ "\n")]
  cases doShowHeadings
  · rfl
  · simp only [if_pos rfl, ite_true, List.map_cons, List.map_nil, join_cons, join_nil,
      String.append_empty, groupedHeadings, alignedLine, Nat.not_lt_zero, if_false]

/-- Two local sessions, where the level count is `0`: the two formatters print the same. -/
theorem GroupedFormatter.insert_of_levels_zero_localSessions :
    localSessions.Valid ∧ getGroupedLevelCount localSessions (getWidths localSessions true) = 0 ∧
      GroupedFormatter.insert localSessions true = SpacedFormatter.insert localSessions true :=
  have hv : localSessions.Valid := by decide
  have h0 : getGroupedLevelCount localSessions (getWidths localSessions true) = 0 := by decide
  ⟨hv, h0, GroupedFormatter.insert_of_levels_zero hv true h0⟩

end Ash
