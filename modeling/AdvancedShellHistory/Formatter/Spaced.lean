import AdvancedShellHistory.Formatter.Grouped

/-!
# `SpacedFormatter::insert`: the `aligned` formatter

`SpacedFormatter::insert` prints the headings, when they are shown, and then every row of a
result, each on a line of its own, every cell but the last padded by `setw` to the width
`get_widths` gives its column.

* The headings loop moves its counter on only when it pads a heading, and still lays the
  headings out as the row loop lays out a row (`spacedHeadings_eq`), so the text is one
  `alignedLine` for the headings and one for each row (`SpacedFormatter.insert_eq`).
* **The columns line up**: in every line, cell `c` starts at the sum of the first `c` widths and,
  but in the last column, is followed by at least four spaces.  This holds for the headings
  always, and for a row whose cells have at most `76` bytes (`SpacedFormatter.insert_aligned`):
  the width of a column is capped at `max_w = 80` for its cells but not for its heading, so a
  longer cell runs past its column.  A line is one line of the text when no cell holds a
  newline; a logged command that holds one breaks its row over several lines.
-/

namespace Ash

/-! ### `setw` and the aligned line -/

/-- `out << left << setw(w) << s`: `s`, then spaces up to the width `w`; a longer `s` is printed
whole. -/
def setw (w : Nat) (s : String) : String :=
  s ++ ⟨List.replicate (w - s.length) ' '⟩

/-- Cell `c` of a line of `cols` columns: `out << left << setw(widths[c]) << cell` for
`c < cols - 1`, the last cell as it is. -/
def alignedCell (widths : List Nat) (cols c : Nat) (cell : String) : String :=
  if c < cols - 1 then setw (widths.getD c 0) cell else cell

/-- The loop over the cells `c < columns` of one row. -/
def alignedLine (widths : List Nat) (columns : Nat) (cells : List String) : String :=
  String.join ((List.range columns).map fun c => alignedCell widths columns c (cells.getD c ""))

theorem length_setw (w : Nat) (s : String) : (setw w s).length = max w s.length := by
  simp only [setw, String.length_append, String.length_mk, List.length_replicate]
  omega

/-- A padded cell that fits with four spaces to spare is the cell, four spaces, and more. -/
theorem setw_of_fits {w : Nat} {s : String} (h : 4 + s.length ≤ w) :
    ∃ rest, setw w s = s ++ ("    " ++ rest) := by
  obtain ⟨k, hk⟩ : ∃ k, w - s.length = 4 + k := ⟨w - s.length - 4, by omega⟩
  exact ⟨⟨List.replicate k ' '⟩, by rw [setw, hk, List.replicate_add]; rfl⟩

/-! ### `SpacedFormatter::insert` -/

/-- The headings loop of `SpacedFormatter::insert`, with `cols = widths.size()`:
`if (c < cols - 1) out << left << setw(widths[c++]); out << *i;`. -/
def spacedHeadings (widths : List Nat) (cols : Nat) : Nat → List String → String
  | _, [] => ""
  | c, h :: hs =>
    if c < cols - 1 then setw (widths.getD c 0) h ++ spacedHeadings widths cols (c + 1) hs
    else h ++ spacedHeadings widths cols c hs

/-- `SpacedFormatter::insert(rs, out)`: the headings when shown, then the rows `r < rows`, each
line ended by `endl`. -/
def SpacedFormatter.insert (rs : ResultSet) (doShowHeadings : Bool) : String :=
  let widths := getWidths rs doShowHeadings
  (if doShowHeadings then spacedHeadings widths widths.length 0 rs.headers ++ "\n" else "") ++
    String.join ((List.range rs.rows).map fun r =>
      alignedLine widths rs.columns (rs.data.getD r []) ++ "\n")

/-- Once the counter has reached `cols - 1`, the headings are printed as they are. -/
theorem spacedHeadings_of_le {widths : List Nat} {cols c : Nat} (hc : cols - 1 ≤ c) :
    ∀ hs : List String, spacedHeadings widths cols c hs = String.join hs
  | [] => rfl
  | h :: hs => by
    rw [spacedHeadings, if_neg (by omega), spacedHeadings_of_le hc hs, join_cons]

/-- The headings loop lays out heading `i` as the row loop lays out cell `c + i`. -/
theorem spacedHeadings_eq (widths : List Nat) (cols : Nat) :
    ∀ (hs : List String) (c : Nat), spacedHeadings widths cols c hs =
      String.join ((List.range hs.length).map fun i => alignedCell widths cols (i + c) (hs.getD i ""))
  | [], _ => rfl
  | h :: hs, c => by
    rw [List.length_cons, List.range_succ_eq_map, List.map_cons, List.map_map, join_cons]
    by_cases hc : c < cols - 1
    · rw [spacedHeadings, if_pos hc, spacedHeadings_eq widths cols hs (c + 1)]
      simp only [Function.comp_def, List.getD_cons_succ, List.getD_cons_zero, Nat.zero_add,
        alignedCell, if_pos hc, Nat.add_right_comm _ 1 c, Nat.add_assoc]
    · rw [spacedHeadings, if_neg hc, spacedHeadings_of_le (by omega) hs]
      simp only [Function.comp_def, List.getD_cons_succ, List.getD_cons_zero, Nat.zero_add,
        alignedCell, if_neg hc]
      congr 2
      conv_lhs => rw [← List.map_id hs, ← map_range_getD id ""]
      exact List.map_congr_left fun i _ => by rw [if_neg (by omega)]; rfl

/-- On a result that keeps the invariant, the text is the headings' line when shown, then one
line for each row. -/
theorem SpacedFormatter.insert_eq {rs : ResultSet} (hv : rs.Valid) (doShowHeadings : Bool) :
    SpacedFormatter.insert rs doShowHeadings =
      String.join (((if doShowHeadings then [rs.headers] else []) ++ rs.data).map fun cells =>
        alignedLine (getWidths rs doShowHeadings) rs.columns cells ++ "\n") := by
  have hw : (getWidths rs doShowHeadings).length = rs.columns := by
    rw [length_getWidths, hv.columns_eq]
  rw [SpacedFormatter.insert, hv.rows_eq,
    map_range_getD (fun row => alignedLine (getWidths rs doShowHeadings) rs.columns row ++ "\n"),
    List.map_append, join_append]
  congr 1
  cases doShowHeadings
  · rfl
  · simp only [if_pos rfl, ite_true, hw, List.map_cons, List.map_nil, join_cons, join_nil,
      String.append_empty]
    rw [spacedHeadings_eq, alignedLine, ← hv.columns_eq]
    simp only [Nat.add_zero]

/-! ### The columns line up -/

theorem totalWidth_append (l₁ l₂ : List Nat) :
    totalWidth (l₁ ++ l₂) = totalWidth l₁ + totalWidth l₂ := by
  rw [totalWidth, List.foldl_append, foldl_add_eq]
  rfl

/-- The cells before `c`, each padded to its width, take the sum of the first `c` widths. -/
theorem length_alignedCells {widths : List Nat} {cols : Nat} {cells : List String} {c : Nat}
    (hc : c ≤ cols - 1) (hw : c ≤ widths.length)
    (hfit : ∀ i < c, (cells.getD i "").length ≤ widths.getD i 0) :
    (String.join ((List.range c).map fun i => alignedCell widths cols i (cells.getD i ""))).length =
      totalWidth (widths.take c) := by
  induction c with
  | zero => rfl
  | succ c ih =>
    rw [List.range_succ, List.map_append, join_append, String.length_append,
      ih (by omega) (by omega) fun i hi => hfit i (by omega), List.take_succ,
      totalWidth_append, List.getElem?_eq_getElem (by omega), ← List.getD_eq_getElem _ 0]
    simp only [List.map_cons, List.map_nil, join_cons, String.join, List.foldl_nil,
      String.append_empty, String.empty_append, alignedCell, if_pos (show c < cols - 1 by omega),
      length_setw, Option.toList, totalWidth, List.foldl_cons, Nat.zero_add,
      max_eq_left (hfit c (by omega))]

/-- **One line lines up**: when every cell but the last fits its width with four spaces to spare,
cell `c` starts at the sum of the first `c` widths and, but in the last column, is followed by at
least four spaces. -/
theorem alignedLine_aligned {widths : List Nat} {columns : Nat} {cells : List String}
    (hw : columns ≤ widths.length)
    (hfit : ∀ c < columns - 1, 4 + (cells.getD c "").length ≤ widths.getD c 0)
    {c : Nat} (hc : c < columns) :
    ∃ pre rest, alignedLine widths columns cells = pre ++ cells.getD c "" ++ rest ∧
      pre.length = totalWidth (widths.take c) ∧
      (c < columns - 1 → ∃ rest', rest = "    " ++ rest') := by
  let cell := fun i => alignedCell widths columns i (cells.getD i "")
  let tail := String.join (((List.range (columns - (c + 1))).map (c + 1 + ·)).map cell)
  have hr : List.range columns =
      List.range c ++ [c] ++ (List.range (columns - (c + 1))).map (c + 1 + ·) := by
    rw [← List.range_succ, ← List.range_add, Nat.add_sub_cancel' hc]
  have hsplit : alignedLine widths columns cells =
      String.join ((List.range c).map cell) ++ cell c ++ tail := by
    rw [alignedLine, hr, List.map_append, List.map_append, join_append, join_append]
    simp only [List.map_cons, List.map_nil, join_cons, join_nil, String.append_empty, tail, cell]
  have hpre := @length_alignedCells widths columns cells c (by omega) (by omega)
    fun i hi => by have := hfit i (by omega); omega
  by_cases hl : c < columns - 1
  · obtain ⟨r, hr⟩ := setw_of_fits (hfit c hl)
    refine ⟨_, "    " ++ r ++ tail, ?_, hpre, fun _ => ⟨r ++ tail, String.append_assoc _ _ _⟩⟩
    rw [hsplit]
    simp only [cell, alignedCell, if_pos hl, hr, String.append_assoc]
  · refine ⟨_, tail, ?_, hpre, fun h => absurd h hl⟩
    rw [hsplit]
    simp only [cell, alignedCell, if_neg hl]

/-- A line of cells that hold no newline holds none. -/
theorem newline_not_mem_alignedLine {widths : List Nat} {columns : Nat} {cells : List String}
    (h : ∀ x ∈ cells, '\n' ∉ x.toList) : '\n' ∉ (alignedLine widths columns cells).toList := by
  rw [alignedLine, mem_toList_join]
  rintro ⟨s, hs, hc⟩
  obtain ⟨i, -, rfl⟩ := List.mem_map.mp hs
  have hcell : '\n' ∉ (cells.getD i "").toList := by
    rw [List.getD_eq_getElem?_getD]
    cases hx : cells[i]? with
    | none => simp
    | some x => exact h x (List.getElem?_mem hx)
  unfold alignedCell setw at hc
  split_ifs at hc
  · simp only [String.toList, String.data_append, List.mem_append, List.mem_replicate] at hc
    rcases hc with hc | ⟨-, hc⟩
    · exact hcell hc
    · exact absurd hc (by decide)
  · exact hcell hc

/-- **The `aligned` formatter lines up its columns**: on a result that keeps the invariant and
whose headings and cells hold no newline, the text is one line for the headings when shown and
one for each row, and in each of these lines cell `c` starts at the sum of the first `c` widths
and, but in the last column, is followed by at least four spaces, provided every cell of the
rows has at most `76` bytes. -/
theorem SpacedFormatter.insert_aligned {rs : ResultSet} (hv : rs.Valid) (doShowHeadings : Bool)
    (hfit : ∀ row ∈ rs.data, ∀ cell ∈ row, cell.length ≤ 76)
    (hnl : ∀ cells ∈ rs.headers :: rs.data, ∀ x ∈ cells, '\n' ∉ x.toList) :
    SpacedFormatter.insert rs doShowHeadings =
      String.join (((if doShowHeadings then [rs.headers] else []) ++ rs.data).map fun cells =>
        alignedLine (getWidths rs doShowHeadings) rs.columns cells ++ "\n") ∧
    (∀ cells ∈ (if doShowHeadings then [rs.headers] else []) ++ rs.data,
      '\n' ∉ (alignedLine (getWidths rs doShowHeadings) rs.columns cells).toList) ∧
    ∀ cells ∈ (if doShowHeadings then [rs.headers] else []) ++ rs.data, ∀ c < rs.columns,
      ∃ pre rest, alignedLine (getWidths rs doShowHeadings) rs.columns cells =
          pre ++ cells.getD c "" ++ rest ∧
        pre.length = totalWidth ((getWidths rs doShowHeadings).take c) ∧
        (c < rs.columns - 1 → ∃ rest', rest = "    " ++ rest') := by
  have hw : rs.columns ≤ (getWidths rs doShowHeadings).length := by
    rw [length_getWidths, hv.columns_eq]
  have hlines : ∀ cells ∈ (if doShowHeadings then [rs.headers] else []) ++ rs.data,
      cells ∈ rs.headers :: rs.data := by
    intro cells hcells
    rcases List.mem_append.mp hcells with hh | hd
    · cases doShowHeadings
      · exact absurd hh (List.not_mem_nil _)
      · exact List.mem_singleton.mp hh ▸ List.mem_cons_self _ _
    · exact List.mem_cons_of_mem _ hd
  refine ⟨SpacedFormatter.insert_eq hv doShowHeadings,
    fun cells hcells => newline_not_mem_alignedLine (hnl cells (hlines cells hcells)),
    fun cells hcells c hc => ?_⟩
  refine alignedLine_aligned hw (fun i hi => ?_) hc
  have hb := le_getD_getWidths hv doShowHeadings (c := i) (by omega)
  rcases List.mem_append.mp hcells with hh | hd
  · cases doShowHeadings
    · exact absurd hh (List.not_mem_nil _)
    · rw [List.mem_singleton.mp hh]
      exact hb.1 rfl
  · obtain ⟨r, hr, rfl⟩ := List.getElem_of_mem hd
    have hcell : (rs.data[r].getD i "").length ≤ 76 := by
      rw [List.getD_eq_getElem?_getD]
      cases h : rs.data[r][i]? with
      | none => exact Nat.zero_le _
      | some x => exact hfit _ (List.getElem_mem hr) x (List.getElem?_mem h)
    have := hb.2 r (hv.rows_eq ▸ hr)
    rw [List.getD_eq_getElem _ _ hr] at this
    omega

/-- The two empty sessions of `localSessions`, with their headings, line up. -/
theorem SpacedFormatter.insert_aligned_localSessions :
    localSessions.Valid ∧ (∀ row ∈ localSessions.data, ∀ cell ∈ row, cell.length ≤ 76) ∧
    (∀ cells ∈ localSessions.headers :: localSessions.data, ∀ x ∈ cells, '\n' ∉ x.toList) ∧
    (SpacedFormatter.insert localSessions true =
      String.join (((if true then [localSessions.headers] else []) ++ localSessions.data).map
        fun cells => alignedLine (getWidths localSessions true) localSessions.columns cells ++ "\n") ∧
    (∀ cells ∈ (if true then [localSessions.headers] else []) ++ localSessions.data,
      '\n' ∉ (alignedLine (getWidths localSessions true) localSessions.columns cells).toList) ∧
    ∀ cells ∈ (if true then [localSessions.headers] else []) ++ localSessions.data,
      ∀ c < localSessions.columns,
      ∃ pre rest, alignedLine (getWidths localSessions true) localSessions.columns cells =
          pre ++ cells.getD c "" ++ rest ∧
        pre.length = totalWidth ((getWidths localSessions true).take c) ∧
        (c < localSessions.columns - 1 → ∃ rest', rest = "    " ++ rest')) :=
  have hv : localSessions.Valid := by decide
  have hfit : ∀ row ∈ localSessions.data, ∀ cell ∈ row, cell.length ≤ 76 := by decide
  have hnl : ∀ cells ∈ localSessions.headers :: localSessions.data, ∀ x ∈ cells,
      '\n' ∉ x.toList := by decide
  ⟨hv, hfit, hnl, SpacedFormatter.insert_aligned hv true hfit hnl⟩

end Ash
