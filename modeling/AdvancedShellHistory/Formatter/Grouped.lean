import AdvancedShellHistory.Database.Basic
import Mathlib.Data.List.GetD

/-!
# `get_widths` and `get_grouped_level_count`

The `auto` formatter, `GroupedFormatter`, prints the leftmost columns of a result as nested
groups, a value once for each run of equal values.  `get_widths` gives every column its width,
the gap of four spaces included, and `get_grouped_level_count` chooses how many columns to
group by simulating, column after column, the screen area of the output with one more column
grouped: `areas[k]` is the area with the first `k` columns grouped, `areas[0]` the area with
none.  A character of the model's strings is a byte of the `std::string`.

* The subtraction `width - widths[c]` never wraps around: before column `c` the simulated width
  is at least the sum of the widths from `c` on (`width_groupScan_ge`); every write to `areas`
  is below `widths.size()`, and the result is at most `columns - 1`
  (`getGroupedLevelCount_safe`), which is `0`, not below `columns`, for a result with no column
  (`getGroupedLevelCount_noColumns`).
* The result is the rightmost index whose area equals `min_area` (`rightmostMin_spec`), but
  `min_area` also takes the area with every column grouped, which no entry of `areas` holds.
  When that one is the least, no entry matches and no column is grouped, while the comment
  promises the rightmost minimum of `areas` (`getGroupedLevelCount_localSessions`).
-/

namespace Ash

/-! ### `get_widths` -/

/-- `widths[c] = max(widths[c], min(max_w, XX + size))` with `max_w = 80` and `XX = 4`. -/
def widen (widths : List Nat) (c size : Nat) : List Nat :=
  widths.set c (max (widths.getD c 0) (min 80 (4 + size)))

/-- The inner loop of `get_widths` over the cells `c < columns` of one row. -/
def widenRow (columns : Nat) (widths : List Nat) (row : List String) : List Nat :=
  (List.range columns).foldl (fun widths c => widen widths c (row.getD c "").length) widths

/-- `get_widths(rs, do_show_headings)`: four plus the size of each heading, or four alone,
then raised by every cell of the rows `r < rows`. -/
def getWidths (rs : ResultSet) (doShowHeadings : Bool) : List Nat :=
  (List.range rs.rows).foldl (fun widths r => widenRow rs.columns widths (rs.data.getD r []))
    (rs.headers.map fun h => if doShowHeadings then 4 + h.length else 4)

theorem length_widenRow (columns : Nat) (widths : List Nat) (row : List String) :
    (widenRow columns widths row).length = widths.length := by
  unfold widenRow
  induction List.range columns generalizing widths with
  | nil => rfl
  | cons c cs ih => rw [List.foldl_cons, ih, widen, List.length_set]

/-- There is one width for each heading. -/
theorem length_getWidths (rs : ResultSet) (doShowHeadings : Bool) :
    (getWidths rs doShowHeadings).length = rs.headers.length := by
  suffices h : ∀ (rows : List Nat) (widths : List Nat),
      (rows.foldl (fun widths r => widenRow rs.columns widths (rs.data.getD r [])) widths).length =
        widths.length by
    rw [getWidths, h, List.length_map]
  intro rows
  induction rows with
  | nil => exact fun _ => rfl
  | cons r rows ih => exact fun widths => by rw [List.foldl_cons, ih, length_widenRow]

theorem getD_widen (widths : List Nat) (c size i : Nat) :
    (widen widths c size).getD i 0 =
      if c = i ∧ c < widths.length then max (widths.getD c 0) (min 80 (4 + size))
      else widths.getD i 0 := by
  unfold widen
  by_cases h : c = i
  · subst h
    by_cases hc : c < widths.length
    · simp [List.getElem?_set, hc]
    · simp [List.getElem?_set, hc, List.getElem?_eq_none (Nat.le_of_not_lt hc)]
  · simp [List.getElem?_set, h]

theorem length_widen (widths : List Nat) (c size : Nat) :
    (widen widths c size).length = widths.length :=
  List.length_set _ _ _

section Monotone

/-! The loops of `get_widths` only raise widths: a fold of steps that raise every width keeps
every width it starts from, and a bound one step sets stays set. -/

variable {α : Type} (f : List Nat → α → List Nat)
  (hmono : ∀ w a i, w.getD i 0 ≤ (f w a).getD i 0) (hlen : ∀ w a, (f w a).length = w.length)

include hmono in
theorem getD_le_getD_foldl (l : List α) (w : List Nat) (i : Nat) :
    w.getD i 0 ≤ (l.foldl f w).getD i 0 := by
  induction l generalizing w with
  | nil => exact le_rfl
  | cons a l ih => exact (hmono w a i).trans (ih _)

include hmono hlen in
theorem le_getD_foldl {l : List α} {a : α} (ha : a ∈ l) {n i b : Nat}
    (hb : ∀ w : List Nat, w.length = n → b ≤ (f w a).getD i 0) :
    ∀ w : List Nat, w.length = n → b ≤ (l.foldl f w).getD i 0 := by
  induction l with
  | nil => exact absurd ha (List.not_mem_nil a)
  | cons a' l ih =>
    intro w hw
    rcases List.mem_cons.mp ha with rfl | ha
    · exact (hb w hw).trans (getD_le_getD_foldl f hmono l _ i)
    · exact ih ha _ ((hlen w a').trans hw)

end Monotone

theorem getD_le_getD_widen (widths : List Nat) (c size i : Nat) :
    widths.getD i 0 ≤ (widen widths c size).getD i 0 := by
  rw [getD_widen]
  split_ifs with h
  · rw [← h.1]
    exact le_max_left _ _
  · exact le_rfl

theorem getD_le_getD_widenRow (columns : Nat) (widths : List Nat) (row : List String) (i : Nat) :
    widths.getD i 0 ≤ (widenRow columns widths row).getD i 0 :=
  getD_le_getD_foldl _ (fun w c i => getD_le_getD_widen w c _ i) _ _ _

/-- After the row loop, a column's width is at least that row's cell capped at `max_w`. -/
theorem le_getD_widenRow {columns c : Nat} (hc : c < columns) (row : List String)
    {widths : List Nat} (hw : c < widths.length) :
    min 80 (4 + (row.getD c "").length) ≤ (widenRow columns widths row).getD c 0 :=
  le_getD_foldl _ (fun w c i => getD_le_getD_widen w c _ i) (fun w c => length_widen w c _)
    (List.mem_range.mpr hc) (fun w hw => by rw [getD_widen, if_pos ⟨rfl, hw ▸ ‹_›⟩]; omega)
    widths rfl

/-- **The widths cover what they measure**: on a result that keeps the invariant, the width of
a column is at least four plus its heading's size when headings are shown, and at least four
plus the size of each of its cells, capped at `max_w = 80`. -/
theorem le_getD_getWidths {rs : ResultSet} (hv : rs.Valid) (doShowHeadings : Bool) {c : Nat}
    (hc : c < rs.columns) :
    (doShowHeadings = true →
      4 + (rs.headers.getD c "").length ≤ (getWidths rs doShowHeadings).getD c 0) ∧
    ∀ r < rs.rows,
      min 80 (4 + ((rs.data.getD r []).getD c "").length) ≤ (getWidths rs doShowHeadings).getD c 0 := by
  have hch : c < rs.headers.length := hv.columns_eq ▸ hc
  let step := fun widths r => widenRow rs.columns widths (rs.data.getD r [])
  have hmono : ∀ w r i, w.getD i 0 ≤ (step w r).getD i 0 := fun w r i =>
    getD_le_getD_widenRow _ w _ i
  refine ⟨fun hd => ?_, fun r hr => ?_⟩
  · refine le_trans ?_ (getD_le_getD_foldl step hmono _ _ c)
    simp [hd, hch]
  · exact le_getD_foldl step hmono (fun w r => length_widenRow _ w _) (List.mem_range.mpr hr)
      (fun w hw => le_getD_widenRow hc _ (hw ▸ hch)) _ (List.length_map _ _)

/-! ### The simulation of `get_grouped_level_count` -/

/-- `for (i = 0; i != e; ++i) width += widths[i]`: the sum of the widths. -/
def totalWidth (widths : List Nat) : Nat :=
  widths.foldl (· + ·) 0

theorem foldl_add_eq (widths : List Nat) (a : Nat) :
    widths.foldl (· + ·) a = a + totalWidth widths := by
  induction widths generalizing a with
  | nil => rfl
  | cons w ws ih => rw [totalWidth, List.foldl_cons, List.foldl_cons, ih, ih (0 + w)]; omega

@[simp] theorem totalWidth_cons (w : Nat) (ws : List Nat) :
    totalWidth (w :: ws) = w + totalWidth ws := by
  rw [totalWidth, List.foldl_cons, foldl_add_eq, Nat.zero_add]

/-- The state of the column loop of `get_grouped_level_count`. -/
structure GroupScan where
  width : Nat
  length : Nat
  minArea : Nat
  areas : List Nat
  deriving DecidableEq, Repr

/-- The lines a column adds when it is grouped: one for each cell that differs from the cell
above it, the first compared with `""`. -/
def runStarts (prev : String) : List String → Nat
  | [] => 0
  | x :: xs => if prev ≠ x then runStarts x xs + 1 else runStarts prev xs

/-- The cells `rs -> data[r][c]` of column `c`, for `r < rows`. -/
def columnCells (rs : ResultSet) (c : Nat) : List String :=
  (List.range rs.rows).map fun r => (rs.data.getD r []).getD c ""

/-- Before the loop: `width` is the sum of the widths, `length` the number of rows, and every
area the area with no column grouped. -/
def GroupScan.init (rs : ResultSet) (widths : List Nat) : GroupScan :=
  ⟨totalWidth widths, rs.rows, rs.rows * totalWidth widths,
    List.replicate widths.length (totalWidth widths * rs.rows)⟩

/-- The pass of the loop for column `c`. -/
def groupStep (rs : ResultSet) (widths : List Nat) (st : GroupScan) (c : Nat) : GroupScan :=
  let length := st.length + runStarts "" (columnCells rs c)
  let width := max (st.width - widths.getD c 0) (widths.getD c 0) + 4 * (c + 1)
  ⟨width, length, min (length * width) st.minArea,
    if c < rs.columns - 1 then st.areas.set (c + 1) (width * length) else st.areas⟩

/-- The state before the pass for column `c`, after those for the columns `0 .. c - 1`. -/
def groupScan (rs : ResultSet) (widths : List Nat) (c : Nat) : GroupScan :=
  (List.range c).foldl (groupStep rs widths) (GroupScan.init rs widths)

/-- The last loop of `get_grouped_level_count`: for `c` from `n` down to `1`, `c - 1` at the
first `areas[c - 1] == min_area`; `0` when there is none. -/
def rightmostMin (areas : List Nat) (minArea : Nat) : Nat → Nat
  | 0 => 0
  | c + 1 => if areas.getD c 0 = minArea then c else rightmostMin areas minArea c

/-- `get_grouped_level_count(rs, widths)`. -/
def getGroupedLevelCount (rs : ResultSet) (widths : List Nat) : Nat :=
  rightmostMin (groupScan rs widths rs.columns).areas (groupScan rs widths rs.columns).minArea
    rs.columns

theorem groupScan_succ (rs : ResultSet) (widths : List Nat) (c : Nat) :
    groupScan rs widths (c + 1) = groupStep rs widths (groupScan rs widths c) c := by
  rw [groupScan, List.range_succ, List.foldl_append]
  rfl

/-! ### What the level count chooses -/

/-- The last loop returns the rightmost `c < n` whose area is `min_area`, and `0` when there is
none. -/
theorem rightmostMin_spec (areas : List Nat) (minArea : Nat) :
    ∀ n, (rightmostMin areas minArea n < n ∧
        areas.getD (rightmostMin areas minArea n) 0 = minArea ∧
        ∀ j, rightmostMin areas minArea n < j → j < n → areas.getD j 0 ≠ minArea) ∨
      (rightmostMin areas minArea n = 0 ∧ ∀ j < n, areas.getD j 0 ≠ minArea)
  | 0 => .inr ⟨rfl, fun _ h => absurd h (Nat.not_lt_zero _)⟩
  | n + 1 => by
    rw [rightmostMin]
    split_ifs with h
    · exact .inl ⟨Nat.lt_succ_self n, h, fun j hj hjn => absurd hjn (by omega)⟩
    · rcases rightmostMin_spec areas minArea n with ⟨hlt, heq, hgt⟩ | ⟨h0, hne⟩
      · refine .inl ⟨by omega, heq, fun j hj hjn => ?_⟩
        rcases Nat.lt_succ_iff_lt_or_eq.mp hjn with hjn | rfl
        · exact hgt j hj hjn
        · exact h
      · refine .inr ⟨h0, fun j hj => ?_⟩
        rcases Nat.lt_succ_iff_lt_or_eq.mp hj with hj | rfl
        · exact hne j hj
        · exact h

/-- Two columns that are null in every row, as `ssh_connection` and `sudo_user` are for two
local sessions. -/
def localSessions : ResultSet :=
  ResultSet.make ["ssh_connection", "sudo_user"] [["", ""], ["", ""]]

/-- On `localSessions` the widths are `18` and `13`, `areas` is `[62, 44]`, so the rightmost
minimum of `areas` is at `1`; grouping both columns gives `42`, which `min_area` takes and no
entry of `areas` holds, and the code returns `0`. -/
theorem getGroupedLevelCount_localSessions :
    localSessions.Valid ∧ getWidths localSessions true = [18, 13] ∧
      (groupScan localSessions [18, 13] localSessions.columns).areas = [62, 44] ∧
      (groupScan localSessions [18, 13] localSessions.columns).minArea = 42 ∧
      getGroupedLevelCount localSessions [18, 13] = 0 := by
  decide

/-! ### No wrap-around, writes and reads in range -/

/-- **The simulated width covers the columns still to come**: before the pass for column `c`
the width is at least the sum of the widths from `c` on. -/
theorem width_groupScan_ge (rs : ResultSet) (widths : List Nat) :
    ∀ c, totalWidth (widths.drop c) ≤ (groupScan rs widths c).width
  | 0 => le_rfl
  | c + 1 => by
    have ih := width_groupScan_ge rs widths c
    rw [groupScan_succ]
    simp only [groupStep]
    rcases Nat.lt_or_ge c widths.length with hc | hc
    · rw [List.drop_eq_getElem_cons hc, totalWidth_cons] at ih
      rw [List.getD_eq_getElem _ _ hc]
      omega
    · rw [List.drop_eq_nil_of_le (by omega)]
      exact Nat.zero_le _

/-- The width read at column `c` is at most the simulated width before its pass, so the
`size_t` subtraction `width - widths[c]` does not wrap around. -/
theorem getD_le_width_groupScan (rs : ResultSet) (widths : List Nat) {c : Nat}
    (hc : c < widths.length) : widths.getD c 0 ≤ (groupScan rs widths c).width := by
  have h := width_groupScan_ge rs widths c
  rw [List.drop_eq_getElem_cons hc, totalWidth_cons] at h
  rw [List.getD_eq_getElem _ _ hc]
  omega

theorem rightmostMin_le (areas : List Nat) (minArea n : Nat) :
    rightmostMin areas minArea n ≤ n - 1 := by
  rcases rightmostMin_spec areas minArea n with ⟨hlt, -⟩ | ⟨h0, -⟩ <;> omega

theorem getGroupedLevelCount_le (rs : ResultSet) (widths : List Nat) :
    getGroupedLevelCount rs widths ≤ rs.columns - 1 :=
  rightmostMin_le _ _ _

/-- **`get_grouped_level_count` stays in range** on a result that keeps the invariant, with the
widths `get_widths` computes for it: at each column `c` of the loop `widths[c]` exists and is at
most the simulated width, each write `areas[c + 1]` is below `widths.size()`, and the result is
at most `columns - 1`, so `GroupedFormatter::insert` reads `widths[c]` only for `c` below the
size of `widths`. -/
theorem getGroupedLevelCount_safe (rs : ResultSet) (hv : rs.Valid) (doShowHeadings : Bool) :
    (∀ c < rs.columns, c < (getWidths rs doShowHeadings).length ∧
      (getWidths rs doShowHeadings).getD c 0 ≤
        (groupScan rs (getWidths rs doShowHeadings) c).width) ∧
    (∀ c < rs.columns - 1, c + 1 < (getWidths rs doShowHeadings).length) ∧
    getGroupedLevelCount rs (getWidths rs doShowHeadings) ≤ rs.columns - 1 := by
  have hlen : (getWidths rs doShowHeadings).length = rs.columns := by
    rw [length_getWidths, hv.columns_eq]
  refine ⟨fun c hc => ⟨by omega, getD_le_width_groupScan rs _ (by omega)⟩,
    fun c hc => by omega, rightmostMin_le _ _ _⟩

theorem getGroupedLevelCount_safe_localSessions :
    localSessions.Valid ∧
    (∀ c < localSessions.columns, c < (getWidths localSessions true).length ∧
      (getWidths localSessions true).getD c 0 ≤
        (groupScan localSessions (getWidths localSessions true) c).width) ∧
    (∀ c < localSessions.columns - 1, c + 1 < (getWidths localSessions true).length) ∧
    getGroupedLevelCount localSessions (getWidths localSessions true) ≤
      localSessions.columns - 1 :=
  have hv : localSessions.Valid := by decide
  ⟨hv, getGroupedLevelCount_safe localSessions hv true⟩

/-- A result with one row and no column keeps the invariant, and its level count is `0`, which
is not below `columns`. -/
theorem getGroupedLevelCount_noColumns :
    (ResultSet.make [] [[]]).Valid ∧ (ResultSet.make [] [[]]).columns = 0 ∧
      getGroupedLevelCount (ResultSet.make [] [[]]) (getWidths (ResultSet.make [] [[]]) true) = 0 := by
  decide

end Ash
