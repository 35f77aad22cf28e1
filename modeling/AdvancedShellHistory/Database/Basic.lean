import Mathlib.Data.List.Basic

/-!
# The database layer's data: configuration, engine answers, runs and result sets

`Database::exec` and `Database::prepare_stmt` (`database.cpp`) drive one SQLite connection
through `sqlite3_prepare_v2` and `sqlite3_step`, retrying through `ash_sleep` while the file
is locked by another process.  The engine is taken as the sequence of its answers: an
`Engine` answers the `i`-th prepare call of a run, and a prepared `Stmt` carries its answers
to `sqlite3_step`, a finite run of `SQLITE_ROW`s followed by one other code.  Since the code
is deterministic, every engine, however it chooses its answers, is one such sequence.

A run returns its `Outcome` together with the `trace` of the calls it made (`Event`); the
statements about retries, bounds and effects on the store are statements about traces.
-/

namespace Ash

/-! ### Configuration -/

/-- `isspace` in the C locale. -/
def isspace (c : Char) : Bool :=
  c = ' ' ∨ c = '\t' ∨ c = '\n' ∨ c = '\x0b' ∨ c = '\x0c' ∨ c = '\r'

theorem digitChar_isDigit : ∀ k < 10, (Nat.digitChar k).isDigit := by decide

/-- The decimal text of a number is made of digits. -/
theorem toDigitsCore_isDigit : ∀ (f n : Nat) (ds : List Char), (∀ c ∈ ds, c.isDigit) →
    ∀ c ∈ Nat.toDigitsCore 10 f n ds, c.isDigit
  | 0, _, _, h => h
  | f + 1, n, ds, h => by
    have hd : ∀ c ∈ Nat.digitChar (n % 10) :: ds, c.isDigit :=
      List.forall_mem_cons.mpr ⟨digitChar_isDigit (n % 10) (Nat.mod_lt _ (by decide)), h⟩
    show ∀ c ∈ (if n / 10 = 0 then Nat.digitChar (n % 10) :: ds
      else Nat.toDigitsCore 10 f (n / 10) (Nat.digitChar (n % 10) :: ds)), c.isDigit
    split
    · exact hd
    · exact toDigitsCore_isDigit f _ _ hd

/-- The value of the decimal digits that `cs` starts with. -/
def digitsValue (cs : List Char) : Nat :=
  (cs.takeWhile Char.isDigit).foldl (fun n c => 10 * n + (c.toNat - '0'.toNat)) 0

/-- `strtol(s, NULL, 10)` for a 64-bit `long`: leading white space, an optional sign, then as
many decimal digits as there are, the value clamped to `[LONG_MIN, LONG_MAX]`. -/
def strtol (s : String) : Int :=
  let v : Int := match s.toList.dropWhile isspace with
    | '-' :: cs => -(digitsValue cs : Int)
    | '+' :: cs => digitsValue cs
    | cs => digitsValue cs
  max (-9223372036854775808) (min v 9223372036854775807)

/-- `atoi(s)`, which glibc computes as `(int) strtol(s, NULL, 10)`: the conversion to a 32-bit
`int` keeps the low 32 bits, read in two's complement. -/
def atoi (s : String) : Int := (strtol s).bmod 4294967296

/-- The `ASH_CFG_` environment that `Config::get_int`, `Config::get_string` and `Config::sets`
read: `env key` is the value of `ASH_CFG_<key>`, `none` when that variable is unset. -/
structure Config where
  env : String → Option String

/-- `Config::get_int(key, dv)`. -/
def Config.getInt (config : Config) (key : String) (dv : Int) : Int :=
  match config.env key with
  | some v => atoi v
  | none => dv

/-- `Config::sets(key, dv)`: whether the variable is the text `true`. -/
def Config.sets (config : Config) (key : String) (dv : Bool := false) : Bool :=
  match config.env key with
  | some v => v = "true"
  | none => dv

/-- `Config::get_string(key, dv)`. -/
def Config.getString (config : Config) (key : String) (dv : String) : String :=
  match config.env key with
  | some v => v
  | none => dv

/-- `max_retries` of `Database::prepare_stmt` and `Database::exec`: `DB_MAX_RETRIES` when
positive, otherwise `5`.  Both then count `tries = max_retries + 1`, taken here without the
`int` overflow of `INT_MAX + 1`. -/
def Config.maxRetries (config : Config) : Nat :=
  let v := config.getInt "DB_MAX_RETRIES" (-1)
  if v ≤ 0 then 5 else v.toNat

/-- The configuration with no `ASH_CFG_` variable set. -/
def Config.unset : Config := ⟨fun _ => none⟩

@[simp] theorem Config.maxRetries_unset : Config.unset.maxRetries = 5 := rfl

theorem Config.one_le_maxRetries (config : Config) : 1 ≤ config.maxRetries := by
  unfold Config.maxRetries
  dsimp only
  split <;> omega

/-! ### Engine answers -/

/-- A result code of `sqlite3_step` other than `SQLITE_ROW`, as the `switch` of
`Database::exec` tells them apart; `other` is every code it has no case for. -/
inductive StepCode
  | done
  | constraint
  | busy
  | locked
  | other (code : Int)
  deriving DecidableEq, Repr

/-- The column texts of one result row, `none` where `sqlite3_column_text` is `NULL`. -/
abbrev Row := List (Option String)

/-- A prepared statement as the engine runs it: its column names (`sqlite3_column_name`;
their number is `sqlite3_column_count`) and its answers to `sqlite3_step`: the rows of a run
of `SQLITE_ROW`s, then `last`.  `exec` never steps a statement again after an answer other
than `SQLITE_ROW`, so these are all the behaviours of a statement that does not answer
`SQLITE_ROW` forever. -/
structure Stmt where
  names : List String
  rows : List Row
  last : StepCode
  deriving DecidableEq, Repr

/-- One `sqlite3_prepare_v2` and the `sqlite3_errcode` after it: a statement, or the error
code (`other` for every code but `SQLITE_BUSY` and `SQLITE_LOCKED`). -/
inductive Prepared
  | stmt (s : Stmt)
  | busy
  | locked
  | other (code : Int)
  deriving DecidableEq, Repr

/-- The engine's answers to the prepare calls of one run, in order. -/
abbrev Engine := Nat → Prepared

/-! ### Runs -/

/-- A call to the engine or to `ash_sleep`, with the engine's answer. -/
inductive Event
  | prepare (sql : String) (answer : Prepared)
  | row (cells : Row)
  | stepCode (code : StepCode)
  | sleep
  deriving DecidableEq, Repr

/-- A call of `sqlite3_prepare_v2`. -/
def Event.isPrepare : Event → Bool
  | .prepare _ _ => true
  | _ => false

/-- A `SQLITE_ROW` answer. -/
def Event.isRow : Event → Bool
  | .row _ => true
  | _ => false

/-- A call of `ash_sleep`. -/
def Event.isSleep : Event → Bool
  | .sleep => true
  | _ => false

/-- How a run ends: it returns `a`, or `LOG(FATAL)` exits the process. -/
inductive Outcome (α : Type)
  | ret (a : α)
  | fatal
  deriving DecidableEq, Repr

/-- `f` applied to a returned value. -/
def Outcome.map {α β : Type} (f : α → β) : Outcome α → Outcome β
  | .ret a => .ret (f a)
  | .fatal => .fatal

theorem Outcome.map_eq_ret {α β : Type} {f : α → β} {o : Outcome α} {b : β} :
    o.map f = .ret b ↔ ∃ a, o = .ret a ∧ f a = b := by
  cases o <;> simp [Outcome.map]

/-- A run: its outcome and the calls it made, in order. -/
structure Run (α : Type) where
  out : Outcome α
  trace : List Event
  deriving DecidableEq, Repr

/-- `r` run after the calls `evs`. -/
def Run.after {α : Type} (evs : List Event) (r : Run α) : Run α :=
  ⟨r.out, evs ++ r.trace⟩

@[simp] theorem Run.after_out {α : Type} (evs : List Event) (r : Run α) :
    (r.after evs).out = r.out := rfl

@[simp] theorem Run.after_trace {α : Type} (evs : List Event) (r : Run α) :
    (r.after evs).trace = evs ++ r.trace := rfl

/-- The calls of a run after its last prepare call: the steps of its final attempt. -/
def lastAttempt (trace : List Event) : List Event :=
  (trace.reverse.takeWhile fun e => !e.isPrepare).reverse

theorem lastAttempt_of_forall {trace : List Event} (h : ∀ e ∈ trace, e.isPrepare = false) :
    lastAttempt trace = trace := by
  rw [lastAttempt, List.takeWhile_eq_self_iff.mpr (by simpa using h), List.reverse_reverse]

theorem lastAttempt_append_prepare (xs ys : List Event) {e : Event} (he : e.isPrepare) :
    lastAttempt (xs ++ e :: ys) = lastAttempt ys := by
  simp only [lastAttempt, List.reverse_append, List.reverse_cons, List.append_assoc,
    List.singleton_append, List.takeWhile_append]
  split
  · rename_i h
    rw [List.takeWhile_cons_of_neg (by simp [he]), List.append_nil,
      (List.takeWhile_prefix _).eq_of_length h]
  · rfl

/-! ### Result sets -/

/-- `ResultSet`: the column headers and the rows of a query, with the two counts its
constructor stores. -/
structure ResultSet where
  headers : List String
  data : List (List String)
  rows : Nat
  columns : Nat
  deriving DecidableEq, Repr

/-- The constructor `ResultSet::ResultSet(h, d)`. -/
def ResultSet.make (h : List String) (d : List (List String)) : ResultSet :=
  ⟨h, d, d.length, h.length⟩

/-- The invariant of a `ResultSet` that the formatters index by: `rows` is the number of rows,
`columns` the number of headers, and every row has one cell per column. -/
structure ResultSet.Valid (rs : ResultSet) : Prop where
  rows_eq : rs.rows = rs.data.length
  columns_eq : rs.columns = rs.headers.length
  row_length : ∀ row ∈ rs.data, row.length = rs.columns

instance : DecidablePred ResultSet.Valid := fun rs =>
  decidable_of_iff (rs.rows = rs.data.length ∧ rs.columns = rs.headers.length ∧
      ∀ row ∈ rs.data, row.length = rs.columns)
    ⟨fun ⟨h₁, h₂, h₃⟩ => ⟨h₁, h₂, h₃⟩, fun ⟨h₁, h₂, h₃⟩ => ⟨h₁, h₂, h₃⟩⟩

/-- The constructor keeps the invariant when every row has one cell per header. -/
theorem ResultSet.valid_make {h : List String} {d : List (List String)}
    (hd : ∀ row ∈ d, row.length = h.length) : (ResultSet.make h d).Valid :=
  ⟨rfl, rfl, hd⟩

/-! ### Lists -/

/-- Every element of `sep.intercalate ls` is one of `sep` or of some list of `ls`. -/
theorem forall_mem_intercalate {α : Type} {P : α → Prop} {sep : List α} (hs : ∀ x ∈ sep, P x)
    (ls : List (List α)) (h : ∀ l ∈ ls, ∀ x ∈ l, P x) : ∀ x ∈ sep.intercalate ls, P x := by
  induction ls with
  | nil => simp [List.intercalate]
  | cons l ls ih =>
    cases ls with
    | nil => simpa [List.intercalate] using h l (by simp)
    | cons l' ls =>
      intro x hx
      simp only [List.intercalate, List.intersperse_cons₂, List.flatten_cons,
        List.mem_append] at hx ih
      rcases hx with hx | hx | hx
      · exact h l (by simp) x hx
      · exact hs x hx
      · exact ih (fun m hm => h m (by simp [hm])) x hx

/-- A loop over the indices `r < l.size()` that reads `l[r]` is a map over `l`. -/
theorem map_range_getD {α β : Type} (f : α → β) (a : α) :
    ∀ l : List α, (List.range l.length).map (fun r => f (l.getD r a)) = l.map f
  | [] => rfl
  | x :: xs => by
    rw [List.length_cons, List.range_succ_eq_map, List.map_cons, List.map_map]
    simp only [Function.comp_def, List.getD_cons_succ, List.getD_cons_zero,
      map_range_getD f a xs, List.map_cons]

theorem foldl_append_eq_join (l : List String) :
    ∀ a : String, l.foldl (· ++ ·) a = a ++ String.join l := by
  induction l with
  | nil => exact fun a => (String.append_empty a).symm
  | cons s l ih =>
    intro a
    rw [List.foldl_cons, ih]
    show a ++ s ++ String.join l = a ++ l.foldl (· ++ ·) ("" ++ s)
    rw [ih, String.empty_append, String.append_assoc]

@[simp] theorem join_nil : String.join [] = "" := rfl

theorem join_cons (s : String) (l : List String) : String.join (s :: l) = s ++ String.join l :=
  foldl_append_eq_join l ("" ++ s)

theorem join_append (l₁ l₂ : List String) :
    String.join (l₁ ++ l₂) = String.join l₁ ++ String.join l₂ := by
  rw [String.join, List.foldl_append, ← String.join, foldl_append_eq_join]

theorem mem_toList_join {c : Char} : ∀ l : List String,
    c ∈ (String.join l).toList ↔ ∃ s ∈ l, c ∈ s.toList
  | [] => by simp
  | s :: l => by
    rw [join_cons, show (s ++ String.join l).toList = s.toList ++ (String.join l).toList from rfl,
      List.mem_append, mem_toList_join l]
    simp

end Ash
