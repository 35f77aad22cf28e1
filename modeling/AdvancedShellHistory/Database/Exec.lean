import AdvancedShellHistory.Database.Basic

/-!
# `Database::prepare_stmt` and `Database::exec`

`prepareStmt` is the `try_prepare` loop: an answer `SQLITE_BUSY` or `SQLITE_LOCKED` is
followed by `ash_sleep` and a new attempt while `--tries > 0`, and by `LOG(FATAL)` after
that; any other error is fatal at once.  `exec` prepares the query and then runs attempts
from `try_sql`: `stepLoop` is the `for` loop over one prepared statement, and on contention
`execLoop` tests `tries`, sleeps, prepares the same text again and jumps back with the header
and row buffers as they are.  `finalize` is the block after the loop.
-/

namespace Ash

/-- How the `for` loop of one attempt is left. -/
inductive Exit
  | finalize
  | retry
  | fatal
  deriving DecidableEq, Repr

/-- The branch of the `switch` of `Database::exec` that a code other than `SQLITE_ROW`
takes: `goto finalize`, the retry branch, or the fatal `default`. -/
def StepCode.exit : StepCode → Exit
  | .done | .constraint => .finalize
  | .busy | .locked => .retry
  | .other _ => .fatal

/-- `SQLITE_BUSY` or `SQLITE_LOCKED` from `sqlite3_errcode` after a failed prepare. -/
def Prepared.isContention : Prepared → Bool
  | .busy | .locked => true
  | _ => false

theorem Prepared.isContention_of_ne {a : Prepared} (hs : ∀ s, a = .stmt s → False)
    (ho : ∀ c, a = .other c → False) : a.isContention := by
  cases a with
  | stmt s => exact (hs s rfl).elim
  | other c => exact (ho c rfl).elim
  | _ => rfl

namespace Database

variable (config : Config) (query : String) (eng : Engine)

/-! ### `prepare_stmt` -/

/-- The `try_prepare` loop of `Database::prepare_stmt`, from the attempt that reads answer
`i` with `tries` before that attempt's `--tries`; it returns the statement and the index of
the next answer. -/
def prepareLoop : (i tries : Nat) → Run (Stmt × Nat)
  | i, tries =>
    match eng i, tries with
    | .stmt s, _ => ⟨.ret (s, i + 1), [.prepare query (.stmt s)]⟩
    | .other c, _ => ⟨.fatal, [.prepare query (.other c)]⟩
    | a, t + 2 => (prepareLoop (i + 1) (t + 1)).after [.prepare query a, .sleep]
    | a, _ => ⟨.fatal, [.prepare query a]⟩

/-- Induction over the attempts of `try_prepare`, one case for each way an attempt ends: a
statement, another error, a contention with a try left, and a contention on the last try. -/
theorem prepareLoop_induction {motive : Nat → Nat → Prop}
    (stmt : ∀ i t s, eng i = .stmt s → motive i t)
    (other : ∀ i t c, eng i = .other c → motive i t)
    (retry : ∀ i t, (eng i).isContention → motive (i + 1) (t + 1) → motive i (t + 2))
    (exhausted : ∀ i t, (eng i).isContention → t ≤ 1 → motive i t) (i t : Nat) :
    motive i t := by
  induction i, t using prepareLoop.induct "" eng with
  | case1 i t s h => exact stmt i t s h
  | case2 i t c h => exact other i t c h
  | case3 i t hs ho ih => exact retry i t (Prepared.isContention_of_ne hs ho) ih
  | case4 i t ht hs ho =>
    exact exhausted i t (Prepared.isContention_of_ne hs ho)
      (Nat.le_of_not_lt fun h => ht (t - 2) (by omega))

section PrepareLoop

variable {query eng} {i t : Nat}

theorem prepareLoop_of_stmt {s : Stmt} (h : eng i = .stmt s) :
    prepareLoop query eng i t = ⟨.ret (s, i + 1), [.prepare query (.stmt s)]⟩ := by
  rw [prepareLoop.eq_def]
  simp [h]

theorem prepareLoop_of_other {c : Int} (h : eng i = .other c) :
    prepareLoop query eng i t = ⟨.fatal, [.prepare query (.other c)]⟩ := by
  rw [prepareLoop.eq_def]
  simp [h]

theorem prepareLoop_of_retry (h : (eng i).isContention) :
    prepareLoop query eng i (t + 2) =
      (prepareLoop query eng (i + 1) (t + 1)).after [.prepare query (eng i), .sleep] := by
  rw [prepareLoop.eq_def]
  cases hi : eng i <;> simp_all [Prepared.isContention]

theorem prepareLoop_of_exhausted (h : (eng i).isContention) (ht : t ≤ 1) :
    prepareLoop query eng i t = ⟨.fatal, [.prepare query (eng i)]⟩ := by
  obtain rfl | rfl : t = 0 ∨ t = 1 := by omega
  all_goals
    rw [prepareLoop.eq_def]
    cases hi : eng i <;> simp_all [Prepared.isContention]

theorem prepareLoop_trace_calls (i t : Nat) :
    ∀ e ∈ (prepareLoop query eng i t).trace, (∃ a, e = .prepare query a) ∨ e = .sleep := by
  induction i, t using prepareLoop_induction eng with
  | stmt i t s h => simp [prepareLoop_of_stmt h]
  | other i t c h => simp [prepareLoop_of_other h]
  | retry i t hc ih =>
    rw [prepareLoop_of_retry hc]
    simp only [Run.after_trace, List.cons_append, List.singleton_append, List.mem_cons]
    rintro e (rfl | rfl | he)
    · exact .inl ⟨_, rfl⟩
    · exact .inr rfl
    · exact ih e he
  | exhausted i t hc ht => simp [prepareLoop_of_exhausted hc ht]

/-- A prepare that returns `s` ends with the call that prepared `s`. -/
theorem prepareLoop_ret_trace {s : Stmt} {j : Nat} (i t : Nat)
    (h : (prepareLoop query eng i t).out = .ret (s, j)) :
    ∃ pre, (prepareLoop query eng i t).trace = pre ++ [.prepare query (.stmt s)] := by
  induction i, t using prepareLoop_induction eng with
  | stmt i t s' h' =>
    rw [prepareLoop_of_stmt h'] at h ⊢
    cases h
    exact ⟨[], rfl⟩
  | other i t c h' => simp [prepareLoop_of_other h'] at h
  | retry i t hc ih =>
    rw [prepareLoop_of_retry hc] at h ⊢
    obtain ⟨pre, hpre⟩ := ih h
    exact ⟨.prepare query (eng i) :: .sleep :: pre, by simp [hpre]⟩
  | exhausted i t hc ht =>
    rw [prepareLoop_of_exhausted hc ht] at h
    cases h

end PrepareLoop

/-- `Database::prepare_stmt(query)` whose first attempt reads answer `i`. -/
def prepareStmt (i : Nat) : Run (Stmt × Nat) :=
  prepareLoop query eng i (config.maxRetries + 1)

/-! ### `exec` -/

/-- `sqlite3_column_text(ps, c)` streamed into a string: `""` for `NULL`. -/
def cell (r : Row) (c : Nat) : String :=
  (r.getD c none).getD ""

/-- The row `exec` pushes for a `SQLITE_ROW`: the texts of columns `0 .. columns - 1`. -/
def rowCells (columns : Nat) (r : Row) : List String :=
  (List.range columns).map (cell r)

@[simp] theorem length_rowCells (columns : Nat) (r : Row) :
    (rowCells columns r).length = columns := by
  simp [rowCells]

/-- The headers `exec` captures: `sqlite3_column_name(ps, c)` for `c < columns`. -/
def columnNames (columns : Nat) (names : List String) : List String :=
  (List.range columns).map (names.getD · "")

@[simp] theorem length_columnNames (columns : Nat) (names : List String) :
    (columnNames columns names).length = columns := by
  simp [columnNames]

/-- What one attempt leaves: the header and row buffers, the loop counter `rows`, how the
loop was left and the calls it made. -/
structure Attempt where
  headers : List String
  results : List (List String)
  rows : Nat
  exit : Exit
  trace : List Event
  deriving DecidableEq, Repr

/-- The `for` loop of `Database::exec` over the statement `s`: `answers` are the rows `s`
has still to give and `fetched` the rows fetched so far in this attempt, which is also the
loop counter `rows`. -/
def stepLoop (limit : Int) (columns : Nat) (s : Stmt) :
    (answers : List Row) → (fetched : Nat) → (headers : List String) →
      (results : List (List String)) → Attempt
  | answers, fetched, headers, results =>
    if (fetched : Int) < limit ∨ limit ≤ 0 then
      match answers with
      | [] => ⟨headers, results, fetched, s.last.exit, [.stepCode s.last]⟩
      | r :: rest =>
        let a := stepLoop limit columns s rest (fetched + 1)
          (if headers.isEmpty then columnNames columns s.names else headers)
          (results ++ [rowCells columns r])
        { a with trace := .row r :: a.trace }
    else ⟨headers, results, fetched, .finalize, []⟩

/-- The rows one attempt fetches from `answers` after `fetched` rows: all of them when
`limit ≤ 0`, otherwise those below the limit. -/
def fetchedRows (limit : Int) (fetched : Nat) (answers : List Row) : List Row :=
  if limit ≤ 0 then answers else answers.take (limit - fetched).toNat

/-- Whether the attempt steps past `answers` to the statement's last answer. -/
def stepsToLast (limit : Int) (fetched : Nat) (answers : List Row) : Prop :=
  limit ≤ 0 ∨ (fetched + answers.length : Int) < limit

instance (limit : Int) (fetched : Nat) (answers : List Row) :
    Decidable (stepsToLast limit fetched answers) :=
  inferInstanceAs (Decidable (_ ∨ _))

section StepLoop

variable {limit : Int} {fetched : Nat}

theorem fetchedRows_cons (h : (fetched : Int) < limit ∨ limit ≤ 0) (r : Row) (rest : List Row) :
    fetchedRows limit fetched (r :: rest) = r :: fetchedRows limit (fetched + 1) rest := by
  unfold fetchedRows
  split
  · rfl
  · obtain ⟨n, hn⟩ : ∃ n, (limit - fetched).toNat = n + 1 := ⟨(limit - fetched).toNat - 1, by omega⟩
    rw [hn, List.take_succ_cons, show (limit - ↑(fetched + 1)).toNat = n by omega]

theorem stepsToLast_cons (r : Row) (rest : List Row) :
    stepsToLast limit fetched (r :: rest) ↔ stepsToLast limit (fetched + 1) rest := by
  simp only [stepsToLast, List.length_cons]
  push_cast
  omega

theorem fetchedRows_of_not (h : ¬((fetched : Int) < limit ∨ limit ≤ 0)) (answers : List Row) :
    fetchedRows limit fetched answers = [] := by
  simp only [fetchedRows, if_neg (show ¬limit ≤ 0 by omega),
    show (limit - fetched).toNat = 0 by omega, List.take_zero]

theorem stepsToLast_of_not (h : ¬((fetched : Int) < limit ∨ limit ≤ 0)) (answers : List Row) :
    ¬stepsToLast limit fetched answers := by
  simp only [stepsToLast]
  omega

/-- **The loop of one attempt**, in closed form: it fetches `fetchedRows`, captures the
headers at the first of them when none are captured yet, and ends on the statement's last
answer exactly when it steps past its rows. -/
theorem stepLoop_eq (columns : Nat) (s : Stmt) (answers : List Row) (fetched : Nat)
    (headers : List String) (results : List (List String)) :
    stepLoop limit columns s answers fetched headers results =
      ⟨if fetchedRows limit fetched answers ≠ [] ∧ headers = [] then
          columnNames columns s.names else headers,
        results ++ (fetchedRows limit fetched answers).map (rowCells columns),
        fetched + (fetchedRows limit fetched answers).length,
        if stepsToLast limit fetched answers then s.last.exit else .finalize,
        (fetchedRows limit fetched answers).map .row ++
          if stepsToLast limit fetched answers then [.stepCode s.last] else []⟩ := by
  induction answers, fetched, headers, results using stepLoop.induct limit columns s with
  | case1 fetched headers results h =>
    have hl : stepsToLast limit fetched [] := by simp only [stepsToLast, List.length_nil]; omega
    unfold stepLoop
    simp [if_pos h, if_pos hl, fetchedRows]
  | case2 fetched headers results h r rest ih =>
    unfold stepLoop
    simp only [if_pos h, ih, fetchedRows_cons h, stepsToLast_cons]
    cases headers <;> simp <;> omega
  | case3 answers fetched headers results h =>
    unfold stepLoop
    simp [if_neg h, fetchedRows_of_not h, stepsToLast_of_not h]

variable {columns : Nat} {s : Stmt} {answers : List Row} {headers : List String}
  {results : List (List String)}

@[simp] theorem stepLoop_headers :
    (stepLoop limit columns s answers fetched headers results).headers =
      if fetchedRows limit fetched answers ≠ [] ∧ headers = [] then
        columnNames columns s.names else headers := by
  rw [stepLoop_eq]

@[simp] theorem stepLoop_results :
    (stepLoop limit columns s answers fetched headers results).results =
      results ++ (fetchedRows limit fetched answers).map (rowCells columns) := by
  rw [stepLoop_eq]

@[simp] theorem stepLoop_rows :
    (stepLoop limit columns s answers fetched headers results).rows =
      fetched + (fetchedRows limit fetched answers).length := by
  rw [stepLoop_eq]

@[simp] theorem stepLoop_exit :
    (stepLoop limit columns s answers fetched headers results).exit =
      if stepsToLast limit fetched answers then s.last.exit else .finalize := by
  rw [stepLoop_eq]

@[simp] theorem stepLoop_trace :
    (stepLoop limit columns s answers fetched headers results).trace =
      (fetchedRows limit fetched answers).map .row ++
        if stepsToLast limit fetched answers then [.stepCode s.last] else [] := by
  rw [stepLoop_eq]

/-- The calls of one attempt are its steps: no prepare call and no sleep. -/
theorem stepLoop_trace_steps :
    ∀ e ∈ (stepLoop limit columns s answers fetched headers results).trace,
      e.isPrepare = false ∧ e.isSleep = false := by
  simp only [stepLoop_trace, List.mem_append, List.mem_map]
  rintro e (⟨r, -, rfl⟩ | he)
  · exact ⟨rfl, rfl⟩
  · split at he <;> simp_all [Event.isPrepare, Event.isSleep]

end StepLoop

/-- The `finalize` block of `Database::exec`. -/
def finalize (reverse : Bool) (rows : Nat) (headers : List String)
    (results : List (List String)) : Option ResultSet :=
  let results := if reverse ∧ rows ≠ 0 then results.reverse else results
  if rows = 0 then none else some (ResultSet.make headers results)

/-- The attempts of `Database::exec` from `try_sql` on the statement `s`, with `tries` left;
the next prepare call reads answer `i`. -/
def execLoop (limit : Int) (reverse : Bool) (columns : Nat) :
    (tries : Nat) → (s : Stmt) → (i : Nat) → (headers : List String) →
      (results : List (List String)) → Run (Option ResultSet)
  | tries, s, i, headers, results =>
    let a := stepLoop limit columns s s.rows 0 headers results
    match a.exit with
    | .finalize => ⟨.ret (finalize reverse a.rows a.headers a.results), a.trace⟩
    | .fatal => ⟨.fatal, a.trace⟩
    | .retry =>
      match tries with
      | 0 => ⟨.fatal, a.trace⟩
      | t + 1 =>
        match prepareStmt config query eng i with
        | ⟨.fatal, tr⟩ => ⟨.fatal, a.trace ++ .sleep :: tr⟩
        | ⟨.ret (s', i'), tr⟩ =>
          (execLoop limit reverse columns t s' i' a.headers a.results).after
            (a.trace ++ .sleep :: tr)

/-- Induction over the attempts of `exec`, one case for each way an attempt ends: at
`finalize`, on a fatal code, on contention with no try left, on contention followed by a
failed prepare, and on contention followed by the prepare of the next attempt. -/
theorem execLoop_induction (limit : Int) (columns : Nat)
    {motive : Nat → Stmt → Nat → List String → List (List String) → Prop}
    (finalize : ∀ tries s i headers results,
      (stepLoop limit columns s s.rows 0 headers results).exit = .finalize →
        motive tries s i headers results)
    (fatal : ∀ tries s i headers results,
      (stepLoop limit columns s s.rows 0 headers results).exit = .fatal →
        motive tries s i headers results)
    (exhausted : ∀ s i headers results,
      (stepLoop limit columns s s.rows 0 headers results).exit = .retry →
        motive 0 s i headers results)
    (prepareFatal : ∀ s i headers results,
      (stepLoop limit columns s s.rows 0 headers results).exit = .retry → ∀ t tr,
        prepareStmt config query eng i = ⟨.fatal, tr⟩ → motive (t + 1) s i headers results)
    (retry : ∀ s i headers results,
      (stepLoop limit columns s s.rows 0 headers results).exit = .retry → ∀ t s' i' tr,
        prepareStmt config query eng i = ⟨.ret (s', i'), tr⟩ →
        motive t s' i' (stepLoop limit columns s s.rows 0 headers results).headers
          (stepLoop limit columns s s.rows 0 headers results).results →
        motive (t + 1) s i headers results)
    (tries s i headers results) : motive tries s i headers results :=
  execLoop.induct config query eng limit false columns motive finalize fatal exhausted
    prepareFatal retry tries s i headers results

section ExecLoop

variable {config query eng} {limit : Int} {reverse : Bool} {columns : Nat} {s : Stmt} {i : Nat}
  {headers : List String} {results : List (List String)}

theorem execLoop_of_finalize (tries : Nat)
    (h : (stepLoop limit columns s s.rows 0 headers results).exit = .finalize) :
    execLoop config query eng limit reverse columns tries s i headers results =
      ⟨.ret (finalize reverse (stepLoop limit columns s s.rows 0 headers results).rows
          (stepLoop limit columns s s.rows 0 headers results).headers
          (stepLoop limit columns s s.rows 0 headers results).results),
        (stepLoop limit columns s s.rows 0 headers results).trace⟩ := by
  rw [execLoop.eq_def]
  simp only [h]

theorem execLoop_of_fatal (tries : Nat)
    (h : (stepLoop limit columns s s.rows 0 headers results).exit = .fatal) :
    execLoop config query eng limit reverse columns tries s i headers results =
      ⟨.fatal, (stepLoop limit columns s s.rows 0 headers results).trace⟩ := by
  rw [execLoop.eq_def]
  simp only [h]

theorem execLoop_zero_of_retry
    (h : (stepLoop limit columns s s.rows 0 headers results).exit = .retry) :
    execLoop config query eng limit reverse columns 0 s i headers results =
      ⟨.fatal, (stepLoop limit columns s s.rows 0 headers results).trace⟩ := by
  rw [execLoop.eq_def]
  simp only [h]

theorem execLoop_succ_of_retry_fatal (t : Nat)
    (h : (stepLoop limit columns s s.rows 0 headers results).exit = .retry)
    {tr : List Event} (hp : prepareStmt config query eng i = ⟨.fatal, tr⟩) :
    execLoop config query eng limit reverse columns (t + 1) s i headers results =
      ⟨.fatal, (stepLoop limit columns s s.rows 0 headers results).trace ++ .sleep :: tr⟩ := by
  rw [execLoop.eq_def]
  simp only [h, hp]

theorem execLoop_succ_of_retry_ret (t : Nat) {s' : Stmt} {i' : Nat} {tr : List Event}
    (h : (stepLoop limit columns s s.rows 0 headers results).exit = .retry)
    (hp : prepareStmt config query eng i = ⟨.ret (s', i'), tr⟩) :
    execLoop config query eng limit reverse columns (t + 1) s i headers results =
      (execLoop config query eng limit reverse columns t s' i'
          (stepLoop limit columns s s.rows 0 headers results).headers
          (stepLoop limit columns s s.rows 0 headers results).results).after
        ((stepLoop limit columns s s.rows 0 headers results).trace ++ .sleep :: tr) := by
  rw [execLoop.eq_def]
  simp only [h, hp]

end ExecLoop

/-- `Database::exec(query, limit, reverse)`. -/
def exec (limit : Int) (reverse : Bool) : Run (Option ResultSet) :=
  match prepareStmt config query eng 0 with
  | ⟨.fatal, tr⟩ => ⟨.fatal, tr⟩
  | ⟨.ret (s, i), tr⟩ =>
    (execLoop config query eng limit reverse s.names.length (config.maxRetries + 1) s i [] []).after tr

end Database

end Ash
