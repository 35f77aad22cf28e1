import AdvancedShellHistory.Database.Results
import AdvancedShellHistory.Database.Sleep

/-!
# The retry ceilings of `prepare_stmt` and `exec`, and the bound on a run

`R = Config.maxRetries` is the effective `DB_MAX_RETRIES` of both loops, and both start from
`tries = R + 1`, but they count differently.  `prepare_stmt` decrements before testing
(`--tries > 0`) and gets through `k` contended attempts iff `k ≤ R` (`prepareStmt_contended`);
the step loop of `exec` tests `tries <= 0` before decrementing and gets through `k`
contended attempts iff `k ≤ R + 1` (`exec_contended`), so with `DB_MAX_RETRIES` unset it
returns after six `SQLITE_BUSY` answers (`exec_sixBusy_returns`).

Every contention in the step loop spends one of `exec`'s `R + 1` tries and starts a fresh
`prepare_stmt` of at most `R + 1` attempts, and `ash_sleep` makes at most `2 * retries`
calls, so a run of `exec` is bounded by a function of the configuration alone
(`exec_bounded`).
-/

namespace Ash.Database

variable {config : Config} {query : String} {eng : Engine}

/-! ### `prepare_stmt` -/

theorem prepareStmt_of_stmt {s : Stmt} {i : Nat} (h : eng i = .stmt s) :
    prepareStmt config query eng i = ⟨.ret (s, i + 1), [.prepare query (.stmt s)]⟩ :=
  prepareLoop_of_stmt h

/-- The attempts from `j` on, where attempt `j` runs statement `ss j`, every prepare succeeds
at once, the attempts before `k` end on contention and attempt `k` ends the loop. -/
theorem execLoop_contended {limit : Int} {reverse : Bool} {columns : Nat} (ss : Nat → Stmt)
    (k : Nat) (heng : ∀ j ≤ k, eng j = .stmt (ss j)) (hc : ∀ j < k, (ss j).last.exit = .retry)
    (hd : (ss k).last.exit = .finalize) (hreach : ∀ j ≤ k, stepsToLast limit 0 (ss j).rows)
    (n : Nat) :
    ∀ j tries headers results, j + n = k →
      ((execLoop config query eng limit reverse columns tries (ss j) (j + 1) headers
        results).out ≠ .fatal ↔ n ≤ tries) := by
  induction n with
  | zero =>
    intro j tries headers results hj
    obtain rfl : j = k := by omega
    rw [execLoop_of_finalize tries (by simp [hreach j le_rfl, hd])]
    simp
  | succ n ih =>
    intro j tries headers results hj
    have hr : (stepLoop limit columns (ss j) (ss j).rows 0 headers results).exit = .retry := by
      simp [hreach j (by omega), hc j (by omega)]
    match tries with
    | 0 => simp [execLoop_zero_of_retry hr]
    | t + 1 =>
      rw [execLoop_succ_of_retry_ret t hr (prepareStmt_of_stmt (heng (j + 1) (by omega))),
        Run.after_out, ih (j + 1) t _ _ (by omega)]
      omega

/-- **The step loop of `exec` gets through `k` contentions iff `k ≤ R + 1`**: when every
prepare succeeds at once, the attempts before the `k`-th end on `SQLITE_BUSY` or
`SQLITE_LOCKED` and attempt `k` ends the loop, `exec` returns iff `k ≤ R + 1`. -/
theorem exec_contended {limit : Int} {reverse : Bool} (ss : Nat → Stmt) (k : Nat)
    (heng : ∀ j ≤ k, eng j = .stmt (ss j)) (hc : ∀ j < k, (ss j).last.exit = .retry)
    (hd : (ss k).last.exit = .finalize) (hreach : ∀ j ≤ k, stepsToLast limit 0 (ss j).rows) :
    (exec config query eng limit reverse).out ≠ .fatal ↔ k ≤ config.maxRetries + 1 := by
  rw [exec, prepareStmt_of_stmt (heng 0 (Nat.zero_le k))]
  exact execLoop_contended ss k heng hc hd hreach k 0 _ _ _ (Nat.zero_add k)

/-- Six statements that answer `SQLITE_BUSY` at their first step, then one that answers
`SQLITE_DONE`. -/
def sixBusyEngine : Engine :=
  fun i => if i < 6 then .stmt ⟨[], [], .busy⟩ else .stmt ⟨[], [], .done⟩

/-- With `DB_MAX_RETRIES` unset (`R = 5`), `exec` returns after six contentions, null since no
attempt fetched a row. -/
theorem exec_sixBusy_returns (query : String) :
    (exec Config.unset query sixBusyEngine 0 false).out = .ret none := by
  have hne : (exec Config.unset query sixBusyEngine 0 false).out ≠ .fatal :=
    (@exec_contended Config.unset query sixBusyEngine 0 false
      (fun j => if j < 6 then ⟨[], [], .busy⟩ else ⟨[], [], .done⟩) 6
      (fun j _ => by simp only [sixBusyEngine]; split_ifs <;> rfl) (fun j hj => by simp [hj, StepCode.exit])
      rfl (fun j _ => .inl (Int.le_refl 0))).mpr (by decide)
  cases hr : (exec Config.unset query sixBusyEngine 0 false).out with
  | fatal => exact absurd hr hne
  | ret r => rw [show r = none from (exec_ret hr).1.mpr rfl]

theorem prepareLoop_counts (i t : Nat) :
    (prepareLoop query eng i t).trace.countP Event.isPrepare =
        (prepareLoop query eng i t).trace.countP Event.isSleep + 1 ∧
      (prepareLoop query eng i t).trace.countP Event.isSleep ≤ t - 1 := by
  induction i, t using prepareLoop_induction eng with
  | stmt i t s h => simp [prepareLoop_of_stmt h, Event.isPrepare, Event.isSleep]
  | other i t c h => simp [prepareLoop_of_other h, Event.isPrepare, Event.isSleep]
  | retry i t hc ih =>
    rw [prepareLoop_of_retry hc]
    simp [Event.isPrepare, Event.isSleep]
    omega
  | exhausted i t hc ht => simp [prepareLoop_of_exhausted hc ht, Event.isPrepare, Event.isSleep]

theorem execLoop_counts {limit : Int} {reverse : Bool} {columns : Nat} (tries : Nat) (s : Stmt)
    (i : Nat) (headers : List String) (results : List (List String)) :
    (execLoop config query eng limit reverse columns tries s i headers results).trace.countP
        Event.isPrepare ≤ tries * (config.maxRetries + 1) ∧
      (execLoop config query eng limit reverse columns tries s i headers results).trace.countP
        Event.isSleep ≤ tries * (config.maxRetries + 1) := by
  have hstep : ∀ (s : Stmt) (headers : List String) (results : List (List String)),
      (stepLoop limit columns s s.rows 0 headers results).trace.countP Event.isPrepare = 0 ∧
        (stepLoop limit columns s s.rows 0 headers results).trace.countP Event.isSleep = 0 :=
    fun s headers results => ⟨List.countP_eq_zero.mpr fun e he => by
      simp [(stepLoop_trace_steps e he).1], List.countP_eq_zero.mpr fun e he => by
      simp [(stepLoop_trace_steps e he).2]⟩
  induction tries, s, i, headers, results using
    execLoop_induction config query eng limit columns with
  | finalize tries s i headers results h =>
    rw [execLoop_of_finalize tries h]
    simp only [(hstep _ _ _).1, (hstep _ _ _).2, Nat.zero_le, and_self]
  | fatal tries s i headers results h =>
    rw [execLoop_of_fatal tries h]
    simp only [(hstep _ _ _).1, (hstep _ _ _).2, Nat.zero_le, and_self]
  | exhausted s i headers results h =>
    rw [execLoop_zero_of_retry h]
    simp only [(hstep _ _ _).1, (hstep _ _ _).2, Nat.zero_le, and_self]
  | prepareFatal s i headers results h t tr hp =>
    have hp' := @prepareLoop_counts query eng i (config.maxRetries + 1)
    rw [← prepareStmt, hp] at hp'
    rw [execLoop_succ_of_retry_fatal t h hp]
    simp only [List.countP_append, List.countP_cons, (hstep _ _ _).1, (hstep _ _ _).2,
      Event.isPrepare, Event.isSleep, Bool.false_eq_true, ↓reduceIte, Nat.succ_mul] at hp' ⊢
    omega
  | retry s i headers results h t s' i' tr hp ih =>
    have hp' := @prepareLoop_counts query eng i (config.maxRetries + 1)
    rw [← prepareStmt, hp] at hp'
    rw [execLoop_succ_of_retry_ret t h hp]
    simp only [Run.after_trace, List.countP_append, List.countP_cons, (hstep _ _ _).1,
      (hstep _ _ _).2, Event.isPrepare, Event.isSleep, Bool.false_eq_true, ↓reduceIte,
      Nat.succ_mul] at hp' ⊢
    omega

/-- The bound on a run of `exec`: it reads only the configuration. -/
def execBound (config : Config) : Nat :=
  (config.maxRetries + 1) * (config.maxRetries + 1) + config.maxRetries + 1 +
    config.sleepRetries * 2

/-- **A run of `exec` is bounded by the configuration**: whatever the engine and the clock
answer, it makes at most `execBound config` prepare attempts and calls of `ash_sleep`, and
each of those calls makes at most `execBound config` calls of `clock_nanosleep`. -/
theorem exec_bounded (config : Config) (query : String) (eng : Engine) (limit : Int)
    (reverse : Bool) :
    (exec config query eng limit reverse).trace.countP Event.isPrepare ≤ execBound config ∧
      (exec config query eng limit reverse).trace.countP Event.isSleep ≤ execBound config ∧
      ∀ (rnd : Nat) (remaining : Timespec) (clock : Nat → ClockAnswer),
        (ashSleep config rnd remaining clock).calls ≤ execBound config := by
  have hp := @prepareLoop_counts query eng 0 (config.maxRetries + 1)
  rw [← prepareStmt] at hp
  have hs := fun rnd remaining clock => ashSleep_calls_le config rnd remaining clock
  unfold exec execBound
  split
  · rename_i tr h
    simp only [h] at hp
    dsimp only
    exact ⟨by omega, by omega, fun rnd remaining clock => by have := hs rnd remaining clock; omega⟩
  · rename_i s i tr h
    simp only [h] at hp
    have hl := @execLoop_counts config query eng limit reverse s.names.length
      (config.maxRetries + 1) s i [] []
    simp only [Run.after_trace, List.countP_append, Nat.succ_mul] at hl ⊢
    exact ⟨by omega, by omega, fun rnd remaining clock => by have := hs rnd remaining clock; omega⟩

end Ash.Database
