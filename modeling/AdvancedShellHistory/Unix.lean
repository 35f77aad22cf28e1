import AdvancedShellHistory.Database.DBObject
import AdvancedShellHistory.Database.Quote
import Mathlib.Data.Nat.Digits

/-!
# The host's data as the entities store it: `Util::to_string` and `unix.cpp`

`Session` and `Command` fill their value maps from the functions of `unix.cpp`, each of which
returns SQL text: `DBObject::quote` of a string the system gave, `null`, or the decimal text
`Util::to_string` writes.  The system's answers (`getenv`, `ttyname`, `getifaddrs`, `/proc`)
are the fields of a `Host`.

The main results say that each of these texts is one literal (`IsLit`): `isLit_quote`,
`isLit_toString`, and for the one function that edits a quoted text, `isLit_tty`.
-/

namespace Ash

/-! ### Library functions -/

/-- `Util::to_string(int)`: the decimal text a `stringstream` writes. -/
def Util.toString (value : Int) : String := ToString.toString value

/-- `s.find(needle, i)` over the characters from `i` on: where `needle` first occurs, `none`
for `npos`. -/
def findFrom (needle : List Char) : List Char → Nat → Option Nat
  | [], i => if needle.isEmpty then some i else none
  | c :: cs, i => if needle.isPrefixOf (c :: cs) then some i else findFrom needle cs (i + 1)

/-- `s.find(needle)`. -/
def strFind (s needle : String) : Option Nat := findFrom needle.toList s.toList 0

/-- `s.substr(pos)`. -/
def substrFrom (s : String) (pos : Nat) : String := ⟨s.toList.drop pos⟩

theorem le_of_findFrom {needle : List Char} :
    ∀ {cs : List Char} {i j : Nat}, findFrom needle cs i = some j → i ≤ j
  | [], i, j, h => by
    simp only [findFrom, Option.ite_none_right_eq_some, Option.some.injEq] at h
    exact h.2.le
  | c :: cs, i, j, h => by
    simp only [findFrom] at h
    split_ifs at h
    · exact (Option.some.inj h).le
    · exact Nat.le_of_succ_le (le_of_findFrom h)

theorem prefix_of_findFrom {needle : List Char} :
    ∀ {cs : List Char} {i j : Nat}, findFrom needle cs i = some j → needle <+: cs.drop (j - i)
  | [], i, j, h => by
    simp only [findFrom, Option.ite_none_right_eq_some, Option.some.injEq] at h
    simp_all
  | c :: cs, i, j, h => by
    simp only [findFrom] at h
    split_ifs at h with hp
    · cases h
      simpa using List.isPrefixOf_iff_prefix.mp hp
    · have hij := le_of_findFrom h
      rw [show j - i = (j - (i + 1)) + 1 by omega, List.drop_succ_cons]
      exact prefix_of_findFrom h

/-! ### What the host tells -/

/-- An address family of `getifaddrs`, with the text `inet_ntop` gives for the address. -/
inductive Family
  | inet (addr : String)
  | inet6 (addr : String)
  | other

/-- An entry of `getifaddrs`: its `ifa_name` and `ifa_addr` (`none` for a null pointer). -/
structure Ifaddr where
  name : Option String
  addr : Option Family

/-- What the system answers the functions of `unix.cpp`. -/
structure Host where
  /-- `getenv`. -/
  env : String → Option String
  /-- `time(0)`, as the `int` that `Util::to_string` receives. -/
  time : Int
  /-- `strftime("%Z")`. -/
  timeZone : String
  /-- `shell_pid()`, the parent of `getppid()`. -/
  shellPid : Int
  /-- `get_ppid(shell_pid())`. -/
  shellPpid : Int
  uid : Int
  euid : Int
  /-- `ttyname(0)`; `none` is the null pointer. -/
  ttyName : Option String
  /-- `getlogin()`. -/
  login : Option String
  /-- The buffer `gethostname` fills. -/
  hostName : String
  /-- `get_current_dir_name()`. -/
  cwd : Option String
  /-- Whether `/proc` exists. -/
  procfs : Bool
  /-- The second token of `/proc/<shell pid>/stat`. -/
  shellStat : String
  /-- What `ps ho command <shell pid>` gives: its first line, or `null`. -/
  psCommand : String
  /-- `getifaddrs`; `none` when it fails. -/
  ifaddrs : Option (List Ifaddr)
  /-- What the address buffer of `unix::host_ip` holds before anything is written to it. -/
  ipBuffer : String

/-- The configuration is read from the same environment: `ASH_CFG_<key>`. -/
def Host.config (h : Host) : Config := ⟨fun key => h.env ("ASH_CFG_" ++ key)⟩

namespace unix

/-- `unix::env(name)`. -/
def env (h : Host) (name : String) : String := DBObject.quoteCStr (h.env name)

/-- `unix::env_int(name)`; `atoi` of a null pointer is undefined, so an unset variable gives
`none`. -/
def envInt (h : Host) (name : String) : Option String :=
  (h.env name).map fun v => Util.toString (atoi v)

/-- `unix::cwd()`. -/
def cwd (h : Host) : String := DBObject.quoteCStr h.cwd

/-- `unix::time()`. -/
def time (h : Host) : String := Util.toString h.time

/-- `unix::time_zone()`. -/
def timeZone (h : Host) : String := DBObject.quote h.timeZone

/-- `unix::ppid()`: the `stringstream` text of `get_ppid(shell_pid())`. -/
def ppid (h : Host) : String := toString h.shellPpid

/-- `unix::pid()`. -/
def pid (h : Host) : String := Util.toString h.shellPid

/-- `unix::uid()`. -/
def uid (h : Host) : String := Util.toString h.uid

/-- `unix::euid()`. -/
def euid (h : Host) : String := Util.toString h.euid

/-- `unix::login_name()`. -/
def loginName (h : Host) : String := DBObject.quoteCStr h.login

/-- `unix::host_name()`. -/
def hostName (h : Host) : String := DBObject.quote h.hostName

/-- `unix::tty()`: the quoted `ttyname(0)`, with `/dev/` cut off after the opening quote. -/
def tty (h : Host) : String :=
  let tty := DBObject.quoteCStr h.ttyName
  if strFind tty "/dev/" = some 1 then "'" ++ substrFrom tty 6 else tty

/-- The shell name of `/proc`, without the parentheses around it. -/
def stripParens (sh : String) : String :=
  if sh.toList.head? = some '(' ∧ sh.toList.getLast? = some ')' then
    ⟨(sh.toList.drop 1).take (sh.length - 2)⟩
  else sh

/-- `unix::shell()`. -/
def shell (h : Host) : String :=
  if h.procfs then DBObject.quote (stripParens h.shellStat)
  else if h.psCommand = "null" then h.psCommand else DBObject.quote h.psCommand

/-- The loop of `unix::host_ip()` from an entry on, with the count `ips`, the text written so
far and `buffer`: an entry with no address, a skipped loopback or another family is passed
over; an `AF_INET` or `AF_INET6` entry writes `buffer`, which holds its address only when
`LOG_IPV4`, resp. `LOG_IPV6`, is set. -/
def hostIpLoop (config : Config) : List Ifaddr → Nat → String → String → Nat × String
  | [], ips, text, _ => (ips, text)
  | i :: is, ips, text, buffer =>
    let write (buffer : String) :=
      hostIpLoop config is (ips + 1) (if 1 < ips + 1 then text ++ " " ++ buffer else text ++ buffer)
        buffer
    match i.addr with
    | none => hostIpLoop config is ips text buffer
    | some fam =>
      if config.sets "SKIP_LOOPBACK" ∧ i.name = some "lo" then hostIpLoop config is ips text buffer
      else
        match fam with
        | .inet a => write (if config.sets "LOG_IPV4" then a else buffer)
        | .inet6 a => write (if config.sets "LOG_IPV6" then a else buffer)
        | .other => hostIpLoop config is ips text buffer

/-- `unix::host_ip()`. -/
def hostIp (h : Host) : String :=
  match h.ifaddrs with
  | none => "null"
  | some addrs =>
    let r := hostIpLoop h.config addrs 0 "" h.ipBuffer
    if r.1 = 0 then "null" else DBObject.quote r.2

end unix

/-! ### Decimal text -/

theorem toDigitsCore_ne_nil : ∀ (f n : Nat) (ds : List Char), Nat.toDigitsCore 10 (f + 1) n ds ≠ []
  | 0, n, ds => by rw [Nat.toDigitsCore.eq_2]; split <;> simp [Nat.toDigitsCore]
  | f + 1, n, ds => by
    rw [Nat.toDigitsCore.eq_2]
    split
    · simp
    · exact toDigitsCore_ne_nil f _ _

theorem repr_wf (n : Nat) : (Sql.Literal.int false (Nat.repr n)).WF :=
  ⟨toDigitsCore_ne_nil n n [], toDigitsCore_isDigit (n + 1) n [] (by simp)⟩

/-- **Decimal text is a literal**: what `Util::to_string` writes for any `int`. -/
theorem isLit_toString (v : Int) : IsLit (Util.toString v) := by
  cases v with
  | ofNat n => exact ⟨.int false (Nat.repr n), repr_wf n, String.empty_append (Nat.repr n)⟩
  | negSucc n => exact ⟨.int true (Nat.repr (n + 1)), repr_wf (n + 1), rfl⟩

/-! ### Quoted text -/

theorem quoteChar_eq_escapeBody (c : Char) : quoteChar c = Sql.escapeBody ([c].filter keeps) := by
  by_cases hk : keeps c
  · by_cases hq : c = '\''
    · subst hq
      rfl
    · simp [Sql.escapeBody, hk, hq, quoteChar_of_keeps hq hk]
  · simp [Sql.escapeBody, hk, quoteChar_of_not_keeps hk]

theorem flatMap_quoteChar (s : List Char) :
    s.flatMap quoteChar = Sql.escapeBody (s.filter keeps) := by
  induction s with
  | nil => rfl
  | cons c s ih =>
    rw [List.flatMap_cons, ih, quoteChar_eq_escapeBody]
    by_cases hk : keeps c <;> simp [hk, Sql.escapeBody, List.filter_cons]

/-- `quote` of a non-empty string is the string literal of the bytes it keeps. -/
theorem quote_eq_render {s : String} (hs : s.toList ≠ []) :
    DBObject.quote s = (Sql.Literal.str ⟨s.toList.filter keeps⟩).render := by
  rw [DBObject.quote, if_neg (by simpa [List.isEmpty_iff] using hs), flatMap_quoteChar]
  rfl

theorem isLit_null : IsLit "null" := ⟨.null, trivial, rfl⟩

/-- **Quoted text is a literal**: `null` or one string literal. -/
theorem isLit_quote (s : String) : IsLit (DBObject.quote s) := by
  by_cases hs : s.toList = []
  · rw [DBObject.quote, if_pos (by rw [hs]; rfl)]
    exact isLit_null
  · exact ⟨.str ⟨s.toList.filter keeps⟩, trivial, (quote_eq_render hs).symm⟩

theorem isLit_quoteCStr (s : Option String) : IsLit (DBObject.quoteCStr s) := by
  cases s with
  | none => exact isLit_null
  | some s => exact isLit_quote s

/-! ### `unix::tty` -/

theorem escapeBody_append {p : List Char} (hp : ∀ c ∈ p, c ≠ '\'') (s : List Char) :
    Sql.escapeBody (p ++ s) = p ++ Sql.escapeBody s := by
  induction p with
  | nil => rfl
  | cons c p ih =>
    rw [List.forall_mem_cons] at hp
    simp only [Sql.escapeBody, List.cons_append, List.flatMap_cons, hp.1, if_false] at ih ⊢
    rw [ih hp.2]
    rfl

/-- A text of no quote at the start of a string literal's body and closing quote is the start
of the string. -/
theorem eq_append_of_prefix_escapeBody {p : List Char} (hp : ∀ c ∈ p, c ≠ '\'') :
    ∀ {s : List Char}, p <+: Sql.escapeBody s ++ ['\''] → ∃ s', s = p ++ s' := by
  induction p with
  | nil => exact fun {s} _ => ⟨s, rfl⟩
  | cons c p ih =>
    rw [List.forall_mem_cons] at hp
    intro s h
    cases s with
    | nil => exact absurd (List.cons_prefix_cons.mp h).1 hp.1
    | cons c' s =>
      by_cases hq : c' = '\''
      · subst hq
        exact absurd (List.cons_prefix_cons.mp h).1 hp.1
      · simp only [Sql.escapeBody, List.flatMap_cons, hq, if_false, List.singleton_append,
          List.cons_append, List.cons_prefix_cons] at h
        obtain ⟨s', rfl⟩ := ih hp.2 h.2
        exact ⟨s', by rw [h.1]; rfl⟩

theorem isLit_cut {q : String} {f : List Char} (hq : q.toList = '\'' :: (Sql.escapeBody f ++ ['\'']))
    (hf : strFind q "/dev/" = some 1) : IsLit ("'" ++ substrFrom q 6) := by
  have hp : ['/', 'd', 'e', 'v', '/'] <+: Sql.escapeBody f ++ ['\''] := by
    have h := prefix_of_findFrom hf
    rw [hq] at h
    simpa using h
  obtain ⟨s', rfl⟩ := eq_append_of_prefix_escapeBody (by decide) hp
  refine ⟨.str ⟨s'⟩, trivial, ?_⟩
  rw [escapeBody_append (by decide)] at hq
  simp only [Sql.Literal.render, substrFrom, hq]
  rfl

/-- **`unix::tty` writes one literal**: cutting `/dev/` off a quoted name leaves a string
literal. -/
theorem isLit_tty (h : Host) : IsLit (unix.tty h) := by
  unfold unix.tty
  dsimp only
  split
  · rename_i hf
    have hnull : strFind "null" "/dev/" ≠ some 1 := by decide
    cases ht : h.ttyName with
    | none => rw [ht] at hf; exact absurd hf hnull
    | some t =>
      rw [ht] at hf
      simp only [DBObject.quoteCStr] at hf ⊢
      by_cases hs : t.toList = []
      · rw [DBObject.quote, if_pos (by rw [hs]; rfl)] at hf
        exact absurd hf hnull
      · rw [quote_eq_render hs] at hf ⊢
        exact isLit_cut rfl hf
  · exact isLit_quoteCStr _

theorem isLit_hostIp (h : Host) : IsLit (unix.hostIp h) := by
  unfold unix.hostIp
  split
  · exact isLit_null
  · dsimp only
    split
    · exact isLit_null
    · exact isLit_quote _

theorem isLit_shell (h : Host) : IsLit (unix.shell h) := by
  unfold unix.shell
  split_ifs with hp hn
  · exact isLit_quote _
  · rw [hn]
    exact isLit_null
  · exact isLit_quote _

end Ash
