import AdvancedShellHistory.Database.Basic
import Mathlib.Data.List.Forall2

/-!
# `flags.cpp`: command-line flags

Each `DEFINE_...` line is a static `Flag` whose constructor registers it: it is appended to
`instances()`, its short and long names are mapped to it by `safe_add` when they are printable,
its `struct option` is appended to `options()`, its short name, with a `:` when it takes a value,
to the `getopt` option string `codes()`, and `longest_long_name` grows to its long name, with
`=VALUE` when it takes a value.  `Flag::parse` hands `argv` to `getopt_long`, whose answers are
taken here as given, and sets each flag an answer names; `Flag::show_help` prints one line per
flag.  The order of the static constructors of two files is not fixed, so every result below
holds for every order.

* **Registration**: `safe_add` reports a name already taken by printing both flags, the new one
  by `Flag::insert` before `longest_long_name` has grown to it.  A constructor therefore ends
  the program through `std::length_error` exactly when one of its names is taken and its long
  name is more than two characters longer than every one before it (`add_eq_none_iff`).  With
  printable, distinct names, registration ends and writes nothing (`registry_clean`).
* **Help**: every constructor keeps `Registry.WellFormed`, in which every flag's long name fits
  `longest_long_name` (`wellFormed_registry`), so `show_help` prints every line, with every
  description at column `10 + longest_long_name`, whatever the flags and their values; the
  line of a flag is one line of the text when neither its texts nor its string value hold a
  newline (`showHelp_aligned`).
* **Parsing**: `Flag::parse` ends the process only with status `0` or `1`, never through an
  exception (`parse_ending`).  On an option it does not know, `getopt_long` writes its own
  diagnostic to `cerr` before `Flag::parse` prints the help there.
-/

namespace Ash

/-- How a process ended: `exit(code)` or a return from `main`; `abort`, an exception having
reached `std::terminate`; or `crash`, a read through a null pointer, as `atoi(NULL)` does. -/
inductive Ending
  | exit (code : Nat)
  | abort
  | crash
  deriving DecidableEq, Repr

namespace Flag

/-! ### Flags -/

/-- The kinds of flag with their defaults: `IntFlag`, `StringFlag`, whose null default stands for
the empty string, and `BoolFlag`, with whether it takes a value (`DEFINE_bool`) or not
(`DEFINE_flag`). -/
inductive Kind
  | int (dv : Int)
  | string (dv : Option String)
  | bool (dv : Bool) (hasArg : Bool)
  deriving DecidableEq, Repr

/-- `has_arg`: int and string flags take a value. -/
def Kind.hasArg : Kind → Bool
  | .int _ => true
  | .string _ => true
  | .bool _ hasArg => hasArg

/-- A `DEFINE_...` line: the long name, the short name (`'\x00'` for none), the description and
the kind; `help` marks `FLAGS_OPT_help`, the flag `flags.cpp` defines itself. -/
structure Def where
  longName : String
  shortName : Char
  description : String
  kind : Kind
  help : Bool
  deriving DecidableEq, Repr

/-- `DEFINE_flag(help, 0, "Display flags for this command.")` of `flags.cpp`. -/
def helpDef : Def := ⟨"help", '\x00', "Display flags for this command.", .bool false false, true⟩

/-- The value of a flag's `FLAGS_` variable. -/
inductive Value
  | int (v : Int)
  | string (v : String)
  | bool (v : Bool)
  deriving DecidableEq, Repr

/-- What the kind's constructor stores: `*value = dv`, or `set(dv)` for a string flag. -/
def Kind.default : Kind → Value
  | .int dv => .int dv
  | .string dv => .string (dv.getD "")
  | .bool dv _ => .bool dv

/-- `isgraph(c)` in the C locale: a printable character other than the space. -/
def isgraph (c : Char) : Bool := 0x21 ≤ c.toNat && c.toNat ≤ 0x7e

/-- `all_isgraph(input)`. -/
def allIsgraph (input : String) : Bool := input.toList.all isgraph

/-- `short_name && isgraph(short_name)`: the short name is mapped and goes into `codes()`. -/
def Def.shortOk (f : Def) : Bool := f.shortName ≠ '\x00' && isgraph f.shortName

/-- The size of `temp`, the long name with `=VALUE` when the flag takes a value. -/
def Def.nameWidth (f : Def) : Nat := f.longName.length + if f.kind.hasArg then 6 else 0

/-! ### Printing a flag -/

/-- `std::string(n, ' ')` for the `int` `n`: `none` when `n` is negative, which the conversion to
`size_t` makes too large, so the constructor throws `std::length_error`. -/
def spaces (n : Int) : Option String :=
  if 0 ≤ n then some ⟨List.replicate n.toNat ' '⟩ else none

/-- `Flag::insert(out)`: the short name or four spaces, `  --` and the long name, `=VALUE` for a
flag that takes a value, `padding = 2 + longest_long_name - size(long_name)` spaces, less six
with `=VALUE`, then the description; `none` when the padding is negative. -/
def Def.insert (longest : Nat) (f : Def) : Option String :=
  let short := if f.shortName ≠ '\x00' then "  -" ++ f.shortName.toString else "    "
  let padding : Int := 2 + longest - f.longName.length - if f.kind.hasArg then 6 else 0
  (spaces padding).map fun pad =>
    short ++ "  --" ++ f.longName ++ (if f.kind.hasArg then "=VALUE" else "") ++ pad ++
      f.description

/-- What the kind's `insert` adds after `Flag::insert`: the current value as `Default`. -/
def defaultText : Kind → Value → String
  | .int _, .int v => if v ≠ 0 then "  Default: " ++ toString v else ""
  | .string _, .string v => if v ≠ "" then "  Default: '" ++ v ++ "'" else ""
  | .bool _ hasArg, .bool v => if hasArg then "  Default: " ++ (if v then "true" else "false") else ""
  | _, _ => ""

/-- `out << *flag` for a constructed flag holding `v`. -/
def line (longest : Nat) (f : Def) (v : Value) : Option String :=
  (f.insert longest).map (· ++ defaultText f.kind v)

theorem Def.insert_eq_none_iff (longest : Nat) (f : Def) :
    f.insert longest = none ↔ longest + 2 < f.nameWidth := by
  unfold Def.insert spaces Def.nameWidth
  split_ifs <;> simp <;> omega

/-- **A flag prints in line**: when its long name, with `=VALUE`, is at most two characters
longer than `longest_long_name`, `Flag::insert` prints, and the description starts at column
`10 + longest_long_name`. -/
theorem Def.insert_of_le {longest : Nat} {f : Def} (hf : f.nameWidth ≤ longest + 2) :
    ∃ pre, f.insert longest = some (pre ++ f.description) ∧ pre.length = 10 + longest := by
  unfold Def.nameWidth at hf
  have hpad : (0 : Int) ≤ 2 + longest - f.longName.length - if f.kind.hasArg then 6 else 0 := by
    split_ifs at hf ⊢ <;> omega
  refine ⟨(if f.shortName ≠ '\x00' then "  -" ++ f.shortName.toString else "    ") ++ "  --" ++
      f.longName ++ (if f.kind.hasArg then "=VALUE" else "") ++
      ⟨List.replicate (2 + longest - f.longName.length - if f.kind.hasArg then 6 else 0 : Int).toNat
        ' '⟩, ?_, ?_⟩
  · simp only [Def.insert, spaces, if_pos hpad, Option.map_some']
  · have hshort : (if f.shortName ≠ '\x00' then "  -" ++ f.shortName.toString else "    ").length
        = 4 := by split_ifs <;> rfl
    have hvalue : (if f.kind.hasArg then "=VALUE" else "").length =
        if f.kind.hasArg then 6 else 0 := by split_ifs <;> rfl
    have := Int.toNat_of_nonneg hpad
    simp only [String.length_append, String.length_mk, List.length_replicate, hshort, hvalue,
      show "  --".length = 4 from rfl]
    split_ifs at hf this ⊢ <;> omega

/-- The decimal text of an `int` holds no newline. -/
theorem newline_not_mem_toString_int (v : Int) : '\n' ∉ (toString v).toList := by
  have hd : ∀ n : Nat, '\n' ∉ (Nat.repr n).toList := fun n h =>
    absurd (toDigitsCore_isDigit (n + 1) n [] (by simp) '\n' h) (by decide)
  cases v with
  | ofNat n => exact hd n
  | negSucc n =>
    intro h
    rw [show toString (Int.negSucc n) = "-" ++ Nat.repr (n + 1) from rfl] at h
    simp only [String.toList, String.data_append, List.mem_append] at h
    exact h.elim (absurd · (by decide)) (hd _)

/-- The `Default` text holds no newline unless a string value does. -/
theorem newline_not_mem_defaultText (k : Kind) {v : Value}
    (hv : ∀ t, v = .string t → '\n' ∉ t.toList) : '\n' ∉ (defaultText k v).toList := by
  intro h
  match k, v with
  | .int _, .int n =>
    simp only [defaultText] at h
    split_ifs at h
    · simp only [String.toList, String.data_append, List.mem_append] at h
      exact h.elim (absurd · (by decide)) (newline_not_mem_toString_int n)
    · exact List.not_mem_nil _ h
  | .string _, .string t =>
    simp only [defaultText] at h
    split_ifs at h
    · simp only [String.toList, String.data_append, List.mem_append] at h
      exact h.elim (·.elim (absurd · (by decide)) (hv t rfl)) (absurd · (by decide))
    · exact List.not_mem_nil _ h
  | .bool _ hasArg, .bool b => cases hasArg <;> cases b <;> simp [defaultText] at h
  | .int _, .string _ | .int _, .bool _ | .string _, .int _ | .string _, .bool _
  | .bool _ _, .int _ | .bool _ _, .string _ => exact List.not_mem_nil _ h

theorem newline_not_mem_spaces {n : Int} {pad : String} (h : spaces n = some pad) :
    '\n' ∉ pad.toList := by
  unfold spaces at h
  split_ifs at h
  cases h
  simp [String.toList, List.mem_replicate]

/-- **A flag prints on one line** when neither of its names, its description nor its string
value holds a newline. -/
theorem newline_not_mem_line {longest : Nat} {f : Def} {v : Value} {s : String}
    (hs : line longest f v = some s) (hshort : f.shortName ≠ '\n')
    (hlong : '\n' ∉ f.longName.toList) (hdesc : '\n' ∉ f.description.toList)
    (hv : ∀ t, v = .string t → '\n' ∉ t.toList) : '\n' ∉ s.toList := by
  simp only [line, Def.insert, Option.map_map, Option.map_eq_some', Function.comp] at hs
  obtain ⟨pad, hpad, rfl⟩ := hs
  have hs' : '\n' ∉
      (if f.shortName ≠ '\x00' then "  -" ++ f.shortName.toString else "    ").toList := by
    split_ifs
    · simp [String.toList, Char.toString, Ne.symm hshort]
    · decide
  have hval : '\n' ∉ (if f.kind.hasArg then "=VALUE" else "").toList := by split_ifs <;> decide
  have hp := newline_not_mem_spaces hpad
  simp only [String.toList, String.data_append, List.mem_append, not_or] at hs' hval hp hlong hdesc ⊢
  exact ⟨⟨⟨⟨⟨⟨hs', by decide⟩, hlong⟩, hval⟩, hp⟩, hdesc⟩, newline_not_mem_defaultText _ hv⟩

/-! ### The registry -/

/-- The static state of `Flag`: `instances()` with the value of each flag's variable,
`short_names()` and `long_names()` as maps to positions in `instances()`, `options()` as
`(name, has_arg, val)`, `codes()`, `longest_long_name`, and what the constructors wrote to
`cerr`. -/
structure Registry where
  instances : List Def
  values : List Value
  shortNames : Char → Option Nat
  longNames : String → Option Nat
  options : List (String × Bool × Char)
  codes : String
  longestLongName : Nat
  err : String

/-- No flag registered yet. -/
def Registry.empty : Registry := ⟨[], [], fun _ => none, fun _ => none, [], "", 0, ""⟩

/-- `known[key] = value`: the map with `key` sent to position `i`. -/
def assign {α : Type} [DecidableEq α] (known : α → Option Nat) (key : α) (i : Nat) :
    α → Option Nat :=
  fun k => if k = key then some i else known k

theorem assign_eq_some {α : Type} [DecidableEq α] {known : α → Option Nat} {key k : α}
    {i j : Nat} (h : assign known key i k = some j) : j = i ∨ known k = some j := by
  unfold assign at h
  split_ifs at h
  · exact .inl (Option.some.inj h).symm
  · exact .inr h

/-- `out << *known[key]`: the flag at position `i`, as its kind prints it. -/
def Registry.known (r : Registry) (i : Nat) : Option String :=
  match r.instances[i]?, r.values[i]? with
  | some g, some v => line r.longestLongName g v
  | _, _ => none

/-- `safe_add(known, key, this)` for the flag `f` under construction, given what `known` maps
`key` to: nothing for a new key; for a taken one, the error printing both flags, `*this` by
`Flag::insert` alone, its kind's constructor not having run yet; `none` when a print throws. -/
def Registry.safeAdd (r : Registry) (known : Option Nat) (key : String) (f : Def) :
    Option String :=
  match known with
  | none => some ""
  | some i => (r.known i).bind fun old => (f.insert r.longestLongName).map fun new =>
    "ERROR: ambiguous flags defined: duplicate key: " ++ "'" ++ key ++ "'\n" ++ old ++ "\n" ++
      new ++ "\n"

/-- What `Flag::Flag` writes to `cerr` for `f`: the errors of `safe_add` and the warnings about
names that are not printable; `none` when a print throws. -/
def Registry.warnings (r : Registry) (f : Def) : Option String :=
  let short := if f.shortOk then r.safeAdd (r.shortNames f.shortName) f.shortName.toString f
    else some ""
  let long := if allIsgraph f.longName then r.safeAdd (r.longNames f.longName) f.longName f
    else some ("WARNING: Flag long name '" ++ f.longName ++ "' is not legal and will be ignored.\n")
  let illegal := if f.shortName ≠ '\x00' ∧ !isgraph f.shortName then
      "WARNING: Flag short name character '" ++ f.shortName.toString ++
        "' is not legal and will be ignored.\n"
    else ""
  short.bind fun s => long.map fun l => s ++ l ++ illegal

/-- The registry after `Flag::Flag` and the kind's constructor have registered `f` as
`instances()[i]`, having written `e` to `cerr`; `safe_add` maps a taken name to the new flag. -/
def Registry.push (r : Registry) (f : Def) (e : String) : Registry :=
  let i := r.instances.length
  { instances := r.instances ++ [f]
    values := r.values ++ [f.kind.default]
    shortNames := if f.shortOk then assign r.shortNames f.shortName i else r.shortNames
    longNames := if allIsgraph f.longName then assign r.longNames f.longName i else r.longNames
    options := r.options ++ [(f.longName, f.kind.hasArg, f.shortName)]
    codes := if f.shortOk then r.codes ++ f.shortName.toString ++ if f.kind.hasArg then ":" else ""
      else r.codes
    longestLongName := if f.nameWidth > r.longestLongName then f.nameWidth else r.longestLongName
    err := r.err ++ e }

/-- The static constructor of `f`: `none` when it throws, which during static initialisation
ends the program through `std::terminate`. -/
def Registry.add (r : Registry) (f : Def) : Option Registry := (r.warnings f).map (r.push f)

/-- The registry after the static constructors of `defs`, in that order. -/
def registry (defs : List Def) : Option Registry := defs.foldlM Registry.add Registry.empty

/-! ### The registry invariant -/

/-- One value per flag, every flag's `temp` fits `longest_long_name`, and the name maps point
at registered flags. -/
structure Registry.WellFormed (r : Registry) : Prop where
  values_length : r.values.length = r.instances.length
  nameWidth_le : ∀ f ∈ r.instances, f.nameWidth ≤ r.longestLongName
  shortNames_lt : ∀ c i, r.shortNames c = some i → i < r.instances.length
  longNames_lt : ∀ n i, r.longNames n = some i → i < r.instances.length

theorem Registry.wellFormed_empty : Registry.empty.WellFormed :=
  ⟨rfl, fun _ h => absurd h (List.not_mem_nil _), fun _ _ => nofun, fun _ _ => nofun⟩

theorem Registry.WellFormed.push {r : Registry} (h : r.WellFormed) (f : Def) (e : String) :
    (r.push f e).WellFormed where
  values_length := by simp [Registry.push, h.values_length]
  nameWidth_le g hg := by
    simp only [Registry.push, List.mem_append, List.mem_singleton] at hg ⊢
    rcases hg with hg | rfl
    · have := h.nameWidth_le g hg
      split_ifs <;> omega
    · split_ifs <;> omega
  shortNames_lt c i hc := by
    simp only [Registry.push, List.length_append, List.length_singleton] at hc ⊢
    split_ifs at hc
    · rcases assign_eq_some hc with rfl | hc
      · omega
      · exact Nat.lt_succ_of_lt (h.shortNames_lt c i hc)
    · exact Nat.lt_succ_of_lt (h.shortNames_lt c i hc)
  longNames_lt n i hn := by
    simp only [Registry.push, List.length_append, List.length_singleton] at hn ⊢
    split_ifs at hn
    · rcases assign_eq_some hn with rfl | hn
      · omega
      · exact Nat.lt_succ_of_lt (h.longNames_lt n i hn)
    · exact Nat.lt_succ_of_lt (h.longNames_lt n i hn)

theorem Registry.WellFormed.add {r r' : Registry} (h : r.WellFormed) {f : Def}
    (hr : r.add f = some r') : r'.WellFormed := by
  obtain ⟨e, -, rfl⟩ := Option.map_eq_some'.mp hr
  exact h.push f e

theorem wellFormed_foldlM_add :
    ∀ (defs : List Def) {r r' : Registry}, r.WellFormed →
      defs.foldlM Registry.add r = some r' → r'.WellFormed
  | [], _, _, h, hr => by cases hr; exact h
  | f :: fs, _, _, h, hr => by
    simp only [List.foldlM_cons, Option.bind_eq_bind, Option.bind_eq_some] at hr
    obtain ⟨r₁, h₁, hr⟩ := hr
    exact wellFormed_foldlM_add fs (h.add h₁) hr

/-- Whatever the flags and the order of their constructors, a registry they build is
well formed. -/
theorem wellFormed_registry {defs : List Def} {r : Registry} (hr : registry defs = some r) :
    r.WellFormed :=
  wellFormed_foldlM_add defs Registry.wellFormed_empty hr

/-! ### When a constructor ends the program -/

theorem Registry.known_isSome {r : Registry} (h : r.WellFormed) {i : Nat}
    (hi : i < r.instances.length) : (r.known i).isSome := by
  have hv : i < r.values.length := h.values_length ▸ hi
  obtain ⟨pre, hpre, -⟩ :=
    Def.insert_of_le (Nat.le_add_right_of_le (h.nameWidth_le _ (List.getElem_mem hi)))
  simp [Registry.known, List.getElem?_eq_getElem hi, List.getElem?_eq_getElem hv, line, hpre]

theorem Registry.safeAdd_eq_none_iff {r : Registry} (h : r.WellFormed) {known : Option Nat}
    (hk : ∀ i, known = some i → i < r.instances.length) (key : String) (f : Def) :
    r.safeAdd known key f = none ↔ known.isSome ∧ r.longestLongName + 2 < f.nameWidth := by
  cases known with
  | none => simp [Registry.safeAdd]
  | some i =>
    obtain ⟨s, hs⟩ := Option.isSome_iff_exists.mp (r.known_isSome h (hk i rfl))
    simp [Registry.safeAdd, hs, Def.insert_eq_none_iff]

theorem bind_map_eq_none {α β γ : Type} {A : Option α} {B : Option β} (g : α → β → γ) :
    (A.bind fun a => B.map (g a)) = none ↔ A = none ∨ B = none := by
  cases A <;> cases B <;> simp

theorem Registry.warnings_eq_none_iff {r : Registry} (h : r.WellFormed) (f : Def) :
    r.warnings f = none ↔
      (f.shortOk ∧ (r.shortNames f.shortName).isSome ∨
        allIsgraph f.longName ∧ (r.longNames f.longName).isSome) ∧
      r.longestLongName + 2 < f.nameWidth := by
  have hs := r.safeAdd_eq_none_iff h (h.shortNames_lt f.shortName) f.shortName.toString f
  have hl := r.safeAdd_eq_none_iff h (h.longNames_lt f.longName) f.longName f
  rw [Registry.warnings, bind_map_eq_none]
  cases f.shortOk <;> cases allIsgraph f.longName <;> simp [hs, hl, or_and_right]

/-- **A taken name can end the program**: on a well-formed registry, the static constructor of
`f` ends the program, its report of a taken name throwing `std::length_error`, exactly when its
short or long name is taken and its long name, with `=VALUE`, is more than two characters
longer than `longest_long_name`. -/
theorem add_eq_none_iff {r : Registry} (h : r.WellFormed) (f : Def) :
    r.add f = none ↔
      (f.shortOk ∧ (r.shortNames f.shortName).isSome ∨
        allIsgraph f.longName ∧ (r.longNames f.longName).isSome) ∧
      r.longestLongName + 2 < f.nameWidth := by
  rw [Registry.add, Option.map_eq_none']
  exact r.warnings_eq_none_iff h f

/-- Registering `helpDef` and then an int flag named `help` ends the program. -/
theorem add_eq_none_iff_help :
    Registry.empty.WellFormed ∧
      ((Registry.empty.push helpDef "").add ⟨"help", '\x00', "", .int 0, false⟩ = none ↔
        ((⟨"help", '\x00', "", .int 0, false⟩ : Def).shortOk ∧
            ((Registry.empty.push helpDef "").shortNames '\x00').isSome ∨
          allIsgraph "help" ∧ ((Registry.empty.push helpDef "").longNames "help").isSome) ∧
        (Registry.empty.push helpDef "").longestLongName + 2 <
          (⟨"help", '\x00', "", .int 0, false⟩ : Def).nameWidth) :=
  ⟨Registry.wellFormed_empty,
    add_eq_none_iff (Registry.wellFormed_empty.push helpDef "") ⟨"help", '\x00', "", .int 0, false⟩⟩

/-- `basename(path)` of `<libgen.h>`: the last component, trailing slashes dropped; `.` for the
empty path and `/` for a path of slashes. -/
def basename (path : String) : String :=
  let stripped := (path.toList.reverse.dropWhile (· = '/')).reverse
  if path = "" then "."
  else if stripped = [] then "/"
  else ⟨(stripped.reverse.takeWhile (· ≠ '/')).reverse⟩

/-- `Flag::show_help(out)` while the flags hold `values`; `none` when a line throws. -/
def showHelp (progName : String) (r : Registry) (values : List Value) : Option String :=
  let head := "\nUsage: " ++ basename progName
  if r.instances = [] then some head
  else ((r.instances.zip values).mapM fun fv => line r.longestLongName fv.1 fv.2).map
    fun ls => head ++ " [options]" ++ String.join (ls.map ("\n" ++ ·)) ++ "\n" ++ "\n"

/-- A line of the help: the description of `fv.1` at column `10 + longest`, then its value. -/
def AlignedLine (longest : Nat) (fv : Def × Value) (s : String) : Prop :=
  ∃ pre, s = pre ++ fv.1.description ++ defaultText fv.1.kind fv.2 ∧ pre.length = 10 + longest

theorem mapM_line_aligned {longest : Nat} :
    ∀ l : List (Def × Value), (∀ fv ∈ l, fv.1.nameWidth ≤ longest) →
      ∃ ls, (l.mapM fun fv => line longest fv.1 fv.2) = some ls ∧
        List.Forall₂ (fun fv s => AlignedLine longest fv s ∧ line longest fv.1 fv.2 = some s) l ls
  | [], _ => ⟨[], rfl, .nil⟩
  | fv :: l, hl => by
    obtain ⟨pre, hpre, hlen⟩ :=
      Def.insert_of_le (Nat.le_add_right_of_le (hl fv (List.mem_cons_self _ _)))
    obtain ⟨ls, hls, hall⟩ := mapM_line_aligned l fun g hg => hl g (List.mem_cons_of_mem _ hg)
    have hline : line longest fv.1 fv.2 =
        some (pre ++ fv.1.description ++ defaultText fv.1.kind fv.2) := by
      rw [line, hpre]
      rfl
    refine ⟨_ :: ls, ?_, .cons ⟨⟨pre, rfl, hlen⟩, hline⟩ hall⟩
    rw [List.mapM_cons, hline, hls]
    rfl

/-- **The help lines line up**: on a well-formed registry whose flags hold no newline in their
names and descriptions, and whatever the values of the flags as long as no string value holds
one, `show_help` prints one line per flag, in the order of registration, and never throws; in
every line the description starts at column `10 + longest_long_name`. -/
theorem showHelp_aligned {r : Registry} (h : r.WellFormed) (progName : String)
    (values : List Value) (hne : r.instances ≠ [])
    (hflags : ∀ f ∈ r.instances, f.shortName ≠ '\n' ∧ '\n' ∉ f.longName.toList ∧
      '\n' ∉ f.description.toList)
    (hvalues : ∀ t, .string t ∈ values → '\n' ∉ t.toList) :
    ∃ ls, showHelp progName r values = some ("\nUsage: " ++ basename progName ++ " [options]" ++
        String.join (ls.map ("\n" ++ ·)) ++ "\n" ++ "\n") ∧
      List.Forall₂ (fun fv l => AlignedLine r.longestLongName fv l ∧ '\n' ∉ l.toList)
        (r.instances.zip values) ls := by
  obtain ⟨ls, hls, hall⟩ := @mapM_line_aligned r.longestLongName
    (r.instances.zip values) fun fv hfv => h.nameWidth_le _ (List.of_mem_zip hfv).1
  have hone : ∀ fv ∈ r.instances.zip values, (fv.1.shortName ≠ '\n' ∧ '\n' ∉ fv.1.longName.toList ∧
      '\n' ∉ fv.1.description.toList) ∧ ∀ t, fv.2 = .string t → '\n' ∉ t.toList :=
    fun fv hfv => ⟨hflags _ (List.of_mem_zip hfv).1,
      fun t ht => hvalues t (ht ▸ (List.of_mem_zip hfv).2)⟩
  refine ⟨ls, by simp only [showHelp, if_neg hne, hls, Option.map_some'], ?_⟩
  exact ((List.forall₂_and_left _ _).mpr ⟨hone, hall⟩).imp
    fun _ _ ⟨⟨⟨hs, hl, hd⟩, hv⟩, ha, hline⟩ => ⟨ha, newline_not_mem_line hline hs hl hd hv⟩

/-- The help of a registry holding only `helpDef`. -/
theorem showHelp_aligned_help :
    (Registry.empty.push helpDef "").WellFormed ∧ (Registry.empty.push helpDef "").instances ≠ [] ∧
    (∀ f ∈ (Registry.empty.push helpDef "").instances, f.shortName ≠ '\n' ∧
      '\n' ∉ f.longName.toList ∧ '\n' ∉ f.description.toList) ∧
    (∀ t, .string t ∈ [Value.bool false] → '\n' ∉ t.toList) ∧
    ∃ ls, showHelp "_ash_log" (Registry.empty.push helpDef "") [.bool false] =
        some ("\nUsage: " ++ basename "_ash_log" ++ " [options]" ++
          String.join (ls.map ("\n" ++ ·)) ++ "\n" ++ "\n") ∧
      List.Forall₂ (fun fv l => AlignedLine (Registry.empty.push helpDef "").longestLongName fv l ∧
          '\n' ∉ l.toList)
        ((Registry.empty.push helpDef "").instances.zip [.bool false]) ls :=
  have h := Registry.wellFormed_empty.push helpDef ""
  have hflags : ∀ f ∈ (Registry.empty.push helpDef "").instances, f.shortName ≠ '\n' ∧
      '\n' ∉ f.longName.toList ∧ '\n' ∉ f.description.toList := by decide
  have hvalues : ∀ t, .string t ∈ [Value.bool false] → '\n' ∉ t.toList := fun _ ht => by
    simp at ht
  ⟨h, List.cons_ne_nil _ _, hflags, hvalues,
    showHelp_aligned h "_ash_log" [.bool false] (List.cons_ne_nil _ _) hflags hvalues⟩

theorem showHelp_isSome {r : Registry} (h : r.WellFormed) (progName : String)
    (values : List Value) : (showHelp progName r values).isSome := by
  obtain ⟨ls, hls, -⟩ := @mapM_line_aligned r.longestLongName
    (r.instances.zip values) fun fv hfv => h.nameWidth_le _ (List.of_mem_zip hfv).1
  by_cases hne : r.instances = []
  · simp [showHelp, hne]
  · simp only [showHelp, if_neg hne, hls, Option.map_some', Option.isSome_some]

/-! ### `Flag::parse` -/

/-- What `getopt_long` answers, up to its `-1`: a long option with no short name at position
`index` of `options`; `'?'`, after it has written its own `diagnostic` to `cerr`, `opterr`
being left at `1` (an invalid or unrecognized option, or one missing its argument); or a short
option character; with `optarg`. -/
inductive GetoptAnswer
  | long (index : Nat) (optarg : Option String)
  | unknown (diagnostic : String)
  | short (c : Char) (optarg : Option String)

/-- `flag -> set(optarg)` on the value of a flag of kind `k`: the new value and what it writes to
`cerr`.  `getopt_long` gives an argument to every option that takes one. -/
def set (k : Kind) (v : Value) (optarg : Option String) : Value × String :=
  match k, optarg with
  | .int _, a => (.int (atoi (a.getD "")), "")
  | .string _, a => (.string (a.getD ""), "")
  | .bool _ _, none => (.bool true, "")
  | .bool _ _, some a =>
    if a = "true" then (.bool true, "")
    else if a = "false" then (.bool false, "")
    else (v, "ERROR: boolean flags must be either true or false.  Got '" ++ a ++ "'\n")

/-- The state of `Flag::parse`: the flags' values, what it wrote to `cout` and `cerr`, and how it
ended the process, if it did. -/
structure ParseRun where
  values : List Value
  out : String
  err : String
  ending : Option Ending

/-- `flag -> set(optarg)` on flag `i`. -/
def ParseRun.setAt (r : Registry) (st : ParseRun) (i : Nat) (optarg : Option String) :
    ParseRun :=
  match r.instances[i]?, st.values[i]? with
  | some f, some v =>
    let (v', e) := set f.kind v optarg
    { st with values := st.values.set i v', err := st.err ++ e }
  | _, _ => st

/-- `Flag::show_help` to a stream holding `text`, then `exit(code)`. -/
def helpAndExit (progName : String) (r : Registry) (values : List Value) (text : String)
    (code : Nat) : String × Ending :=
  match showHelp progName r values with
  | some h => (text ++ h, .exit code)
  | none => (text, .abort)

/-- One answer of `getopt_long` in the loop of `Flag::parse`. -/
def parseStep (progName : String) (r : Registry) (st : ParseRun) : GetoptAnswer → ParseRun
  | .long index optarg =>
    match r.longNames (r.options.getD index ("", false, '\x00')).1 with
    | none => st
    | some i =>
      let st := st.setAt r i optarg
      if (r.instances.getD i helpDef).help then
        let (out, e) := helpAndExit progName r st.values st.out 0
        { st with out := out, ending := some e }
      else st
  | .unknown diagnostic =>
    let (err, e) := helpAndExit progName r st.values (st.err ++ diagnostic) 1
    { st with err := err, ending := some e }
  | .short c optarg =>
    match r.shortNames c with
    | none =>
      { st with
        err := st.err ++ "ERROR: failed to find a flag matching '" ++ toString c.toNat ++ "'\n" }
    | some i => st.setAt r i optarg

/-- The loop of `Flag::parse` over `getopt_long`'s answers, up to its `-1` or an `exit`. -/
def parseLoop (progName : String) (r : Registry) : ParseRun → List GetoptAnswer → ParseRun
  | st, [] => st
  | st, a :: as =>
    let st := parseStep progName r st a
    if st.ending.isSome then st else parseLoop progName r st as

/-- `Flag::parse(&argc, &argv, true)` with `argv[0] = progName`: the state after the loop. -/
def parse (progName : String) (r : Registry) (answers : List GetoptAnswer) : ParseRun :=
  parseLoop progName r ⟨r.values, "", "", none⟩ answers

theorem helpAndExit_ending {r : Registry} (h : r.WellFormed) (progName : String)
    (values : List Value) (text : String) (code : Nat) :
    (helpAndExit progName r values text code).2 = .exit code := by
  obtain ⟨s, hs⟩ := Option.isSome_iff_exists.mp (showHelp_isSome h progName values)
  simp [helpAndExit, hs]

/-- One answer ends the process only with status `0` or `1`. -/
theorem parseStep_ending {r : Registry} (h : r.WellFormed) (progName : String) {st : ParseRun}
    (hst : st.ending = none) (a : GetoptAnswer) {e : Ending}
    (he : (parseStep progName r st a).ending = some e) : e = .exit 0 ∨ e = .exit 1 := by
  cases a with
  | long index optarg =>
    simp only [parseStep] at he
    split at he
    · simp [hst] at he
    · split_ifs at he
      · exact .inl ((Option.some.inj he).symm.trans (helpAndExit_ending h ..))
      · simp [ParseRun.setAt] at he
        split at he <;> simp [hst] at he
  | unknown _ => exact .inr ((Option.some.inj he).symm.trans (helpAndExit_ending h ..))
  | short c optarg =>
    simp only [parseStep] at he
    split at he
    · simp [hst] at he
    · simp [ParseRun.setAt] at he
      split at he <;> simp [hst] at he

theorem parseLoop_ending {r : Registry} (h : r.WellFormed) (progName : String) :
    ∀ (answers : List GetoptAnswer) {st : ParseRun}, st.ending = none → ∀ {e : Ending},
      (parseLoop progName r st answers).ending = some e → e = .exit 0 ∨ e = .exit 1
  | [], _, hst, _, he => by simp [parseLoop, hst] at he
  | a :: as, st, hst, e, he => by
    simp only [parseLoop] at he
    split_ifs at he with hs
    · exact parseStep_ending h progName hst a he
    · exact parseLoop_ending h progName as (Option.not_isSome_iff_eq_none.mp hs) he

/-- **`Flag::parse` never throws**: on a well-formed registry, whatever `getopt_long` answers,
it ends the process only with status `0`, after `--help`, or `1`, after an option it does not
know; `show_help` never throws on the way. -/
theorem parse_ending {r : Registry} (h : r.WellFormed) (progName : String)
    (answers : List GetoptAnswer) {e : Ending} (he : (parse progName r answers).ending = some e) :
    e = .exit 0 ∨ e = .exit 1 :=
  parseLoop_ending h progName answers rfl he

/-- `-z`, with only the help flag registered, ends the process with status `1`. -/
theorem parse_ending_unknown :
    (Registry.empty.push helpDef "").WellFormed ∧
      (parse "_ash_log" (Registry.empty.push helpDef "")
        [.unknown "_ash_log: invalid option -- 'z'\n"]).ending = some (.exit 1) ∧
      (Ending.exit 1 = .exit 0 ∨ Ending.exit 1 = .exit 1) :=
  have h := Registry.wellFormed_empty.push helpDef ""
  have he : (parse "_ash_log" (Registry.empty.push helpDef "")
      [.unknown "_ash_log: invalid option -- 'z'\n"]).ending = some (.exit 1) := by decide
  ⟨h, he, parse_ending h "_ash_log" [.unknown "_ash_log: invalid option -- 'z'\n"] he⟩

/-! ### Reading a flag -/

/-- `FLAGS_<name>`: the value of the flag `long_names()` maps `name` to. -/
def flagValue (r : Registry) (values : List Value) (name : String) : Option Value :=
  (r.longNames name).bind fun i => values[i]?

/-- An `int` flag's variable. -/
def intFlag (r : Registry) (values : List Value) (name : String) : Int :=
  match flagValue r values name with
  | some (.int v) => v
  | _ => 0

/-- A `string` flag's variable. -/
def stringFlag (r : Registry) (values : List Value) (name : String) : String :=
  match flagValue r values name with
  | some (.string v) => v
  | _ => ""

/-- A `bool` flag's variable. -/
def boolFlag (r : Registry) (values : List Value) (name : String) : Bool :=
  match flagValue r values name with
  | some (.bool v) => v
  | _ => false

end Flag

end Ash
