import Mathlib.Data.List.Basic

/-!
# `DBObject::quote` and the SQL string literal

`quote` turns a field into an SQL literal: `null` for the empty string, otherwise the bytes
between single quotes, each quote doubled and every byte dropped that is neither printable
(`isprint` in the C locale) nor a tab or a newline.  The quote doubling is the fall-through
of `case '\''` into the `isprint` test of `default`.

`readStrBody` is the SQL rule for the body of a string literal, after its opening quote: two
quotes stand for one and a lone quote ends the literal.  Reading `quote s` by that rule
consumes all of it and gives back `s` without the dropped bytes (`quote_spec`); the general
form `readStrBody_quoteBody` allows any text after the literal that does not start with a
quote.

The loop copies each byte into a plain `char` before it calls `isprint`.  Where `char` is
signed, a byte `0x80 .. 0xfe` arrives as a negative `int` that is not `EOF`, an argument
`isprint` is not defined on (`isprintArgs_defined_iff`); UTF-8 text is made of such bytes
(`isprintArgs_utf8`).
-/

namespace Ash

/-- `isprint` in the C locale: the bytes `0x20 .. 0x7e`. -/
def isprint (c : Char) : Bool :=
  0x20 ≤ c.toNat ∧ c.toNat ≤ 0x7e

/-- What the loop of `DBObject::quote` appends for one byte. -/
def quoteChar (c : Char) : List Char :=
  match c with
  | '\n' | '\t' => [c]
  | '\'' => c :: if isprint c then [c] else []
  | _ => if isprint c then [c] else []

/-- The bytes `quote` keeps: printable ones, tabs and newlines. -/
def keeps (c : Char) : Bool :=
  c = '\n' ∨ c = '\t' ∨ isprint c

namespace DBObject

/-- `DBObject::quote(const string & in)`. -/
def quote (s : String) : String :=
  if s.toList.isEmpty then "null" else ⟨'\'' :: s.toList.flatMap quoteChar ++ ['\'']⟩

/-- `DBObject::quote(const char * value)`: `none` is the null pointer. -/
def quoteCStr : Option String → String
  | none => "null"
  | some s => quote s

end DBObject

/-- The body of an SQL string literal after its opening quote: two quotes stand for one, a
lone quote ends the literal.  Returns the text and what follows the closing quote. -/
def readStrBody : List Char → Option (List Char × List Char)
  | [] => none
  | '\'' :: '\'' :: rest => (readStrBody rest).map fun p => ('\'' :: p.1, p.2)
  | '\'' :: rest => some ([], rest)
  | c :: rest => (readStrBody rest).map fun p => (c :: p.1, p.2)

/-- The text of a whole quoted literal, if `t` is one. -/
def unquote (t : String) : Option String :=
  match t.toList with
  | '\'' :: body =>
    match readStrBody body with
    | some (text, []) => some ⟨text⟩
    | _ => none
  | _ => none

section ReadStrBody

variable {rest : List Char}

@[simp] theorem readStrBody_quote_quote :
    readStrBody ('\'' :: '\'' :: rest) = (readStrBody rest).map fun p => ('\'' :: p.1, p.2) := by
  rw [readStrBody]

theorem readStrBody_quote (h : rest.head? ≠ some '\'') : readStrBody ('\'' :: rest) = some ([], rest) := by
  match rest, h with
  | [], _ => rfl
  | c :: rest, h =>
    have hc : c ≠ '\'' := fun hc => h (by rw [hc]; rfl)
    rw [readStrBody.eq_3 _ (by simpa using hc)]

theorem readStrBody_of_ne {c : Char} (hc : c ≠ '\'') :
    readStrBody (c :: rest) = (readStrBody rest).map fun p => (c :: p.1, p.2) := by
  rw [readStrBody.eq_def]
  split <;> simp_all

end ReadStrBody

theorem isprint_quote : isprint '\'' = true := by decide

theorem quoteChar_of_keeps {c : Char} (h : c ≠ '\'') (hk : keeps c) : quoteChar c = [c] := by
  unfold quoteChar keeps at *
  split <;> simp_all

theorem quoteChar_of_not_keeps {c : Char} (hk : ¬keeps c) : quoteChar c = [] := by
  unfold quoteChar keeps at *
  split <;> simp_all [isprint_quote]

theorem quoteChar_quote : quoteChar '\'' = ['\'', '\''] := rfl

/-- **Reading a quoted body**: the bytes `quote` writes between its quotes, then a quote and
any text that does not start with a quote, read back as the kept bytes and that text. -/
theorem readStrBody_quoteBody (s : List Char) {rest : List Char} (h : rest.head? ≠ some '\'') :
    readStrBody (s.flatMap quoteChar ++ '\'' :: rest) = some (s.filter keeps, rest) := by
  induction s with
  | nil => exact readStrBody_quote h
  | cons c s ih =>
    rw [List.flatMap_cons, List.append_assoc]
    by_cases hq : c = '\''
    · subst hq
      rw [quoteChar_quote, List.cons_append, List.cons_append, List.nil_append,
        readStrBody_quote_quote, ih]
      rfl
    · by_cases hk : keeps c
      · rw [quoteChar_of_keeps hq hk, List.singleton_append, readStrBody_of_ne hq, ih,
          List.filter_cons_of_pos hk]
        rfl
      · rw [quoteChar_of_not_keeps hk, List.nil_append, ih, List.filter_cons_of_neg hk]

theorem unquote_of_readStrBody {t : String} {body text : List Char} (ht : t.toList = '\'' :: body)
    (hb : readStrBody body = some (text, [])) : unquote t = some ⟨text⟩ := by
  rw [unquote, ht]
  simp only [hb]

namespace DBObject

theorem quote_mk_cons (c : Char) (l : List Char) :
    quote ⟨c :: l⟩ = ⟨'\'' :: ((c :: l).flatMap quoteChar ++ ['\''])⟩ := rfl

/-- **`quote` writes one SQL literal of the bytes it keeps**: it is the keyword `null` iff its
input is empty; otherwise it is an opening quote and a body that the literal rule reads up to
the very end of `quote s`, giving the input without its dropped bytes, so `unquote` inverts it
on every input made of printable bytes, tabs and newlines. -/
theorem quote_spec (s : String) :
    (quote s = "null" ↔ s = "") ∧
    (s ≠ "" → ∃ body, (quote s).toList = '\'' :: body ∧
      readStrBody body = some (s.toList.filter keeps, [])) ∧
    (s ≠ "" → unquote (quote s) = some ⟨s.toList.filter keeps⟩) ∧
    (s ≠ "" → (∀ c ∈ s.toList, keeps c) → unquote (quote s) = some s) := by
  obtain ⟨_ | ⟨c, l⟩⟩ := s
  · exact ⟨by simp [quote], by simp, by simp, by simp⟩
  · have hne : String.mk (c :: l) ≠ "" := fun h => by simp [String.ext_iff] at h
    have hbody := @readStrBody_quoteBody (c :: l) [] (by simp)
    have hunq : unquote (quote ⟨c :: l⟩) = some ⟨(c :: l).filter keeps⟩ :=
      unquote_of_readStrBody (by rw [quote_mk_cons]; rfl) hbody
    refine ⟨⟨fun h => absurd (congrArg String.toList h) ?_, fun h => absurd h hne⟩,
      fun _ => ⟨_, by rw [quote_mk_cons]; rfl, hbody⟩, fun _ => hunq, fun _ hk => ?_⟩
    · rw [quote_mk_cons]; simp
    · have hall : (c :: l).filter keeps = c :: l := List.filter_eq_self.mpr hk
      rw [hunq, hall]

end DBObject

/-! ### The argument of `isprint` -/

/-- The `int` that `isprint(c)` receives for the `char c` holding the byte `b`: a byte
`0x80 .. 0xff` becomes `b - 0x100` where `char` is signed (x86-64 and i386 System V), and stays
`b` where it is unsigned. -/
def charValue (signedChar : Bool) (b : Char) : Int :=
  if signedChar ∧ 0x80 ≤ b.toNat then b.toNat - 0x100 else b.toNat

/-- The values `DBObject::quote` passes to `isprint`, in order: one for each byte of the input
but tabs and newlines, which the `switch` takes first; a quote falls through to the test. -/
def isprintArgs (signedChar : Bool) (s : String) : List Int :=
  (s.toList.filter fun c => c ≠ '\n' ∧ c ≠ '\t').map (charValue signedChar)

/-- The arguments `isprint` is defined on: `EOF` and the values of an `unsigned char`. -/
def IsprintDefined (v : Int) : Prop := v = -1 ∨ 0 ≤ v ∧ v ≤ 0xff

instance : DecidablePred IsprintDefined := fun _ => inferInstanceAs (Decidable (_ ∨ _))

theorem isprintDefined_charValue {signedChar : Bool} {b : Char} (hb : b.toNat < 0x100) :
    IsprintDefined (charValue signedChar b) ↔
      signedChar = false ∨ b.toNat < 0x80 ∨ b.toNat = 0xff := by
  unfold IsprintDefined charValue
  by_cases h : 0x80 ≤ b.toNat <;> cases signedChar <;> simp [h] <;> omega

/-- `quote` hands `isprint` only arguments it is defined on exactly when `char` is unsigned or
every byte but tabs and newlines is ASCII or `0xff` (which a signed `char` turns into `EOF`). -/
theorem isprintArgs_defined_iff {signedChar : Bool} {s : String}
    (hs : ∀ c ∈ s.toList, c.toNat < 0x100) :
    (∀ v ∈ isprintArgs signedChar s, IsprintDefined v) ↔
      ∀ c ∈ s.toList, c ≠ '\n' → c ≠ '\t' →
        signedChar = false ∨ c.toNat < 0x80 ∨ c.toNat = 0xff := by
  simp only [isprintArgs, List.mem_map, List.mem_filter, decide_eq_true_eq]
  constructor
  · intro h c hc hn ht
    exact (isprintDefined_charValue (hs c hc)).mp (h _ ⟨c, ⟨hc, hn, ht⟩, rfl⟩)
  · rintro h v ⟨c, ⟨hc, hn, ht⟩, rfl⟩
    exact (isprintDefined_charValue (hs c hc)).mpr (h c hc hn ht)

/-- On ASCII text, a signed `char` hands `isprint` only defined arguments. -/
theorem isprintArgs_defined_iff_ascii :
    (∀ c ∈ "ls -l".toList, c.toNat < 0x100) ∧
      ((∀ v ∈ isprintArgs true "ls -l", IsprintDefined v) ↔
        ∀ c ∈ "ls -l".toList, c ≠ '\n' → c ≠ '\t' → true = false ∨ c.toNat < 0x80 ∨ c.toNat = 0xff) :=
  have hs : ∀ c ∈ "ls -l".toList, c.toNat < 0x100 := by decide
  ⟨hs, isprintArgs_defined_iff hs⟩

/-- The UTF-8 text `é`, the bytes `0xc3 0xa9`, reaches `isprint` as `-61` and `-87` where
`char` is signed: neither is `EOF` nor the value of an `unsigned char`. -/
theorem isprintArgs_utf8 :
    isprintArgs true ⟨['\xc3', '\xa9']⟩ = [-61, -87] ∧ ¬IsprintDefined (-61) ∧
      ¬IsprintDefined (-87) := by
  decide

end Ash
