import Gatehouse.Json.Basic
import Gatehouse.Numeral

/-!
# `Gatehouse.Json.Reader` — reading JSON text

The text is first cut into tokens. The tokens then drive a machine that keeps the lists and objects that
are still open on a stack, so reading is one pass over the tokens.

## Contents
- `Draft`, `stringBody?`: strings, with pairs of surrogates put together.
- `Token`, `token?`, `tokens?`: the tokens of a text. Each takes up part of it (`length_of_token?`).
- `Frame`, `Phase`, `Machine`, `Machine.step?`: the machine.
- `Json.read?`: the value of a text.
-/

namespace Gatehouse.Json

/-! ## Tokens -/

/-- A token: a scalar value or a punctuation character. -/
inductive Token where
  | scalar (value : Json)
  | mark (c : Char)

/-- The number of four hexadecimal digits. -/
def hex4? (a b c d : Char) : Option Nat :=
  [a, b, c, d].foldlM (fun n x =>
    if x.isDigit then some (n * 16 + (x.toNat - '0'.toNat))
    else if 'a' ≤ x ∧ x ≤ 'f' then some (n * 16 + (x.toNat - 'a'.toNat + 10))
    else if 'A' ≤ x ∧ x ≤ 'F' then some (n * 16 + (x.toNat - 'A'.toNat + 10))
    else none) 0

/-- The character of a short escape. -/
def shortEscape? : Char → Option Char
  | '"' => some '"'
  | '\\' => some '\\'
  | '/' => some '/'
  | 'b' => some (Char.ofNat 8)
  | 'f' => some (Char.ofNat 12)
  | 'n' => some '\n'
  | 'r' => some '\r'
  | 't' => some '\t'
  | _ => none

/-- Whether a number is the first half of a pair of surrogates. -/
def isHighHalf (n : Nat) : Bool :=
  0xd800 ≤ n && n ≤ 0xdbff

/-- Whether a number is the second half of a pair of surrogates. -/
def isLowHalf (n : Nat) : Bool :=
  0xdc00 ≤ n && n ≤ 0xdfff

/-- The code point of a pair of surrogates. -/
def paired (high low : Nat) : Nat :=
  0x10000 + (high - 0xd800) * 0x400 + (low - 0xdc00)

/-- What was read of a string. -/
structure Draft where
  /-- The characters, in reverse. -/
  chars : List Char := []
  /-- The first half of a pair of surrogates that has just been read. -/
  half : Option Nat := none
  /-- Whether every half before that one has found its partner. -/
  sound : Bool := true

/-- What was read of a string after one more character. -/
def Draft.push (d : Draft) (c : Char) : Draft :=
  ⟨c :: d.chars, none, d.sound && d.half.isNone⟩

/-- What was read of a string after a four-digit escape. -/
def Draft.pushNumber (d : Draft) (n : Nat) : Draft :=
  match d.half, isLowHalf n with
  | some high, true => ⟨Char.ofNat (paired high n) :: d.chars, none, d.sound⟩
  | none, true => { d with sound := false }
  | _, false =>
      if isHighHalf n then { d with half := some n, sound := d.sound && d.half.isNone }
      else d.push (Char.ofNat n)

/-- The value of a string. Half a pair of surrogates leaves no text. -/
def Draft.value (d : Draft) : Json :=
  if d.sound && d.half.isNone then .str (String.ofList d.chars.reverse) else .garbled

/-- The value of a string and what follows its closing quote, after what was read of it. Control characters
    must be escaped. -/
def stringBody? (d : Draft) : List Char → Option (Json × List Char)
  | [] => none
  | '"' :: rest => some (d.value, rest)
  | '\\' :: 'u' :: a :: b :: c :: e :: rest =>
      match hex4? a b c e with
      | none => none
      | some n => stringBody? (d.pushNumber n) rest
  | '\\' :: e :: rest =>
      match shortEscape? e with
      | none => none
      | some c => stringBody? (d.push c) rest
  | c :: rest => if c.toNat < 0x20 ∨ c = '\\' then none else stringBody? (d.push c) rest

/-- A string takes up part of the text. -/
theorem length_of_stringBody? {d : Draft} {cs rest : List Char} {v : Json}
    (h : stringBody? d cs = some (v, rest)) : rest.length < cs.length := by
  fun_induction stringBody? d cs with
  | case1 => simp at h
  | case2 =>
      simp only [Option.some.injEq, Prod.mk.injEq] at h
      rw [← h.2]
      simp
  | case3 => simp at h
  | case4 _ _ _ _ _ _ _ _ ih =>
      have := ih h
      simp only [List.length_cons]
      omega
  | case5 => simp at h
  | case6 _ _ _ _ _ _ ih =>
      have := ih h
      simp only [List.length_cons]
      omega
  | case7 => simp at h
  | case8 _ _ _ _ _ _ _ ih =>
      have := ih h
      simp only [List.length_cons]
      omega

/-- Whether a character can be part of a number. -/
def isNumberChar (c : Char) : Bool :=
  c.isDigit || c = '-' || c = '+' || c = '.' || c = 'e' || c = 'E'

/-- The exponent of a number: what follows the letter. -/
def exponent? : List Char → Option Int
  | '-' :: ds => if ds.isEmpty || !ds.all Char.isDigit then none else some (-(Numeral.value ds : Int))
  | '+' :: ds => if ds.isEmpty || !ds.all Char.isDigit then none else some (Numeral.value ds)
  | ds => if ds.isEmpty || !ds.all Char.isDigit then none else some (Numeral.value ds)

/-- The value of a number: digits without a needless leading zero, then perhaps a fraction and an exponent.
    A negative zero is no whole number. -/
def number? (cs : List Char) : Option Json :=
  let negative := cs.head? = some '-'
  let body := if negative then cs.tail else cs
  let whole := body.takeWhile Char.isDigit
  let afterWhole := body.dropWhile Char.isDigit
  let sign (n : Nat) : Int := if negative then -n else n
  if whole.isEmpty ∨ (whole.head? = some '0' ∧ whole.length ≠ 1) then none
  else
    let fraction? : Option (List Char × List Char) :=
      match afterWhole with
      | '.' :: cs =>
          let ds := cs.takeWhile Char.isDigit
          if ds.isEmpty then none else some (ds, cs.dropWhile Char.isDigit)
      | cs => some ([], cs)
    match fraction? with
    | none => none
    | some (fraction, rest) =>
        let digits := Numeral.value (whole ++ fraction)
        match rest with
        | [] =>
            if fraction.isEmpty ∧ ¬ (negative ∧ digits = 0) then some (.int (sign digits))
            else some (.real (sign digits) (-(fraction.length : Int)))
        | e :: cs =>
            if e = 'e' ∨ e = 'E' then
              (exponent? cs).map fun k => .real (sign digits) (k - fraction.length)
            else none

/-- The first token of a text and what follows it; `none` stands for white space. -/
def token? : List Char → Option (Option Token × List Char)
  | [] => none
  | '"' :: rest => (stringBody? {} rest).map fun (v, rest) => (some (.scalar v), rest)
  | 't' :: 'r' :: 'u' :: 'e' :: rest => some (some (.scalar (.bool true)), rest)
  | 'f' :: 'a' :: 'l' :: 's' :: 'e' :: rest => some (some (.scalar (.bool false)), rest)
  | 'n' :: 'u' :: 'l' :: 'l' :: rest => some (some (.scalar .null), rest)
  | c :: rest =>
      if c = ' ' ∨ c = '\t' ∨ c = '\n' ∨ c = '\r' then some (none, rest)
      else if c ∈ ['[', ']', '\x7b', '\x7d', ',', ':'] then some (some (.mark c), rest)
      else if isNumberChar c then
        (number? (c :: rest.takeWhile isNumberChar)).map fun v =>
          (some (.scalar v), rest.dropWhile isNumberChar)
      else none

/-- A token takes up part of the text. -/
theorem length_of_token? {cs rest : List Char} {t : Option Token} (h : token? cs = some (t, rest)) :
    rest.length < cs.length := by
  have drop (cs : List Char) : (cs.dropWhile isNumberChar).length ≤ cs.length :=
    (List.dropWhile_sublist isNumberChar).length_le
  unfold token? at h
  split at h
  · simp at h
  · simp only [Option.map_eq_some_iff, Prod.mk.injEq] at h
    obtain ⟨_, hv, -, rfl⟩ := h
    have := length_of_stringBody? hv
    simp only [List.length_cons]
    omega
  · simp only [Option.some.injEq, Prod.mk.injEq] at h
    simp only [← h.2, List.length_cons]
    omega
  · simp only [Option.some.injEq, Prod.mk.injEq] at h
    simp only [← h.2, List.length_cons]
    omega
  · simp only [Option.some.injEq, Prod.mk.injEq] at h
    simp only [← h.2, List.length_cons]
    omega
  · next c after _ _ _ _ =>
      have := drop after
      split at h
      · simp only [Option.some.injEq, Prod.mk.injEq] at h
        simp [← h.2]
      · split at h
        · simp only [Option.some.injEq, Prod.mk.injEq] at h
          simp [← h.2]
        · split at h
          · simp only [Option.map_eq_some_iff, Prod.mk.injEq] at h
            obtain ⟨_, _, -, rfl⟩ := h
            simp only [List.length_cons]
            omega
          · simp at h

/-- The tokens of a text, after those in `acc`, which are in reverse. -/
def tokensFrom? (acc : List Token) (cs : List Char) : Option (List Token) :=
  if cs.isEmpty then some acc.reverse
  else
    match h : token? cs with
    | none => none
    | some (token, rest) =>
        have := length_of_token? h
        tokensFrom? (token.toList ++ acc) rest
termination_by cs.length

/-- The tokens of a text. -/
def tokens? (cs : List Char) : Option (List Token) :=
  tokensFrom? [] cs

/-! ## The machine -/

/-- A member of an object that is being read. Its name is absent if it is garbled. -/
abbrev Entry := Option String × Json

/-- A list or object that is still open: what it holds so far, newest first, and for an object the name of
    the member whose value is being read. -/
inductive Frame where
  | list (items : List Json)
  | object (members : List Entry) (name : Option String)

/-- What may come next. -/
inductive Phase where
  /-- A value. -/
  | value
  /-- The first element of the innermost list, or its end. -/
  | firstItem
  /-- A member name of an object with the given members, or, if it has none yet, its end. -/
  | name (members : List Entry) (first : Bool)
  /-- The colon after a member name. -/
  | colon (members : List Entry) (name : Option String)
  /-- What follows a finished value: a comma, the end of the innermost frame, or the end of the text. -/
  | after (value : Json)

/-- The object of the members that were read, newest first. -/
def closed (members : List Entry) : Json :=
  match members.reverse.mapM fun m => m.1.map (·, m.2) with
  | some members => .obj members
  | none => .garbled

/-- The open frames, innermost first, and what may come next. -/
structure Machine where
  frames : List Frame := []
  phase : Phase := .value

/-- The machine after a token that starts a value. -/
def Machine.start? (frames : List Frame) : Token → Option Machine
  | .scalar v => some ⟨frames, .after v⟩
  | .mark c =>
      if c = '[' then some ⟨.list [] :: frames, .firstItem⟩
      else if c = '\x7b' then some ⟨frames, .name [] true⟩
      else none

/-- The machine after a token that follows a finished value. -/
def Machine.finish? (v : Json) (c : Char) : List Frame → Option Machine
  | .list items :: frames =>
      if c = ',' then some ⟨.list (v :: items) :: frames, .value⟩
      else if c = ']' then some ⟨frames, .after (.arr (v :: items).reverse)⟩
      else none
  | .object members name :: frames =>
      if c = ',' then some ⟨frames, .name ((name, v) :: members) false⟩
      else if c = '\x7d' then some ⟨frames, .after (closed ((name, v) :: members))⟩
      else none
  | [] => none

/-- The machine after a token, if the token may come. -/
def Machine.step? (m : Machine) (t : Token) : Option Machine :=
  match m.phase with
  | .value => Machine.start? m.frames t
  | .firstItem =>
      match m.frames, t with
      | .list [] :: frames, .mark ']' => some ⟨frames, .after (.arr [])⟩
      | frames, t => Machine.start? frames t
  | .name members first =>
      match t with
      | .scalar (.str s) => some ⟨m.frames, .colon members (some s)⟩
      | .scalar .garbled => some ⟨m.frames, .colon members none⟩
      | .mark '\x7d' => if first then some ⟨m.frames, .after (.obj [])⟩ else none
      | _ => none
  | .colon members name =>
      match t with
      | .mark ':' => some ⟨.object members name :: m.frames, .value⟩
      | _ => none
  | .after v =>
      match t with
      | .mark c => Machine.finish? v c m.frames
      | .scalar _ => none

/-- The value of a text that holds exactly one. -/
def read? (text : String) : Option Json := do
  let tokens ← tokens? text.toList
  let m ← tokens.foldlM Machine.step? {}
  match m with
  | ⟨[], .after v⟩ => some v
  | _ => none

end Gatehouse.Json
