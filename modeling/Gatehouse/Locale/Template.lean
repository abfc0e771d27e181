import Gatehouse.Numeral

/-!
# `Gatehouse.Locale.Template` — texts with numbered holes

A reference to the argument with number `i` is written as the number between braces. A brace that begins no
reference to an existing argument is ordinary text. The text of an argument is never looked at for
references.

## Contents
- `Piece`: a character of the template or a reference.
- `reference?`: the reference that follows an opening brace.
- `pieces`: the template cut into pieces, which depends on the number of arguments only.
- `render`: the template with the arguments put in.
-/

namespace Gatehouse.Template

/-- A part of a template. -/
inductive Piece where
  /-- A character that stands for itself. -/
  | char (c : Char)
  /-- A reference to an argument. -/
  | argument (index : Nat)
  deriving DecidableEq, Repr

/-- The reference to one of `n` arguments whose opening brace was read, and what follows it. -/
def reference? (n : Nat) (cs : List Char) : Option (Nat × List Char) :=
  let digits := cs.takeWhile Char.isDigit
  match cs.dropWhile Char.isDigit with
  | '\x7d' :: rest =>
      if digits ≠ [] ∧ Numeral.value digits < n then some (Numeral.value digits, rest) else none
  | _ => none

/-- A reference takes up part of the text. -/
theorem length_of_reference? {n i : Nat} {cs rest : List Char} (h : reference? n cs = some (i, rest)) :
    rest.length < cs.length := by
  simp only [reference?] at h
  split at h
  · next rest' hcs =>
      split at h
      · simp only [Option.some.injEq, Prod.mk.injEq] at h
        have hlen := (List.dropWhile_sublist (l := cs) Char.isDigit).length_le
        rw [hcs] at hlen
        simp only [List.length_cons, h.2] at hlen
        omega
      · simp at h
  · simp at h

/-- The pieces of a template for `n` arguments. -/
def pieces (n : Nat) : List Char → List Piece
  | [] => []
  | c :: cs =>
      if c = '\x7b' then
        match h : reference? n cs with
        | some (i, rest) =>
            have := length_of_reference? h
            .argument i :: pieces n rest
        | none => .char c :: pieces n cs
      else .char c :: pieces n cs
termination_by cs => cs.length

/-- What a piece is replaced by. -/
def Piece.text (args : List String) : Piece → List Char
  | .char c => [c]
  | .argument i => (args[i]?.getD "").toList

/-- The template with the arguments put in. -/
def render (template : String) (args : List String) : String :=
  String.ofList ((pieces args.length template.toList).flatMap (Piece.text args))

end Gatehouse.Template
