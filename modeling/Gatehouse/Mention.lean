import Gatehouse.Id

/-!
# `Gatehouse.Mention` — mentions of users

A mention is `<@id>` or `<@!id>`, where the id is a numeral of 64 bits.

## Contents
- `Mention.parse?`: the user of a mention.
-/

namespace Gatehouse.Mention

/-- What stands before the closing bracket, if the text ends with one. -/
def beforeBracket? (cs : List Char) : Option (List Char) :=
  match cs.reverse with
  | '>' :: rest => some rest.reverse
  | _ => none

/-- The text without an exclamation mark at its start. -/
def withoutMark : List Char → List Char
  | '!' :: cs => cs
  | cs => cs

/-- The user that a list of characters mentions, if it is a mention. -/
def parseChars? (cs : List Char) : Option UserId := do
  let inner ← Text.dropLead? ['<', '@'] cs
  let inner ← beforeBracket? inner
  let n ← Numeral.read? Numeral.maxId (withoutMark inner)
  return Id.ofNat n

/-- The user that a text mentions, if it is a mention. -/
def parse? (s : String) : Option UserId :=
  parseChars? s.toList

end Gatehouse.Mention
