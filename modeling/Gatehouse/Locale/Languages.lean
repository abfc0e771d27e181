import Gatehouse.Locale.Catalog
import Gatehouse.Locale.Dutch
import Gatehouse.Locale.English
import Gatehouse.Locale.Template

/-!
# `Gatehouse.Locale.Languages` — choosing a language and translating

A text that a language does not have is taken from the default language, and a key that no language knows is
shown as it is.

## Contents
- `Languages`, `Languages.ofCatalogs`, `Languages.ofSources`: catalogs with one of them as the default.
- `Languages.LoadError`: why there are none.
- `Languages.available`, `Languages.sources`: the codes and the documents of the built-in languages.
- `Languages.builtin`: the built-in languages, read from their documents.
- `Languages.resolve`: the catalog of a code.
- `Languages.translate`: the text of a key.
-/

namespace Gatehouse

/-- Catalogs by their codes, and the default one. -/
structure Languages where
  fallback : Catalog
  catalogs : Table String Catalog

namespace Languages

instance : Inhabited Languages := ⟨⟨default, Table.empty⟩⟩

/-- Why there are no languages to choose from. -/
inductive LoadError where
  /-- The document of a language is not well formed. -/
  | malformed (code : String)
  /-- No catalog has the code of the default language. -/
  | unknownLocale (code : String)
  deriving DecidableEq, Repr

/-- What is said about that. A document that is not well formed comes with a report of its mistake. -/
def LoadError.message (report : String) : LoadError → String
  | .malformed code => "language bundle " ++ code ++ " is malformed: " ++ report
  | .unknownLocale code => "no language bundle for locale " ++ code

/-- The given catalogs with one of them as the default. -/
def ofCatalogs (catalogs : Table String Catalog) (code : String) : Except LoadError Languages :=
  match catalogs.get? code with
  | some c => .ok ⟨c, catalogs⟩
  | none => .error (.unknownLocale code)

/-- The catalog of a document with its code. -/
def readSource (source : String × String) : Except LoadError (String × Catalog) :=
  match Catalog.read? source.1 source.2 with
  | some c => .ok (source.1, c)
  | none => .error (.malformed source.1)

/-- The catalogs of documents with one of them as the default. -/
def ofSources (sources : List (String × String)) (code : String) : Except LoadError Languages := do
  let catalogs ← sources.mapM readSource
  ofCatalogs (Table.ofList catalogs) code

/-- The codes of the built-in languages. -/
def available : List String :=
  ["en_US", "nl_NL"]

/-- The documents of the built-in languages with their codes. -/
def sources : List (String × String) :=
  [("en_US", Catalog.englishSource), ("nl_NL", Catalog.dutchSource)]

/-- The built-in languages with one of them as the default. -/
@[irreducible] def builtin (code : String) : Except LoadError Languages :=
  ofSources sources code

/-- The catalog of a code, or the default one if there is no code or no such catalog. -/
def resolve (l : Languages) (code : Option String) : Catalog :=
  (code.bind l.catalogs.get?).getD l.fallback

/-- The text of a key with the arguments put in. -/
def translate (l : Languages) (active : Catalog) (key : String) (args : List String) : String :=
  match active.get? key, l.fallback.get? key with
  | some template, _ => Template.render template args
  | none, some template => Template.render template args
  | none, none => key

end Languages

end Gatehouse
