import Gatehouse.Text.Lowercase

/-!
# `Gatehouse.Command.Descriptor` — commands as they are declared

## Contents
- `Category`: the groups that commands are listed under.
- `Descriptor`, `Descriptor.declare`: the declaration of a command.
- `Listing`: a command as others see it.
-/

namespace Gatehouse

/-- The groups that commands are listed under. -/
inductive Category where
  | administration
  | entertainment
  | utility
  | system
  deriving DecidableEq, Repr

namespace Category

/-- The key of a group, with which the language keys of its commands begin. -/
def key : Category → String
  | .administration => "administration"
  | .entertainment => "fun"
  | .utility => "utility"
  | .system => "system"

/-- The name of a group in technical listings. -/
def label : Category → String
  | .administration => "Administration"
  | .entertainment => "Fun"
  | .utility => "Utility"
  | .system => "System"

end Category

/-- The declaration of a command. -/
structure Descriptor where
  name : String
  category : Category
  /-- What the command is called by: its name and its aliases, in lowercase as far as ASCII goes. -/
  triggers : List String
  description : String
  /-- Examples of calls. -/
  usage : List String
  /-- The declarations of the gates, in the order in which they are asked. -/
  gates : List String
  deriving DecidableEq, Repr

/-- Declare a command. -/
def Descriptor.declare (name : String) (category : Category) (aliases : List String)
    (description : String) (usage gates : List String) : Descriptor where
  name := name
  category := category
  triggers := (name :: aliases).map Text.asciiLowercased
  description := description
  usage := usage
  gates := gates

/-- A command as others see it. -/
structure Listing where
  descriptor : Descriptor
  /-- The names of the gates with what they tell about themselves. -/
  gates : List (String × Option String)
  deriving DecidableEq, Repr

end Gatehouse
