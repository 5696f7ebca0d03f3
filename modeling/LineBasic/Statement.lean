import LineBasic.Event
import LineBasic.Expr
import LineBasic.Number.Display

/-!
# Statements

A line is one statement: `LET` gives a variable a value, `PRINT` writes values
one after another. This module holds their trees and what they do.
-/

namespace LineBasic

/-- A printable value. -/
inductive Value
  | number (x : Float)
  | string (text : Text)
  deriving DecidableEq

namespace Value

/-- The kind of a value. -/
def kind : Value → ValueKind
  | number _ => .number
  | string _ => .string

/-- The text of a value: a string is its own text. -/
def display : Value → Text
  | number x => displayNumber x
  | string text => text

end Value

/-- One entry of a `PRINT` list. -/
inductive Item
  | expr (e : Expr)
  | string (text : Text)
  deriving DecidableEq, Repr

namespace Item

/-- The kind of the value of an item. -/
def kind : Item → ValueKind
  | expr _ => .number
  | string _ => .string

/-- The value of an item. -/
def value (store : Store) : Item → Value
  | expr e => .number (e.value store)
  | string text => .string text

end Item

/-- A line of a program. The name in an assignment is in lower case. -/
inductive Statement
  | assign (name : Text) (source : Expr)
  | print (items : List Item)
  deriving DecidableEq, Repr

/-- What a line did. -/
inductive Effect
  /-- A line of output, without its end. -/
  | printed (text : Text)
  | assigned (name : Text) (value : Float)
  deriving DecidableEq

namespace Statement

/-- What a statement does, given the values of the variables. The texts of a
`PRINT` list follow one another with nothing in between. -/
def effect (store : Store) : Statement → Effect
  | assign name source => .assigned name (source.value store)
  | print items => .printed (items.flatMap fun item => (item.value store).display)

end Statement

/-- The store after an effect. -/
def Effect.update (store : Store) : Effect → Store
  | printed _ => store
  | assigned name value => store.assign name value

end LineBasic
