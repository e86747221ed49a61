import QueryAgent.Text.Digits
import QueryAgent.Text.LowerCase

namespace QueryAgent.Sql

/-!
# Dialects

What differs between the backends' ways to write a statement.
-/

/-- How the places of parameters are marked. -/
inductive PlaceholderStyle where
  /-- The same mark at every place. -/
  | positional (mark : String)
  /-- A mark followed by the number of the parameter, from one. -/
  | numbered (mark : String)
deriving Repr, DecidableEq

/-- The marker of the parameter with the given number. -/
def PlaceholderStyle.marker
    (style : PlaceholderStyle)
    (number : Nat) : String :=
  match style with
  | .positional mark =>
      mark
  | .numbered mark =>
      mark ++ Text.decimal number

/-- How the list of an `in` condition is bound. -/
inductive ListPolicy where
  /-- The whole list is one parameter. -/
  | bindArray
  /-- Each item is a parameter. -/
  | expand
deriving Repr, DecidableEq

/-- A way to write statements. -/
structure Dialect where
  name : String
  placeholders : PlaceholderStyle
  listPolicy : ListPolicy
deriving Repr, DecidableEq

namespace Dialect

/-- PostgreSQL numbers its parameters and takes arrays. -/
def postgres : Dialect where
  name := "postgres"
  placeholders := .numbered "$"
  listPolicy := .bindArray

/-- MySQL marks every parameter alike and takes no lists. -/
def mysql : Dialect where
  name := "mysql"
  placeholders := .positional "?"
  listPolicy := .expand

/-- The dialect of a name, in any case. -/
def ofName?
    (name : String) : Option Dialect :=
  match Text.lowerCase name with
  | "postgres" => some postgres
  | "postgresql" => some postgres
  | "mysql" => some mysql
  | _ => none

end Dialect

end QueryAgent.Sql
