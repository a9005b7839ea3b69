import HostResolver.Document.Value
import HostResolver.Text.Blank
import HostResolver.Text.Casing

/-!
Orders in which the servers of one list are tried.

This module owns the three orders, their names, and the reading of a name.
-/

namespace HostResolver.Servers

open HostResolver.Document HostResolver.Text

/-- The order in which queries go through a list of servers. -/
inductive Order where
  /-- Every query goes through a permutation of its own. -/
  | random
  /-- Every query starts one server further along than the query before. -/
  | roundRobin
  /-- Every query starts at the first server. -/
  | failover
deriving DecidableEq, Repr

namespace Order

def all : List Order := [.random, .roundRobin, .failover]

def name : Order → String
  | .random => "random"
  | .roundRobin => "round_robin"
  | .failover => "failover"

def names : String := ", ".intercalate (all.map name)

/-- Reads the name of an order without regard to case and to blanks around it. -/
def read? (text : String) : Option Order :=
  all.find? fun order => order.name == lowered (trimmed text)

def ofValue? (value : Value) : Option Order := value.shown?.bind read?

/-- The refusal of a value that names no order. -/
def unknown (value : Value) : String :=
  s!"unknown address order {value.quoted}; expected one of {names}"

end Order

end HostResolver.Servers
