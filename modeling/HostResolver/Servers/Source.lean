import HostResolver.Servers.Order
import HostResolver.Servers.Stream

/-!
Sources of streams: a list of servers and the order in which queries go through it.

This module owns the source, its opening, and the texts that describe it. What a source remembers
between two openings, the place where the next stream starts, is kept by whoever opens it, so a
source itself never changes.
-/

namespace HostResolver.Servers

open HostResolver.Address

/-- How a source hands its servers out. -/
inductive Kind where
  /-- There is one server, so its order does not matter. -/
  | single
  | failover
  | roundRobin
  | random
deriving DecidableEq, Repr

namespace Kind

/-- The order that a kind stands for; that of a single server counts as failover. -/
def order : Kind → Order
  | .single => .failover
  | .failover => .failover
  | .roundRobin => .roundRobin
  | .random => .random

def name : Kind → String
  | .single => "SingletonDnsServerAddresses"
  | .failover => "SequentialDnsServerAddresses"
  | .roundRobin => "RotationalDnsServerAddresses"
  | .random => "ShuffledDnsServerAddresses"

end Kind

/-- A list of servers and how it is handed out. -/
structure Source where
  kind : Kind
  servers : List Endpoint
deriving DecidableEq, Repr

namespace Source

/-- The source that hands servers out in an order. -/
def ofServers (order : Order) (servers : List Endpoint) : Source where
  kind :=
    if servers.length = 1 then .single
    else
      match order with
      | .failover => .failover
      | .roundRobin => .roundRobin
      | .random => .random
  servers := servers

/-- Opens a stream, given where the next stream of a source in turn starts. The second part is where
the one after it starts. -/
def openStream (source : Source) (start : Nat) (shuffle : Shuffle) : Stream × Nat :=
  match source.kind with
  | .single | .failover => (.startingAt source.servers 0, start)
  | .random => (.shuffled source.servers shuffle, start)
  | .roundRobin =>
    (.startingAt source.servers start,
      if source.servers = [] then start else (start + 1) % source.servers.length)

def shown (source : Source) : String :=
  s!"{source.kind.name}({Endpoint.shownList source.servers})"

end Source

/-- A source in a message, or the word for none. -/
def shownSource? : Option Source → String
  | none => "None"
  | some source => source.shown

end HostResolver.Servers
