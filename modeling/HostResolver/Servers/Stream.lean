import HostResolver.Address.Endpoint

/-!
Streams of servers.

This module owns the endless walk over one list of servers that a query makes. A stream that keeps
its list starts over behind the last server; a shuffled one draws a new permutation at that moment.
The permutations come from outside, so whatever is said of streams holds for all of them.
-/

namespace HostResolver.Servers

open HostResolver.Address

/-- A way to permute a list of servers. -/
structure Shuffle where
  apply : List Endpoint → List Endpoint
  perm : ∀ servers, (apply servers).Perm servers

namespace Shuffle

def keep : Shuffle := ⟨id, fun servers => List.Perm.refl servers⟩

end Shuffle

/-- A walk over a list of servers: the list of the current pass, and the place of the next server
in it. -/
structure Stream where
  servers : List Endpoint
  position : Nat
  /-- Whether each pass goes through a permutation of its own. -/
  shuffles : Bool
  inRange : servers ≠ [] → position < servers.length

namespace Stream

/-- A stream that keeps its list and starts at a place in it, counted beyond the end from the front
again. -/
def startingAt (servers : List Endpoint) (start : Nat) : Stream where
  servers := servers
  position := if servers = [] then 0 else start % servers.length
  shuffles := false
  inRange := fun nonempty => by
    rw [if_neg nonempty]
    exact Nat.mod_lt _ (List.length_pos_iff.2 nonempty)

/-- A stream over a permutation of a list. -/
def shuffled (servers : List Endpoint) (shuffle : Shuffle) : Stream where
  servers := shuffle.apply servers
  position := 0
  shuffles := true
  inRange := fun nonempty => List.length_pos_iff.2 nonempty

/-- A second stream that goes on where a stream stands. It draws no permutation: one that shuffles
takes over the list of the current pass. -/
def duplicate (stream : Stream) : Stream :=
  if stream.shuffles then
    { shuffled stream.servers .keep with
      position := stream.position
      inRange := stream.inRange }
  else startingAt stream.servers stream.position

/-- The stream at the start of a new pass. -/
def restart (stream : Stream) (shuffle : Shuffle) : Stream where
  servers := if stream.shuffles then shuffle.apply stream.servers else stream.servers
  position := 0
  shuffles := stream.shuffles
  inRange := fun nonempty => List.length_pos_iff.2 nonempty

/-- Takes the next server. A stream over no servers gives none; any other stream never ends. -/
def next (stream : Stream) (shuffle : Shuffle) : Option (Endpoint × Stream) :=
  if nonempty : stream.servers ≠ [] then
    let server := stream.servers.get ⟨stream.position, stream.inRange nonempty⟩
    if more : stream.position + 1 < stream.servers.length then
      some (server, ⟨stream.servers, stream.position + 1, stream.shuffles, fun _ => more⟩)
    else some (server, stream.restart shuffle)
  else none

/-- Takes the next servers, at most `count`, with the permutations that are drawn on the way. -/
def take : Nat → (Nat → Shuffle) → Stream → List Endpoint × Stream
  | 0, _, stream => ([], stream)
  | count + 1, shuffles, stream =>
    match stream.next (shuffles 0) with
    | none => ([], stream)
    | some (server, later) =>
      let taken := take count (fun index => shuffles (index + 1)) later
      (server :: taken.1, taken.2)

/-- The count of servers in one pass. -/
def length (stream : Stream) : Nat := stream.servers.length

/-- The servers of the current pass that are already taken. -/
def passed (stream : Stream) : List Endpoint := stream.servers.take stream.position

/-- A stream that keeps its list, with its place in it. -/
def described (stream : Stream) : String :=
  s!"sequential(index={stream.position}, {Endpoint.shownList stream.servers})"

/-! ## Small lemmas -/

@[simp] theorem servers_duplicate (stream : Stream) :
    stream.duplicate.servers = stream.servers := by
  unfold duplicate
  split <;> rfl

@[simp] theorem shuffles_duplicate (stream : Stream) :
    stream.duplicate.shuffles = stream.shuffles := by
  unfold duplicate
  split
  · next shuffling => exact shuffling.symm
  · next keeping =>
      rw [Bool.not_eq_true] at keeping
      exact keeping.symm

end Stream

end HostResolver.Servers
