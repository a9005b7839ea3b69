import HostResolver.Proofs.Servers.Passes

/-!
Duplicates of streams.

Owns: the streams that are reached from a source by steps and duplications with the count of steps
behind them, what is known of them, which of their next servers do not depend on permutations that
are still to be drawn, and that a duplicate gives these.

Does not own: several streams that are used in turn.

A stream that shuffles draws a permutation with the last step of a pass. So at the very end of a
pass the permutation of the next one is drawn already, and a duplicate shares that whole pass.
-/

namespace HostResolver.Servers

open HostResolver.Address

namespace Stream

variable {stream : Stream}

/-- A stream that has servers stands within its list, so counting its place around the list once
more changes nothing. -/
theorem duplicate_eq (nonempty : stream.servers ≠ []) : stream.duplicate = stream := by
  refine ext (servers_duplicate stream) ?_ (shuffles_duplicate stream)
  unfold duplicate
  split
  · rfl
  · rw [position_startingAt nonempty]
    exact Nat.mod_eq_of_lt (stream.inRange nonempty)

/-- A duplicate takes what its original takes, if the same permutations are drawn. -/
theorem take_duplicate (stream : Stream) (count : Nat) (shuffles : Nat → Shuffle) :
    (stream.duplicate.take count shuffles).1 = (stream.take count shuffles).1 := by
  by_cases empty : stream.servers = []
  · have duplicateEmpty : stream.duplicate.servers = [] := by rw [servers_duplicate, empty]
    rw [take_of_empty empty, take_of_empty duplicateEmpty]
  · rw [duplicate_eq empty]

/-- Steps draw no more permutations than one each. -/
theorem take_congr_below {count : Nat} {first second : Nat → Shuffle}
    (agree : ∀ index < count, first index = second index) :
    stream.take count first = stream.take count second := by
  by_cases empty : stream.servers = []
  · rw [take_of_empty empty, take_of_empty empty]
  · induction count generalizing stream first second with
    | zero => rfl
    | succ count inductionHypothesis =>
        have sameDraw : first 0 = second 0 := agree 0 (Nat.succ_pos count)
        obtain ⟨server, later, stepped, step⟩ := exists_step empty (first 0)
        have shifted : ∀ index < count, first (index + 1) = second (index + 1) :=
          fun index below => agree (index + 1) (Nat.succ_lt_succ below)
        have others := inductionHypothesis shifted (step.nonempty empty)
        rw [take_succ stepped, take_succ (sameDraw ▸ stepped), others]

/-- Up to the end of a pass a stream gives the servers that are drawn already. -/
theorem take_congr_within_pass (nonempty : stream.servers ≠ []) {count : Nat}
    (within : stream.position + count ≤ stream.servers.length) (first second : Nat → Shuffle) :
    (stream.take count first).1 = (stream.take count second).1 := by
  rw [(take_within_pass nonempty within first).1, (take_within_pass nonempty within second).1]

end Stream

namespace Source

/-- The streams that come of a source by steps and duplications, also of duplicates, with the count
of steps since the stream was opened from which they come. -/
inductive Reaches (source : Source) : Nat → Stream → Prop where
  | opened (start : Nat) (shuffle : Shuffle) : source.Reaches 0 (source.openStream start shuffle).1
  | next {count : Nat} {stream later : Stream} {shuffle : Shuffle} {server : Endpoint}
      (reached : source.Reaches count stream)
      (stepped : stream.next shuffle = some (server, later)) : source.Reaches (count + 1) later
  | duplicate {count : Nat} {stream : Stream} (reached : source.Reaches count stream) :
      source.Reaches count stream.duplicate

variable {order : Order} {servers : List Endpoint} {count : Nat} {stream : Stream}

/-- What is known of a stream that a source reaches behind a count of steps. -/
structure Stands (order : Order) (servers : List Endpoint) (count : Nat) (stream : Stream) :
    Prop where
  perm : stream.servers.Perm servers
  keeps : order ≠ .random ∨ servers.length = 1 → stream.shuffles = false
  /-- In random order every pass starts at the front of its list. -/
  place : order = .random → servers ≠ [] → stream.position = count % servers.length

theorem stands_openStream (start : Nat) (shuffle : Shuffle) :
    Stands order servers 0 ((ofServers order servers).openStream start shuffle).1 := by
  refine ⟨perm_openStream order servers start shuffle, ?_, ?_⟩
  · rintro (fixed | single)
    · obtain ⟨place, opened⟩ := openStream_of_ne_random fixed servers start shuffle
      exact congrArg Stream.shuffles opened
    · have kind : (ofServers order servers).kind = .single := if_pos single
      unfold openStream
      rw [kind]
      rfl
  · rintro rfl nonempty
    rcases openStream_random servers start shuffle with opened | opened
    · rw [opened, Stream.position_startingAt nonempty]
    · rw [opened, Nat.zero_mod]
      rfl

/-- **What one step keeps.** -/
theorem stands_next {later : Stream} {shuffle : Shuffle} {server : Endpoint}
    (stands : Stands order servers count stream)
    (stepped : stream.next shuffle = some (server, later)) :
    Stands order servers (count + 1) later := by
  have nonempty : stream.servers ≠ [] := by
    intro empty
    rw [Stream.next_of_empty empty] at stepped
    contradiction
  obtain ⟨_, _, sameStep, step⟩ := Stream.exists_step nonempty shuffle
  rw [stepped, Option.some.injEq, Prod.mk.injEq] at sameStep
  obtain ⟨rfl, rfl⟩ := sameStep
  refine ⟨step.perm.trans stands.perm, ?_, ?_⟩
  · intro fixed
    exact step.shuffles.trans (stands.keeps fixed)
  · intro random someServers
    rw [step.position, stands.place random someServers, stands.perm.length_eq, Nat.mod_add_mod]

theorem stands_duplicate (stands : Stands order servers count stream) :
    Stands order servers count stream.duplicate := by
  refine ⟨?_, ?_, ?_⟩
  · rw [Stream.servers_duplicate]
    exact stands.perm
  · rw [Stream.shuffles_duplicate]
    exact stands.keeps
  · intro random nonempty
    rw [Stream.duplicate_eq (ne_nil_of_perm stands.perm nonempty)]
    exact stands.place random nonempty

/-- **Every stream that a source reaches stands where its count says.** -/
theorem stands_of_reaches (reached : (ofServers order servers).Reaches count stream) :
    Stands order servers count stream := by
  induction reached with
  | opened start shuffle => exact stands_openStream start shuffle
  | next _ stepped inductionHypothesis => exact stands_next inductionHypothesis stepped
  | duplicate _ inductionHypothesis => exact stands_duplicate inductionHypothesis

/-- Whether no permutation that is still to be drawn has a say in the next servers of a stream: it
keeps its list, or its current pass is not over before. -/
def IsDrawn (order : Order) (servers : List Endpoint) (count taken : Nat) : Prop :=
  order ≠ .random ∨ servers.length ≤ 1 ∨ count % servers.length + taken ≤ servers.length

instance (order : Order) (servers : List Endpoint) (count taken : Nat) :
    Decidable (IsDrawn order servers count taken) := by
  unfold IsDrawn
  infer_instance

/-- Servers that are drawn already are given whatever is drawn later. -/
theorem take_of_isDrawn (reached : (ofServers order servers).Reaches count stream) {taken : Nat}
    (drawn : IsDrawn order servers count taken) (first second : Nat → Shuffle) :
    (stream.take taken first).1 = (stream.take taken second).1 := by
  have stands := stands_of_reaches reached
  by_cases empty : stream.servers = []
  · rw [Stream.take_of_empty empty, Stream.take_of_empty empty]
  · have someServers : servers ≠ [] := ne_nil_of_perm stands.perm.symm empty
    by_cases fixed : order ≠ .random ∨ servers.length = 1
    · rw [Stream.take_congr_of_keeps (stands.keeps fixed) taken first second]
    · rw [not_or, not_not] at fixed
      have several := List.length_pos_iff.2 someServers
      have within : count % servers.length + taken ≤ servers.length := by
        rcases drawn with unshuffled | short | within
        · exact absurd fixed.1 unshuffled
        · omega
        · exact within
      apply Stream.take_congr_within_pass empty
      rw [stands.place fixed.1 someServers, stands.perm.length_eq]
      exact within

end Source

end HostResolver.Servers
