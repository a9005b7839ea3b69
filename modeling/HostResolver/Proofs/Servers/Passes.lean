import HostResolver.Servers.Source
import Mathlib.Data.List.Rotate

/-!
Passes of a stream over the servers of its source.

Owns: what one step of a stream does, whichever permutations are drawn, and from it by induction
what a run of steps gives: the servers of the current pass up to its end, a permutation of all
servers in each whole pass, and for a stream that keeps its list the server at each index.

Does not own: how several streams of one source stand to each other.
-/

namespace HostResolver.Servers

open HostResolver.Address

theorem ne_nil_of_perm {left right : List Endpoint} (permuted : left.Perm right)
    (nonempty : right ≠ []) : left ≠ [] := by
  rintro rfl
  exact nonempty permuted.nil_eq.symm

namespace Stream

variable {stream : Stream}

theorem ext {left right : Stream} (servers : left.servers = right.servers)
    (position : left.position = right.position) (shuffles : left.shuffles = right.shuffles) :
    left = right := by
  cases left
  cases right
  cases servers
  cases position
  cases shuffles
  rfl

theorem position_startingAt {servers : List Endpoint} (nonempty : servers ≠ []) (start : Nat) :
    (startingAt servers start).position = start % servers.length := if_neg nonempty

theorem startingAt_congr {servers : List Endpoint} {first second : Nat}
    (same : first % servers.length = second % servers.length) :
    startingAt servers first = startingAt servers second := by
  refine ext rfl ?_ rfl
  unfold startingAt
  simp only [same]

/-! ### One step -/

/-- What a step does to a stream that has servers. -/
structure Step (before : Stream) (server : Endpoint) (after : Stream) : Prop where
  server : before.servers[before.position]? = some server
  position : after.position = (before.position + 1) % before.servers.length
  perm : after.servers.Perm before.servers
  shuffles : after.shuffles = before.shuffles
  /-- A new list is drawn at the end of a pass only, and only by a stream that shuffles. -/
  kept : before.shuffles = false ∨ before.position + 1 < before.servers.length →
    after.servers = before.servers

theorem next_of_empty (empty : stream.servers = []) (shuffle : Shuffle) :
    stream.next shuffle = none := by
  unfold next
  rw [dif_neg (not_not_intro empty)]

theorem restart_perm (stream : Stream) (shuffle : Shuffle) :
    (stream.restart shuffle).servers.Perm stream.servers := by
  unfold restart
  by_cases drawn : stream.shuffles = true
  · simpa only [if_pos drawn] using shuffle.perm stream.servers
  · simp only [if_neg drawn]
    exact List.Perm.refl _

/-- **A step never stops and never misses.** A stream that has servers gives the one at its
position. -/
theorem exists_step (nonempty : stream.servers ≠ []) (shuffle : Shuffle) :
    ∃ server later, stream.next shuffle = some (server, later) ∧ Step stream server later := by
  have inRange := stream.inRange nonempty
  have present : stream.servers[stream.position]? =
      some (stream.servers.get ⟨stream.position, inRange⟩) := List.getElem?_eq_getElem inRange
  unfold next
  rw [dif_pos nonempty]
  by_cases more : stream.position + 1 < stream.servers.length
  · rw [dif_pos more]
    refine ⟨_, _, rfl, present, ?_, List.Perm.refl _, rfl, fun _ => rfl⟩
    exact (Nat.mod_eq_of_lt more).symm
  · rw [dif_neg more]
    have wrapped : stream.position + 1 = stream.servers.length := by omega
    refine ⟨_, _, rfl, present, ?_, restart_perm stream shuffle, rfl, ?_⟩
    · rw [wrapped, Nat.mod_self]
      rfl
    · rintro (keeps | inside)
      · unfold restart
        simp only [keeps, Bool.false_eq_true, if_false]
      · exact absurd inside more

theorem Step.nonempty {server : Endpoint} {later : Stream} (step : Step stream server later)
    (nonempty : stream.servers ≠ []) : later.servers ≠ [] :=
  ne_nil_of_perm step.perm nonempty

/-! ### Runs of steps -/

theorem take_succ {shuffles : Nat → Shuffle} {server : Endpoint} {later : Stream}
    (stepped : stream.next (shuffles 0) = some (server, later)) (count : Nat) :
    stream.take (count + 1) shuffles =
      (server :: (later.take count fun index => shuffles (index + 1)).1,
        (later.take count fun index => shuffles (index + 1)).2) := by
  rw [take, stepped]

theorem take_of_empty (empty : stream.servers = []) (count : Nat) (shuffles : Nat → Shuffle) :
    stream.take count shuffles = ([], stream) := by
  cases count with
  | zero => rfl
  | succ count => rw [take, next_of_empty empty]

/-- A run of steps is cut at any step into two. -/
theorem take_add (stream : Stream) (first second : Nat) (shuffles : Nat → Shuffle) :
    stream.take (first + second) shuffles =
      ((stream.take first shuffles).1 ++
          ((stream.take first shuffles).2.take second fun index => shuffles (first + index)).1,
        ((stream.take first shuffles).2.take second fun index => shuffles (first + index)).2) := by
  by_cases empty : stream.servers = []
  · rw [take_of_empty empty, take_of_empty empty, take_of_empty empty]
    rfl
  · induction first generalizing stream shuffles with
    | zero => simp only [Nat.zero_add, take, List.nil_append]
    | succ first inductionHypothesis =>
        obtain ⟨server, later, stepped, step⟩ := exists_step empty (shuffles 0)
        have reordered : first + 1 + second = first + second + 1 := by omega
        have shifted (index : Nat) : first + 1 + index = first + index + 1 := by omega
        rw [reordered, take_succ stepped, take_succ stepped,
          inductionHypothesis later _ (step.nonempty empty)]
        simp only [shifted, List.cons_append]

theorem length_take (nonempty : stream.servers ≠ []) (count : Nat) (shuffles : Nat → Shuffle) :
    (stream.take count shuffles).1.length = count := by
  induction count generalizing stream shuffles with
  | zero => rfl
  | succ count inductionHypothesis =>
      obtain ⟨server, later, stepped, step⟩ := exists_step nonempty (shuffles 0)
      rw [take_succ stepped, List.length_cons, inductionHypothesis (step.nonempty nonempty)]

/-- No step adds, drops or doubles a server of the list. -/
theorem perm_take (stream : Stream) (count : Nat) (shuffles : Nat → Shuffle) :
    (stream.take count shuffles).2.servers.Perm stream.servers := by
  by_cases empty : stream.servers = []
  · rw [take_of_empty empty]
  · induction count generalizing stream shuffles with
    | zero => exact List.Perm.refl _
    | succ count inductionHypothesis =>
        obtain ⟨server, later, stepped, step⟩ := exists_step empty (shuffles 0)
        rw [take_succ stepped]
        exact (inductionHypothesis later _ (step.nonempty empty)).trans step.perm

theorem nonempty_take (nonempty : stream.servers ≠ []) (count : Nat)
    (shuffles : Nat → Shuffle) : (stream.take count shuffles).2.servers ≠ [] :=
  ne_nil_of_perm (perm_take stream count shuffles) nonempty

/-! ### Whole passes -/

/-- Up to the end of a pass a stream gives the servers of its list in order. -/
theorem take_within_pass (nonempty : stream.servers ≠ []) {count : Nat}
    (within : stream.position + count ≤ stream.servers.length) (shuffles : Nat → Shuffle) :
    (stream.take count shuffles).1 = (stream.servers.drop stream.position).take count ∧
      (stream.take count shuffles).2.position =
        (stream.position + count) % stream.servers.length := by
  induction count generalizing stream shuffles with
  | zero =>
      have inRange := stream.inRange nonempty
      rw [take, List.take_zero, Nat.add_zero, Nat.mod_eq_of_lt inRange]
      exact ⟨rfl, rfl⟩
  | succ count inductionHypothesis =>
      obtain ⟨server, later, stepped, step⟩ := exists_step nonempty (shuffles 0)
      have inRange := stream.inRange nonempty
      have present := List.drop_eq_getElem_cons inRange
      have server_eq : stream.servers[stream.position] = server := by
        have found := step.server
        rw [List.getElem?_eq_getElem inRange] at found
        exact Option.some.inj found
      rw [take_succ stepped, present, List.take_succ_cons, server_eq]
      by_cases more : stream.position + 1 < stream.servers.length
      · have sameServers := step.kept (Or.inr more)
        have laterPosition : later.position = stream.position + 1 := by
          rw [step.position, Nat.mod_eq_of_lt more]
        have laterWithin : later.position + count ≤ later.servers.length := by
          rw [laterPosition, sameServers]
          omega
        obtain ⟨taken, position⟩ :=
          inductionHypothesis (step.nonempty nonempty) laterWithin fun index =>
            shuffles (index + 1)
        rw [taken, position, laterPosition, sameServers]
        refine ⟨rfl, ?_⟩
        congr 1
        omega
      · -- The pass ends here, so nothing else is asked for.
        have last : count = 0 := by omega
        subst last
        exact ⟨rfl, step.position⟩

/-- From the start of a pass, one step for each server gives the whole list. -/
theorem take_pass (nonempty : stream.servers ≠ []) (atStart : stream.position = 0)
    (shuffles : Nat → Shuffle) :
    (stream.take stream.servers.length shuffles).1 = stream.servers ∧
      (stream.take stream.servers.length shuffles).2.position = 0 := by
  have within : stream.position + stream.servers.length ≤ stream.servers.length := by omega
  obtain ⟨taken, position⟩ := take_within_pass nonempty within shuffles
  rw [atStart, List.drop_zero, List.take_length] at taken
  rw [atStart, Nat.zero_add, Nat.mod_self] at position
  exact ⟨taken, position⟩

theorem position_take_passes (nonempty : stream.servers ≠ []) (atStart : stream.position = 0)
    (passes : Nat) (shuffles : Nat → Shuffle) :
    (stream.take (passes * stream.servers.length) shuffles).2.position = 0 := by
  induction passes with
  | zero => rw [Nat.zero_mul, take, atStart]
  | succ passes inductionHypothesis =>
      have sameLength := (perm_take stream (passes * stream.servers.length) shuffles).length_eq
      have pass := take_pass (nonempty_take nonempty _ shuffles) inductionHypothesis fun index =>
        shuffles (passes * stream.servers.length + index)
      rw [sameLength] at pass
      rw [Nat.succ_mul, take_add]
      exact pass.2

/-! ### Streams that keep their list -/

/-- A stream that never draws a new list stays one, with its list. -/
theorem take_of_keeps (keeps : stream.shuffles = false) (nonempty : stream.servers ≠ [])
    (count : Nat) (shuffles : Nat → Shuffle) :
    (stream.take count shuffles).2.servers = stream.servers ∧
      (stream.take count shuffles).2.shuffles = false ∧
      (stream.take count shuffles).2.position =
        (stream.position + count) % stream.servers.length := by
  induction count generalizing stream shuffles with
  | zero =>
      refine ⟨rfl, keeps, ?_⟩
      rw [Nat.add_zero, Nat.mod_eq_of_lt (stream.inRange nonempty)]
      rfl
  | succ count inductionHypothesis =>
      obtain ⟨server, later, stepped, step⟩ := exists_step nonempty (shuffles 0)
      have sameServers := step.kept (Or.inl keeps)
      obtain ⟨servers, shuffling, position⟩ := inductionHypothesis (step.shuffles.trans keeps)
        (step.nonempty nonempty) fun index => shuffles (index + 1)
      rw [take_succ stepped]
      refine ⟨servers.trans sameServers, shuffling, position.trans ?_⟩
      rw [step.position, sameServers, Nat.mod_add_mod]
      congr 1
      omega

/-- The server at each index of a run, counted around the list. -/
theorem getElem?_take_of_keeps (keeps : stream.shuffles = false) (nonempty : stream.servers ≠ [])
    {index count : Nat} (within : index < count) (shuffles : Nat → Shuffle) :
    (stream.take count shuffles).1[index]? =
      stream.servers[(stream.position + index) % stream.servers.length]? := by
  induction count generalizing stream shuffles index with
  | zero => omega
  | succ count inductionHypothesis =>
      obtain ⟨server, later, stepped, step⟩ := exists_step nonempty (shuffles 0)
      rw [take_succ stepped]
      cases index with
      | zero =>
          rw [List.getElem?_cons_zero, Nat.add_zero,
            Nat.mod_eq_of_lt (stream.inRange nonempty), step.server]
      | succ index =>
          have sameServers := step.kept (Or.inl keeps)
          rw [List.getElem?_cons_succ, inductionHypothesis (step.shuffles.trans keeps)
            (step.nonempty nonempty) (by omega), step.position, sameServers, Nat.mod_add_mod]
          congr 2
          omega

/-- A run of such a stream, index by index. -/
theorem map_some_take_of_keeps (keeps : stream.shuffles = false)
    (nonempty : stream.servers ≠ []) (count : Nat) (shuffles : Nat → Shuffle) :
    (stream.take count shuffles).1.map some =
      (List.range count).map fun index =>
        stream.servers[(stream.position + index) % stream.servers.length]? := by
  have sameLength := length_take nonempty count shuffles
  apply List.ext_getElem
  · rw [List.length_map, List.length_map, List.length_range, sameLength]
  · intro index within _
    rw [List.length_map, sameLength] at within
    rw [List.getElem_map, List.getElem_map, List.getElem_range,
      ← getElem?_take_of_keeps keeps nonempty within shuffles, List.getElem?_eq_getElem]

theorem map_some_take_startingAt {servers : List Endpoint} (nonempty : servers ≠ [])
    (start count : Nat) (shuffles : Nat → Shuffle) :
    ((startingAt servers start).take count shuffles).1.map some =
      (List.range count).map fun index => servers[(start + index) % servers.length]? := by
  have keeps : (startingAt servers start).shuffles = false := rfl
  have stepwise := map_some_take_of_keeps keeps nonempty count shuffles
  have sameServers : (startingAt servers start).servers = servers := rfl
  simpa only [position_startingAt nonempty, sameServers, Nat.mod_add_mod] using stepwise

/-- The permutations that are drawn elsewhere do not matter to it. -/
theorem take_congr_of_keeps (keeps : stream.shuffles = false) (count : Nat)
    (first second : Nat → Shuffle) : stream.take count first = stream.take count second := by
  by_cases empty : stream.servers = []
  · rw [take_of_empty empty, take_of_empty empty]
  · apply Prod.ext
    · have same := (map_some_take_of_keeps keeps empty count first).trans
        (map_some_take_of_keeps keeps empty count second).symm
      exact List.map_injective_iff.2 (fun _ _ => Option.some.inj) same
    · obtain ⟨firstServers, firstKeeps, firstPosition⟩ := take_of_keeps keeps empty count first
      obtain ⟨secondServers, secondKeeps, secondPosition⟩ :=
        take_of_keeps keeps empty count second
      exact ext (firstServers.trans secondServers.symm) (firstPosition.trans secondPosition.symm)
        (firstKeeps.trans secondKeeps.symm)

/-- One step for each server gives the list, turned to the place where the stream stands. -/
theorem take_round (keeps : stream.shuffles = false) (nonempty : stream.servers ≠ [])
    (shuffles : Nat → Shuffle) :
    (stream.take stream.servers.length shuffles).1 = stream.servers.rotate stream.position := by
  have sameLength := length_take nonempty stream.servers.length shuffles
  apply List.ext_getElem?
  intro index
  by_cases within : index < stream.servers.length
  · rw [getElem?_take_of_keeps keeps nonempty within, List.getElem?_rotate within, Nat.add_comm]
  · rw [List.getElem?_eq_none (by omega), List.getElem?_eq_none]
    rw [List.length_rotate]
    omega

/-! ### Stretches -/

/-- The servers that `count` steps of a stream give, behind its first `start` steps. -/
def stretch (stream : Stream) (shuffles : Nat → Shuffle) (start count : Nat) : List Endpoint :=
  (stream.take (start + count) shuffles).1.drop start

theorem stretch_eq_take (nonempty : stream.servers ≠ []) (shuffles : Nat → Shuffle)
    (start count : Nat) :
    stream.stretch shuffles start count =
      ((stream.take start shuffles).2.take count fun index => shuffles (start + index)).1 := by
  have skipped := length_take nonempty start shuffles
  rw [stretch, take_add, List.drop_left' skipped]

/-- Whatever is drawn, each pass of a stream that stands at the start of one is a permutation of
its servers. -/
theorem perm_stretch_pass (nonempty : stream.servers ≠ []) (atStart : stream.position = 0)
    (shuffles : Nat → Shuffle) (pass : Nat) :
    (stream.stretch shuffles (pass * stream.servers.length) stream.servers.length).Perm
      stream.servers := by
  have permuted := perm_take stream (pass * stream.servers.length) shuffles
  have whole := take_pass (nonempty_take nonempty _ shuffles)
    (position_take_passes nonempty atStart pass shuffles) fun index =>
      shuffles (pass * stream.servers.length + index)
  rw [permuted.length_eq] at whole
  rw [stretch_eq_take nonempty, whole.1]
  exact permuted

/-- A stream that keeps its list gives a permutation of it from any step on. -/
theorem perm_stretch_of_keeps (keeps : stream.shuffles = false) (nonempty : stream.servers ≠ [])
    (shuffles : Nat → Shuffle) (start : Nat) :
    (stream.stretch shuffles start stream.servers.length).Perm stream.servers := by
  obtain ⟨sameServers, laterKeeps, _⟩ := take_of_keeps keeps nonempty start shuffles
  have round := take_round laterKeeps (nonempty_take nonempty start shuffles) fun index =>
    shuffles (start + index)
  rw [sameServers] at round
  rw [stretch_eq_take nonempty, round]
  exact List.rotate_perm _ _

end Stream

/-! ### Streams of a source -/

namespace Source

variable {order : Order} {servers : List Endpoint}

/-- A stream of a source in a fixed order keeps its list. -/
theorem openStream_of_ne_random (fixed : order ≠ .random) (servers : List Endpoint)
    (start : Nat) (shuffle : Shuffle) :
    ∃ place, ((ofServers order servers).openStream start shuffle).1 =
      Stream.startingAt servers place := by
  by_cases single : servers.length = 1
  · exact ⟨0, by simp only [ofServers, openStream, single, if_true]⟩
  · cases order with
    | random => exact absurd rfl fixed
    | failover => exact ⟨0, by simp only [ofServers, openStream, single, if_false]⟩
    | roundRobin => exact ⟨start, by simp only [ofServers, openStream, single, if_false]⟩

/-- A stream of a source in random order has a permutation of the list, unless there is one server
only. -/
theorem openStream_random (servers : List Endpoint) (start : Nat) (shuffle : Shuffle) :
    ((ofServers .random servers).openStream start shuffle).1 = .startingAt servers 0 ∨
      ((ofServers .random servers).openStream start shuffle).1 = .shuffled servers shuffle := by
  by_cases single : servers.length = 1
  · exact Or.inl (by simp only [ofServers, openStream, single, if_true])
  · exact Or.inr (by simp only [ofServers, openStream, single, if_false])

theorem perm_openStream (order : Order) (servers : List Endpoint) (start : Nat)
    (shuffle : Shuffle) :
    ((ofServers order servers).openStream start shuffle).1.servers.Perm servers := by
  by_cases fixed : order = .random
  · subst fixed
    rcases openStream_random servers start shuffle with opened | opened
    · rw [opened]
      exact List.Perm.refl _
    · rw [opened]
      exact shuffle.perm servers
  · obtain ⟨place, opened⟩ := openStream_of_ne_random fixed servers start shuffle
    rw [opened]
    exact List.Perm.refl _

/-- Whatever is drawn, a stream of a source goes through permutations of its list pass by pass. -/
theorem perm_stretch_openStream (order : Order) {servers : List Endpoint}
    (nonempty : servers ≠ []) (start : Nat) (opening : Shuffle) (shuffles : Nat → Shuffle)
    (pass : Nat) :
    ((((ofServers order servers).openStream start opening).1.stretch shuffles
      (pass * servers.length) servers.length)).Perm servers := by
  have permuted := perm_openStream order servers start opening
  by_cases fixed : order = .random
  · subst fixed
    have atStart : ((ofServers .random servers).openStream start opening).1.position = 0 := by
      rcases openStream_random servers start opening with opened | opened
      · rw [opened, Stream.position_startingAt nonempty, Nat.zero_mod]
      · rw [opened]
        rfl
    rw [← permuted.length_eq]
    exact (Stream.perm_stretch_pass (ne_nil_of_perm permuted nonempty) atStart shuffles pass).trans
      permuted
  · obtain ⟨place, opened⟩ := openStream_of_ne_random fixed servers start opening
    rw [opened]
    exact Stream.perm_stretch_of_keeps rfl nonempty shuffles _

/-- **Every pass visits every server exactly once.** A stream of a source, wherever the source
stands and whichever permutations are drawn, has as many servers as the source. If there are any,
it never stops and never looks beyond its list, each whole pass is a permutation of the servers, and
in a fixed order so is every stretch of that many steps. If there are none, it gives none. -/
theorem openStream_passes (order : Order) (servers : List Endpoint) (start : Nat)
    (opening : Shuffle) (shuffles : Nat → Shuffle) :
    let stream := ((ofServers order servers).openStream start opening).1
    stream.length = servers.length ∧
      (servers = [] → ∀ count, stream.take count shuffles = ([], stream) ∧
        stream.next (shuffles count) = none) ∧
      (servers ≠ [] →
        (∀ count, ∃ server after,
          (stream.take count shuffles).2.next (shuffles count) = some (server, after) ∧
          (stream.take count shuffles).2.servers[(stream.take count shuffles).2.position]? =
            some server) ∧
        (∀ pass, (stream.stretch shuffles (pass * stream.length) stream.length).Perm servers) ∧
        (order ≠ .random → ∀ first,
          (stream.stretch shuffles first stream.length).Perm servers)) := by
  intro stream
  have permuted : stream.servers.Perm servers := perm_openStream order servers start opening
  have sameLength : stream.length = servers.length := permuted.length_eq
  refine ⟨sameLength, ?_, ?_⟩
  · rintro rfl count
    have empty : stream.servers = [] := permuted.eq_nil
    exact ⟨Stream.take_of_empty empty count shuffles, Stream.next_of_empty empty _⟩
  · intro nonempty
    have opensNonempty := ne_nil_of_perm permuted nonempty
    refine ⟨?_, ?_, ?_⟩
    · intro count
      obtain ⟨server, after, stepped, step⟩ :=
        Stream.exists_step (Stream.nonempty_take opensNonempty count shuffles) (shuffles count)
      exact ⟨server, after, stepped, step.server⟩
    · intro pass
      rw [sameLength]
      exact perm_stretch_openStream order nonempty start opening shuffles pass
    · intro fixed first
      obtain ⟨place, opened⟩ := openStream_of_ne_random fixed servers start opening
      have keeps : stream.shuffles = false := congrArg Stream.shuffles opened
      exact (Stream.perm_stretch_of_keeps keeps opensNonempty shuffles first).trans permuted

end Source

end HostResolver.Servers
