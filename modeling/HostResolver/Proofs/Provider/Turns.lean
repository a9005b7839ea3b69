import HostResolver.Proofs.Provider.Runs
import HostResolver.Proofs.Provider.Sources
import Mathlib.Data.Int.CardIntervalMod

/-!
Sources whose servers take turns.

Owns: that the next stream of a source starts as many servers further along as streams were opened
before, through every run, and from it which server each step of each stream gives and how often
each server is the first one.

Does not own: runs that ask whether any server is known, which opens a stream that no caller gets.
-/

namespace HostResolver.Servers

/-- Where a source in turn starts its next stream, behind a count of openings. -/
theorem Source.openStream_roundRobin {servers : List Address.Endpoint} (nonempty : servers ≠ [])
    (opened : Nat) (shuffle : Shuffle) :
    (Source.ofServers .roundRobin servers).openStream (opened % servers.length) shuffle =
      (.startingAt servers opened, (opened + 1) % servers.length) := by
  by_cases single : servers.length = 1
  · simp only [ofServers, openStream, single, if_true, Prod.mk.injEq]
    refine ⟨Stream.startingAt_congr ?_, by omega⟩
    rw [single, Nat.mod_one, Nat.mod_one]
  · simp only [ofServers, openStream, single, if_false, if_neg nonempty, Prod.mk.injEq]
    exact ⟨Stream.startingAt_congr (Nat.mod_mod _ _), Nat.mod_add_mod opened servers.length 1⟩

end HostResolver.Servers

namespace HostResolver.Provider

open HostResolver.Address HostResolver.Config HostResolver.Document HostResolver.Files
  HostResolver.Servers

namespace Session

variable {shuffles : Nat → Shuffle} {provider : ServerProvider} {choice : Choice} {source : Source}

/-! ### Openings -/

/-- Whether a request opens a stream of a source. -/
def opens (provider : ServerProvider) (choice : Choice) : Request → Bool
  | .openFor host => decide (provider.choose host = choice)
  | _ => false

/-- The stream of a source that a reply hands out. -/
def openedFor (provider : ServerProvider) (choice : Choice) : Request × Reply → Option Stream
  | (.openFor host, .opened _ stream) =>
    if provider.choose host = choice then some stream else none
  | _ => none

/-- Whether the next stream of a source starts behind a count of openings. -/
def IsBehind (choice : Choice) (source : Source) (session : Session) (opened : Nat) : Prop :=
  session.starts choice = opened % source.servers.length

theorem isBehind_start : IsBehind choice source start 0 := (Nat.zero_mod _).symm

variable (shuffles)

theorem openChoice_of_isBehind (uses : UsesOrder provider .roundRobin)
    (found : provider.source? choice = some source) {session : Session} {opened : Nat}
    (behind : IsBehind choice source session opened) :
    (session.openChoice shuffles choice source).1 = .startingAt source.servers opened ∧
      IsBehind choice source (session.openChoice shuffles choice source).2 (opened + 1) := by
  obtain ⟨nonempty, ordered⟩ := uses choice source found
  have turned := Source.openStream_roundRobin nonempty opened (shuffles session.drawn)
  rw [← ordered, ← behind] at turned
  unfold IsBehind openChoice
  simp only [if_true, turned, and_self]

theorem starts_openChoice_of_ne {session : Session} {other : Choice} (different : choice ≠ other)
    (another : Source) :
    (session.openChoice shuffles other another).2.starts choice = session.starts choice :=
  if_neg different

theorem starts_withStream {session : Session} (choice : Choice) (number : Nat)
    {reply : Stream → Reply × Session}
    (answered : ∀ stream, (reply stream).2.starts choice = session.starts choice) :
    (session.withStream number reply).2.starts choice = session.starts choice := by
  unfold withStream
  cases session.streams[number]? with
  | none => rfl
  | some stream => exact answered stream

/-- A request that hides no steps and opens no stream of a source leaves its turn alone. -/
theorem starts_answer_of_not_opens (session : Session) {request : Request}
    (visible : request.hidesSteps = false) (others : opens provider choice request = false) :
    (session.answer shuffles provider request).2.starts choice = session.starts choice := by
  cases request with
  | openFor host =>
      have different : choice ≠ provider.choose host := by
        rintro rfl
        simp [opens] at others
      cases found : provider.source? (provider.choose host) with
      | none => rw [answer_openFor_of_none found]
      | some another =>
          rw [answer_openFor_of_some found]
          exact starts_openChoice_of_ne shuffles different another
  | resolve host => rfl
  | searchDomains => rfl
  | next number count => exact starts_withStream choice number fun _ => rfl
  | duplicate number => exact starts_withStream choice number fun _ => rfl
  | length number => exact starts_withStream choice number fun _ => rfl
  | describe number => exact starts_withStream choice number fun _ => rfl
  | mayOverride => exact nomatch visible
  | agree first second count => exact nomatch visible

/-- **One request.** It turns the source by one server if it opens a stream of it, which starts
where the source stood; and not at all otherwise. -/
theorem isBehind_answer (uses : UsesOrder provider .roundRobin)
    (found : provider.source? choice = some source) {session : Session} {opened : Nat}
    (behind : IsBehind choice source session opened) {request : Request}
    (visible : request.hidesSteps = false) :
    IsBehind choice source (session.answer shuffles provider request).2
        (opened + [request].countP (opens provider choice)) ∧
      openedFor provider choice (request, (session.answer shuffles provider request).1) =
        if opens provider choice request then some (.startingAt source.servers opened)
        else none := by
  cases opening : opens provider choice request with
  | false =>
      rw [List.countP_singleton, opening]
      refine ⟨(starts_answer_of_not_opens shuffles session visible opening).trans behind, ?_⟩
      cases request with
      | openFor host =>
          have different : provider.choose host ≠ choice := of_decide_eq_false opening
          cases (session.answer shuffles provider (.openFor host)).1 <;>
            simp [openedFor, different]
      | _ => rfl
  | true =>
      cases request with
      | openFor host =>
          have chosen : provider.choose host = choice := of_decide_eq_true opening
          subst chosen
          obtain ⟨stream, turned⟩ := openChoice_of_isBehind shuffles uses found behind
          rw [List.countP_singleton, opening, answer_openFor_of_some found, stream]
          exact ⟨turned, if_pos rfl⟩
      | _ => exact nomatch opening

/-- **A run.** The source stands behind all openings of it, and each of them started where the
source stood then. -/
theorem isBehind_run (uses : UsesOrder provider .roundRobin)
    (found : provider.source? choice = some source) {session : Session} {opened : Nat}
    (behind : IsBehind choice source session opened) {requests : List Request}
    (visible : ∀ request ∈ requests, request.hidesSteps = false) :
    IsBehind choice source (run shuffles provider session requests).2
        (opened + requests.countP (opens provider choice)) ∧
      (transcript shuffles provider session requests).filterMap (openedFor provider choice) =
        (List.range (requests.countP (opens provider choice))).map fun index =>
          .startingAt source.servers (opened + index) := by
  induction requests generalizing session opened with
  | nil => exact ⟨behind, rfl⟩
  | cons request rest inductionHypothesis =>
      obtain ⟨requestVisible, restVisible⟩ := List.forall_mem_cons.1 visible
      obtain ⟨turned, here⟩ :=
        isBehind_answer shuffles uses found behind requestVisible
      obtain ⟨turnedLater, later⟩ := inductionHypothesis turned restVisible
      rw [transcript_cons, List.filterMap_cons, here, later, List.countP_cons]
      rw [List.countP_singleton] at turnedLater ⊢
      cases opening : opens provider choice request with
      | false =>
          simp only [opening, Bool.false_eq_true, if_false, Nat.add_zero, and_true] at turnedLater ⊢
          exact turnedLater
      | true =>
          simp only [opening, if_true] at turnedLater ⊢
          have reordered (count : Nat) : opened + 1 + count = opened + (count + 1) := by omega
          rw [reordered] at turnedLater
          refine ⟨turnedLater, ?_⟩
          -- The openings behind this one are counted from one further on.
          rw [List.range_succ_eq_map, List.map_cons, List.map_map, Nat.add_zero]
          simp only [reordered]
          rfl

/-! ### Turns -/

/-- Among the first numbers each remainder comes up once a round, and once more in the round that is
not finished if it is small enough. -/
theorem countP_range_mod {size place : Nat} (below : place < size) (count : Nat) :
    ((List.range count).countP fun index => decide (index % size = place)) = count / size ∨
      ((List.range count).countP fun index => decide (index % size = place)) =
        (count + size - 1) / size := by
  have counted : ((List.range count).countP fun index => decide (index % size = place)) =
      count / size + if place < count % size then 1 else 0 := by
    have remainders := Nat.count_modEq_card (b := count) (by omega : 0 < size) place
    simpa only [Nat.count, Nat.ModEq, Nat.mod_eq_of_lt below] using remainders
  by_cases reached : place < count % size
  · refine Or.inr ?_
    have rounds := Nat.div_add_mod count size
    have remainder := Nat.mod_lt count (by omega : 0 < size)
    have split : count + size - 1 = size * (count / size + 1) + (count % size - 1) := by
      rw [Nat.mul_add, Nat.mul_one]
      omega
    have unfinished : (count % size - 1) / size = 0 := Nat.div_eq_of_lt (by omega)
    rw [counted, if_pos reached, split, Nat.mul_add_div (by omega), unfinished, Nat.add_zero]
  · refine Or.inl ?_
    rw [counted, if_neg reached, Nat.add_zero]

/-- The streams of a source in a whole session, by where they start. -/
theorem countP_openedFor (uses : UsesOrder provider .roundRobin)
    (found : provider.source? choice = some source) {requests : List Request}
    (visible : ∀ request ∈ requests, request.hidesSteps = false) (place : Nat) :
    ((transcript shuffles provider start requests).filterMap (openedFor provider choice)).countP
        (fun stream => decide (stream.position = place)) =
      (List.range (requests.countP (opens provider choice))).countP fun index =>
        decide (index % source.servers.length = place) := by
  obtain ⟨nonempty, _⟩ := uses choice source found
  obtain ⟨_, opened⟩ := isBehind_run shuffles uses found isBehind_start visible
  rw [opened, List.countP_map]
  congr 1
  funext index
  simp only [Function.comp_apply, Stream.position_startingAt nonempty, Nat.zero_add]

/-- What a stream hands out that is opened in a run, step by step. -/
theorem given_of_opening (uses : UsesOrder provider .roundRobin)
    (found : provider.source? choice = some source) {before after : List Request} {host : String}
    (chosen : provider.choose host = choice)
    (visible : ∀ request ∈ before ++ .openFor host :: after, request.hidesSteps = false) :
    ∃ number,
      (transcript shuffles provider start (before ++ .openFor host :: after))[before.length]? =
          some (.openFor host,
            .opened number (.startingAt source.servers (before.countP (opens provider choice)))) ∧
        ((transcript shuffles provider start (before ++ .openFor host :: after)).flatMap
            (givenBy number)).map some =
          (List.range (after.map (asked number)).sum).map fun index =>
            source.servers[(before.countP (opens provider choice) + index) %
              source.servers.length]? := by
  subst chosen
  obtain ⟨nonempty, _⟩ := uses _ source found
  obtain ⟨beforeVisible, restVisible⟩ := List.forall_mem_append.1 visible
  obtain ⟨openingVisible, afterVisible⟩ := List.forall_mem_cons.1 restVisible
  obtain ⟨behind, _⟩ := isBehind_run shuffles uses found isBehind_start beforeVisible
  rw [Nat.zero_add] at behind
  let session := (run shuffles provider start before).2
  let stream := Stream.startingAt source.servers
    (before.countP (opens provider (provider.choose host)))
  obtain ⟨opened, _⟩ := openChoice_of_isBehind shuffles uses found behind
  have answered : session.answer shuffles provider (.openFor host) = (.opened session.streams.length
      stream, (session.openChoice shuffles (provider.choose host) source).2.hand stream) := by
    rw [answer_openFor_of_some found, opened]
  have isOpen : (session.answer shuffles provider (.openFor host)).2.streams[
      session.streams.length]? = some stream := by
    rw [answered]
    exact List.getElem?_concat_length
  refine ⟨session.streams.length, ?_, ?_⟩
  · rw [transcript_append, transcript_cons, answered,
      List.getElem?_append_right (by rw [length_transcript]), length_transcript, Nat.sub_self]
    rfl
  · rw [transcript_append, transcript_cons, List.flatMap_append, List.flatMap_cons,
      given_before_opening shuffles provider beforeVisible (Nat.le_refl _),
      given_of_open shuffles provider isOpen rfl nonempty afterVisible shuffles]
    exact Stream.map_some_take_startingAt nonempty _ _ shuffles

/-- **Round robin is fair over whole runs.** Whatever a run opens, takes, copies and asks for, a
stream of a source that is opened behind a count of openings of it gives at each step the server
that stands that many places further along than the step, counted around the list. So each server
is the first one of as many streams as there are whole rounds of openings, or of one more. -/
theorem run_takes_turns {tree : FileTree} {inputs : Inputs}
    (named : Order.ofValue? inputs.order = some .roundRobin)
    (built : (ServerProvider.build tree inputs).1 = .ok provider)
    (found : provider.source? choice = some source) :
    (∀ before host after, provider.choose host = choice →
      (∀ request ∈ before ++ .openFor host :: after, request.hidesSteps = false) →
      ∃ number,
        (transcript shuffles provider start (before ++ .openFor host :: after))[before.length]? =
            some (.openFor host, .opened number
              (.startingAt source.servers (before.countP (opens provider choice)))) ∧
          ((transcript shuffles provider start (before ++ .openFor host :: after)).flatMap
              (givenBy number)).map some =
            (List.range (after.map (asked number)).sum).map fun index =>
              source.servers[(before.countP (opens provider choice) + index) %
                source.servers.length]?) ∧
      ∀ requests, (∀ request ∈ requests, request.hidesSteps = false) →
        let opened :=
          (transcript shuffles provider start requests).filterMap (openedFor provider choice)
        opened.length = requests.countP (opens provider choice) ∧
          (∀ stream ∈ opened, stream.servers = source.servers) ∧
          ∀ place < source.servers.length,
            opened.countP (fun stream => decide (stream.position = place)) =
                opened.length / source.servers.length ∨
              opened.countP (fun stream => decide (stream.position = place)) =
                (opened.length + source.servers.length - 1) / source.servers.length := by
  have uses := usesOrder_of_build named built
  refine ⟨fun before host after chosen visible =>
    given_of_opening shuffles uses found chosen visible, ?_⟩
  intro requests visible opened
  have openedInTurn : opened = _ := (isBehind_run shuffles uses found isBehind_start visible).2
  have sameCount : opened.length = requests.countP (opens provider choice) := by
    rw [openedInTurn, List.length_map, List.length_range]
  refine ⟨sameCount, ?_, ?_⟩
  · intro stream member
    rw [openedInTurn, List.mem_map] at member
    obtain ⟨index, _, rfl⟩ := member
    rfl
  · intro place below
    rw [countP_openedFor shuffles uses found visible place, sameCount]
    exact countP_range_mod below _

/-- The second stream of two servers begins with the second one, and wraps around. -/
theorem run_takes_turns_met :
    ∃ provider, (ServerProvider.build pairedFiles (pairedInputs .roundRobin)).1 = .ok provider ∧
      (transcript (fun _ => .keep) provider start [.openFor "", .openFor "", .duplicate 0,
          .next 1 3]).flatMap (givenBy 1) =
        [⟨.v4 ⟨10, 0, 0, 2⟩, dnsPort⟩, ⟨.v4 ⟨10, 0, 0, 1⟩, dnsPort⟩,
          ⟨.v4 ⟨10, 0, 0, 2⟩, dnsPort⟩] := by
  obtain ⟨provider, built, found, empty⟩ := build_pairedFiles .roundRobin
  refine ⟨provider, built, ?_⟩
  obtain ⟨stepwise, _⟩ :=
    run_takes_turns (fun _ => .keep) (ofValue?_pairedInputs .roundRobin) built found
  obtain ⟨number, answered, given⟩ := stepwise [.openFor ""] "" [.duplicate 0, .next 1 3]
    (choose_of_isEmpty empty "") (by decide)
  have opening : provider.source? (provider.choose "") =
      some (.ofServers .roundRobin pairedServers) := by
    rw [choose_of_isEmpty empty, found]
  -- The number of the stream is the count of streams in front of it.
  have numbered : number = 1 := by
    have reply := congrArg (Option.map Prod.snd) answered
    rw [transcript_append, transcript_cons, answer_openFor_of_some opening] at reply
    simp only [run, answer_openFor_of_some opening] at reply
    rw [transcript_cons, answer_openFor_of_some opening] at reply
    exact (Reply.opened.inj (Option.some.inj reply)).1.symm
  subst numbered
  have counted : [Request.openFor ""].countP (opens provider .default) = 1 := by
    rw [List.countP_singleton, opens, choose_of_isEmpty empty]
    rfl
  rw [counted] at given
  apply List.map_injective_iff.2 (fun _ _ => Option.some.inj)
  exact given

end Session

end HostResolver.Provider
