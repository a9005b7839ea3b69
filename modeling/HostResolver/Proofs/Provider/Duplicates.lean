import HostResolver.Proofs.Provider.Asking
import HostResolver.Proofs.Provider.Turns
import HostResolver.Proofs.Servers.Duplicates

/-!
Duplicated streams in a session.

Owns: that a duplicate goes on as its original does, and that neither sees how far the other one is
advanced: in every interleaving each gives what it would give alone, and together they can give
whatever each can. Also that advancing and duplicating streams turns no source.

Does not own: runs in which other requests come between.

The permutations of a session are drawn one after the other, so which of them a stream draws depends
on the steps of all streams. What is compared are therefore not two runs with the same permutations,
but the servers that a stream can be given at all.
-/

namespace HostResolver.Provider

open HostResolver.Address HostResolver.Servers

namespace Request

/-- Whether a request takes the next servers of a stream. -/
def isNext : Request → Bool
  | .next .. => true
  | _ => false

/-- Whether a request advances or duplicates a stream. -/
def isNextOrDuplicate : Request → Bool
  | .next .. | .duplicate _ => true
  | _ => false

theorem eq_next_of_isNext {request : Request} (isNext : request.isNext = true) :
    ∃ which taken, request = .next which taken := by
  cases request <;> first | exact ⟨_, _, rfl⟩ | contradiction

end Request

/-- Permutations that follow a count of others. -/
def drawnBehind (count : Nat) (front later : Nat → Shuffle) : Nat → Shuffle := fun index =>
  if index < count then front index else later (index - count)

theorem drawnBehind_of_lt {count index : Nat} (front later : Nat → Shuffle)
    (below : index < count) : drawnBehind count front later index = front index :=
  if_pos below

theorem drawnBehind_add (count index : Nat) (front later : Nat → Shuffle) :
    drawnBehind count front later (count + index) = later index := by
  have behind : ¬count + index < count := by omega
  rw [drawnBehind, if_neg behind, Nat.add_sub_cancel_left]

namespace Session

variable (provider : ServerProvider)

/-- The servers that a run hands out from the stream of a number. -/
def given (shuffles : Nat → Shuffle) (session : Session) (requests : List Request)
    (number : Nat) : List Endpoint :=
  (transcript shuffles provider session requests).flatMap (givenBy number)

/-- The count of servers that requests ask for from the stream of a number. -/
def askedFrom (number : Nat) (requests : List Request) : Nat :=
  (requests.map (asked number)).sum

variable {session : Session} {requests : List Request}

theorem given_cons (shuffles : Nat → Shuffle) (request : Request) (rest : List Request)
    (number : Nat) :
    given provider shuffles session (request :: rest) number =
      givenBy number (request, (session.answer shuffles provider request).1) ++
        given provider shuffles (session.answer shuffles provider request).2 rest number := by
  rw [given, transcript_cons, List.flatMap_cons]
  rfl

theorem askedFrom_cons (number : Nat) (request : Request) (rest : List Request) :
    askedFrom number (request :: rest) = asked number request + askedFrom number rest := by
  rw [askedFrom, List.map_cons, List.sum_cons]
  rfl

theorem visible_of_isNext {request : Request} (isNext : request.isNext = true) :
    request.hidesSteps = false := by
  obtain ⟨which, taken, rfl⟩ := Request.eq_next_of_isNext isNext
  rfl

/-! ### What a stream gives in a run -/

/-- In every run an open stream gives what it gives alone, with some permutations. -/
theorem exists_drawn_of_open (shuffles : Nat → Shuffle) {number : Nat} {stream : Stream}
    (isOpen : session.streams[number]? = some stream)
    (visible : ∀ request ∈ requests, request.hidesSteps = false) :
    ∃ drawn, given provider shuffles session requests number =
      (stream.take (askedFrom number requests) drawn).1 := by
  induction requests generalizing session stream with
  | nil => exact ⟨shuffles, rfl⟩
  | cons request rest inductionHypothesis =>
      obtain ⟨requestVisible, restVisible⟩ := List.forall_mem_cons.1 visible
      obtain ⟨drawnHere, givenHere, stillOpen⟩ :=
        stream_of_answer shuffles provider isOpen requestVisible
      obtain ⟨drawnLater, givenLater⟩ := inductionHypothesis stillOpen restVisible
      have here : stream.take (asked number request)
          (drawnBehind (asked number request) drawnHere drawnLater) =
            stream.take (asked number request) drawnHere :=
        Stream.take_congr_below fun _ below => drawnBehind_of_lt drawnHere drawnLater below
      refine ⟨drawnBehind (asked number request) drawnHere drawnLater, ?_⟩
      rw [given_cons, askedFrom_cons, Stream.take_add, here, givenHere, givenLater]
      simp only [drawnBehind_add]

/-- The session behind steps of one stream. -/
def advanced (session : Session) (which taken : Nat) (after : Stream) : Session :=
  { session with
    streams := session.streams.set which after
    drawn := session.drawn + taken }

/-- A request for servers of an open stream, if the permutations that come next are known. -/
theorem given_next_of_drawn {shuffles own : Nat → Shuffle} {which taken : Nat} {mover : Stream}
    (moved : session.streams[which]? = some mover)
    (drawn : ∀ index < taken, shuffles (session.drawn + index) = own index) (number : Nat)
    (rest : List Request) :
    given provider shuffles session (.next which taken :: rest) number =
      (if which = number then (mover.take taken own).1 else []) ++
        given provider shuffles (session.advanced which taken (mover.take taken own).2) rest
          number := by
  have sameTake : mover.take taken (fun index => shuffles (session.drawn + index)) =
      mover.take taken own := Stream.take_congr_below drawn
  rw [given_cons, answer_next_of_some moved, takeFrom, sameTake]
  rfl

/-- A request for servers of a stream that is not open gives nothing and changes nothing. -/
theorem given_next_of_none {shuffles : Nat → Shuffle} {which : Nat}
    (unopened : session.streams[which]? = none) (taken number : Nat) (rest : List Request) :
    given provider shuffles session (.next which taken :: rest) number =
      given provider shuffles session rest number := by
  rw [given_cons, answer_next_of_none unopened]
  rfl

/-- Whatever each stream draws alone, a run can draw it for all of them at once. What was drawn
before the run does not matter, which the induction needs to put the draws of its first request in
front. -/
theorem exists_shuffles (session : Session) (front : Nat → Shuffle) (drawn : Nat → Nat → Shuffle)
    (nexts : ∀ request ∈ requests, request.isNext = true) :
    ∃ shuffles, (∀ index < session.drawn, shuffles index = front index) ∧
      ∀ number stream, session.streams[number]? = some stream →
        given provider shuffles session requests number =
          (stream.take (askedFrom number requests) (drawn number)).1 := by
  induction requests generalizing session front drawn with
  | nil => exact ⟨front, fun _ _ => rfl, fun _ _ _ => rfl⟩
  | cons request rest inductionHypothesis =>
      obtain ⟨requestNext, restNexts⟩ := List.forall_mem_cons.1 nexts
      obtain ⟨which, taken, rfl⟩ := Request.eq_next_of_isNext requestNext
      cases moved : session.streams[which]? with
      | none =>
          obtain ⟨shuffles, before, gives⟩ :=
            inductionHypothesis session front drawn restNexts
          refine ⟨shuffles, before, ?_⟩
          intro number stream isOpen
          have different : which ≠ number := by
            rintro rfl
            rw [moved] at isOpen
            contradiction
          rw [given_next_of_none provider moved, gives number stream isOpen, askedFrom_cons, asked,
            if_neg different, Nat.zero_add]
      | some mover =>
          obtain ⟨inRange, _⟩ := List.getElem?_eq_some_iff.1 moved
          let after := (mover.take taken (drawn which)).2
          obtain ⟨shuffles, before, gives⟩ := inductionHypothesis
            (session.advanced which taken after) (drawnBehind session.drawn front (drawn which))
            (Function.update drawn which fun index => drawn which (taken + index)) restNexts
          have drawnHere : ∀ index < taken,
              shuffles (session.drawn + index) = drawn which index := by
            intro index below
            rw [before _ (Nat.add_lt_add_left below session.drawn), drawnBehind_add]
          refine ⟨shuffles, ?_, ?_⟩
          · intro index below
            rw [before index (Nat.lt_add_right taken below), drawnBehind_of_lt _ _ below]
          · intro number stream isOpen
            rw [given_next_of_drawn provider moved drawnHere, askedFrom_cons, asked]
            by_cases same : which = number
            · subst same
              obtain rfl := Option.some.inj (moved.symm.trans isOpen)
              rw [gives which after (List.getElem?_set_self inRange), Function.update_self,
                if_pos rfl, if_pos rfl, Stream.take_add]
            · have stillOpen : (session.streams.set which after)[number]? = some stream :=
                (List.getElem?_set_ne same).trans isOpen
              rw [gives number stream stillOpen, Function.update_of_ne (Ne.symm same),
                if_neg same, if_neg same, Nat.zero_add, List.nil_append]

/-- Whether two open streams are independent: in every interleaving of steps, what they can give
together is whatever the one and whatever the other can give alone. -/
def AreIndependent (session : Session) (number other : Nat) (left right : Stream) : Prop :=
  ∀ requests : List Request, (∀ request ∈ requests, request.isNext = true) →
    ∀ fromLeft fromRight,
      (∃ draws, given provider draws session requests number = fromLeft ∧
          given provider draws session requests other = fromRight) ↔
        (∃ alone, (left.take (askedFrom number requests) alone).1 = fromLeft) ∧
          ∃ alone, (right.take (askedFrom other requests) alone).1 = fromRight

theorem areIndependent_of_ne {number other : Nat} {left right : Stream}
    (different : number ≠ other) (leftOpen : session.streams[number]? = some left)
    (rightOpen : session.streams[other]? = some right) :
    AreIndependent provider session number other left right := by
  intro requests nexts fromLeft fromRight
  have visible : ∀ request ∈ requests, request.hidesSteps = false :=
    fun request member => visible_of_isNext (nexts request member)
  constructor
  · rintro ⟨draws, rfl, rfl⟩
    obtain ⟨leftDrawn, leftGiven⟩ := exists_drawn_of_open provider draws leftOpen visible
    obtain ⟨rightDrawn, rightGiven⟩ := exists_drawn_of_open provider draws rightOpen visible
    exact ⟨⟨leftDrawn, leftGiven.symm⟩, rightDrawn, rightGiven.symm⟩
  · rintro ⟨⟨leftDrawn, rfl⟩, rightDrawn, rfl⟩
    obtain ⟨draws, _, gives⟩ := exists_shuffles provider session (fun _ => .keep)
      (Function.update (fun _ => rightDrawn) number leftDrawn) nexts
    refine ⟨draws, ?_, ?_⟩
    · rw [gives number left leftOpen, Function.update_self]
    · rw [gives other right rightOpen, Function.update_of_ne (Ne.symm different)]

/-! ### Starts -/

/-- Advancing and duplicating streams leaves every source where it stands. -/
theorem starts_run (draws : Nat → Shuffle) (choice : Choice)
    (moves : ∀ request ∈ requests, request.isNextOrDuplicate = true) :
    (run draws provider session requests).2.starts choice = session.starts choice := by
  induction requests generalizing session with
  | nil => rfl
  | cons request rest inductionHypothesis =>
      obtain ⟨requestMoves, restMoves⟩ := List.forall_mem_cons.1 moves
      have visible : request.hidesSteps = false := by
        cases request <;> first | rfl | contradiction
      have opensNothing : opens provider choice request = false := by
        cases request <;> first | rfl | contradiction
      have here := starts_answer_of_not_opens draws session visible opensNothing
      exact (inductionHypothesis restMoves).trans here

/-- Where a source in turn starts depends on its place alone. -/
theorem openChoice_roundRobin_congr {first second : Session} {choice : Choice}
    (sameStart : first.starts choice = second.starts choice) (servers : List Endpoint)
    (firstDraws secondDraws : Nat → Shuffle) :
    (first.openChoice firstDraws choice (.ofServers .roundRobin servers)).1 =
      (second.openChoice secondDraws choice (.ofServers .roundRobin servers)).1 := by
  have fixed : Order.roundRobin ≠ .random := by decide
  let source := Source.ofServers .roundRobin servers
  have sameStream : source.openStream (second.starts choice) (firstDraws first.drawn) =
      source.openStream (second.starts choice) (secondDraws second.drawn) :=
    Source.openStream_congr fixed _ _ _
  simp only [openChoice, sameStart, source, sameStream]

/-- Whether a session, however its streams are advanced and duplicated, opens the next stream of
every source in turn where the session before does. -/
def LeavesStarts (before session : Session) : Prop :=
  ∀ requests : List Request, (∀ request ∈ requests, request.isNextOrDuplicate = true) →
    ∀ draws first second choice servers,
      ((run draws provider session requests).2.openChoice first choice
          (.ofServers .roundRobin servers)).1 =
        (before.openChoice second choice (.ofServers .roundRobin servers)).1

theorem leavesStarts_of_starts_eq {before : Session} (sameStarts : session.starts = before.starts) :
    LeavesStarts provider before session := by
  intro requests moves draws first second choice servers
  have unmoved : (run draws provider session requests).2.starts choice = before.starts choice := by
    rw [starts_run provider draws choice moves, sameStarts]
  exact openChoice_roundRobin_congr unmoved servers first second

/-! ### Duplicates -/

/-- Servers that are drawn already are given whatever the other streams draw. -/
theorem given_of_isDrawn {order : Order} {servers : List Endpoint} {count number : Nat}
    {stream : Stream} (reached : (Source.ofServers order servers).Reaches count stream)
    (isOpen : session.streams[number]? = some stream)
    (nexts : ∀ request ∈ requests, request.isNext = true)
    (drawn : Source.IsDrawn order servers count (askedFrom number requests))
    (draws alone : Nat → Shuffle) :
    given provider draws session requests number =
      (stream.take (askedFrom number requests) alone).1 := by
  have visible : ∀ request ∈ requests, request.hidesSteps = false :=
    fun request member => visible_of_isNext (nexts request member)
  obtain ⟨own, givenAlone⟩ := exists_drawn_of_open provider draws isOpen visible
  rw [givenAlone]
  exact Source.take_of_isDrawn reached drawn own alone

theorem answer_duplicate_of_some (shuffles : Nat → Shuffle) {number : Nat} {stream : Stream}
    (isOpen : session.streams[number]? = some stream) :
    session.answer shuffles provider (.duplicate number) =
      (.duplicated session.streams.length stream.duplicate, session.hand stream.duplicate) := by
  simp only [answer, answerStreams, withStream, isOpen]

/-- **Duplicated streams go on and are independent.** A duplicate is handed out of any stream that a
source reaches by steps and duplications. It gives the same servers as its original whatever is
drawn later: for ever in a fixed order, and up to the end of the current pass in random order, which
behind a whole number of passes is the whole next one. In every interleaving of steps both streams
give these servers as if they were alone, and whatever is drawn behind them, what the two can give
together is what each can give alone. Neither duplicating nor advancing moves the place where a
source starts its next stream in turn. -/
theorem duplicate_goesOn (shuffles : Nat → Shuffle) {order : Order} {servers : List Endpoint}
    {count : Nat} {stream : Stream}
    (reached : (Source.ofServers order servers).Reaches count stream) {session : Session}
    {number : Nat} (isOpen : session.streams[number]? = some stream) :
    ∃ copy later,
      session.answer shuffles provider (.duplicate number) =
          (.duplicated session.streams.length copy, later) ∧
        (∀ taken, Source.IsDrawn order servers count taken → ∀ first second,
          (copy.take taken first).1 = (stream.take taken second).1) ∧
        (∀ requests : List Request, (∀ request ∈ requests, request.isNext = true) →
          ∀ which ∈ [number, session.streams.length],
            Source.IsDrawn order servers count (askedFrom which requests) → ∀ draws alone,
              given provider draws later requests which =
                (stream.take (askedFrom which requests) alone).1) ∧
        AreIndependent provider later number session.streams.length stream copy ∧
        LeavesStarts provider session later := by
  obtain ⟨inRange, _⟩ := List.getElem?_eq_some_iff.1 isOpen
  have originalOpen : (session.hand stream.duplicate).streams[number]? = some stream :=
    (List.getElem?_append_left inRange).trans isOpen
  have copyOpen : (session.hand stream.duplicate).streams[session.streams.length]? =
      some stream.duplicate := List.getElem?_concat_length
  refine ⟨stream.duplicate, session.hand stream.duplicate,
    answer_duplicate_of_some provider shuffles isOpen, ?_, ?_, ?_, ?_⟩
  · intro taken drawn first second
    rw [Stream.take_duplicate]
    exact Source.take_of_isDrawn reached drawn first second
  · intro requests nexts which isEither drawn draws alone
    rcases List.mem_pair.1 isEither with rfl | rfl
    · exact given_of_isDrawn provider reached originalOpen nexts drawn draws alone
    · rw [given_of_isDrawn provider reached.duplicate copyOpen nexts drawn draws alone,
        Stream.take_duplicate]
  · exact areIndependent_of_ne provider (Nat.ne_of_lt inRange) originalOpen copyOpen
  · exact leavesStarts_of_starts_eq provider rfl

/-- Two servers in random order. -/
def randomPair : ServerProvider where
  default := some (.ofServers .random pairedServers)
  overrides := .empty
  options := {}
  searchDomains := []

/-- Behind one pass of two servers in random order, the original goes once around before the copy
takes its second server, and both give the pass that was drawn at the end of the first one. -/
theorem duplicate_goesOn_met :
    (Source.ofServers .random pairedServers).Reaches 2 (.shuffled pairedServers .keep) ∧
      ∀ draws, ∀ which ∈ [0, 1],
        given randomPair draws
            (answer ⟨fun _ => 0, [.shuffled pairedServers .keep], 3⟩ draws randomPair
              (.duplicate 0)).2
            [.next 1 1, .next 0 2, .next 1 1] which =
          pairedServers := by
  have opened : (Source.ofServers .random pairedServers).Reaches 0
      (.shuffled pairedServers .keep) := .opened 0 .keep
  have first : Stream.next (.shuffled pairedServers .keep) .keep =
      some (⟨.v4 ⟨10, 0, 0, 1⟩, dnsPort⟩, ⟨pairedServers, 1, true, by decide⟩) := rfl
  have second : Stream.next ⟨pairedServers, 1, true, by decide⟩ .keep =
      some (⟨.v4 ⟨10, 0, 0, 2⟩, dnsPort⟩, .shuffled pairedServers .keep) := rfl
  have reached := (opened.next first).next second
  refine ⟨reached, ?_⟩
  intro draws which isEither
  let session : Session := ⟨fun _ => 0, [.shuffled pairedServers .keep], 3⟩
  have isOpen : session.streams[0]? = some (.shuffled pairedServers .keep) := rfl
  obtain ⟨_, later, answered, _, alone, _, _⟩ :=
    duplicate_goesOn randomPair draws reached isOpen
  have askedBoth : askedFrom which [.next 1 1, .next 0 2, .next 1 1] = 2 := by
    rcases List.mem_pair.1 isEither with rfl | rfl <;> rfl
  have drawn : Source.IsDrawn .random pairedServers 2
      (askedFrom which [.next 1 1, .next 0 2, .next 1 1]) := by
    rw [askedBoth]
    decide
  have given := alone [.next 1 1, .next 0 2, .next 1 1] (by decide) which isEither drawn draws
    fun _ => .keep
  rw [askedBoth] at given
  rw [answered]
  exact given

end Session

end HostResolver.Provider
