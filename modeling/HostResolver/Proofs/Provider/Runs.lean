import HostResolver.Provider.Session
import HostResolver.Proofs.Servers.Passes
import Mathlib.Algebra.GroupWithZero.Nat

/-!
Runs of a session.

Owns: the transcript of a run, also of one in two parts, that streams stay open, and that an open
stream moves by the requests that take from it and by no other request.

Does not own: where a stream starts.
-/

namespace HostResolver.Provider

open HostResolver.Address HostResolver.Servers

/-- Whether a request opens a stream that no caller gets, or takes servers that no caller sees. -/
def Request.hidesSteps : Request → Bool
  | .mayOverride | .agree .. => true
  | _ => false

namespace Session

variable {shuffles : Nat → Shuffle} {provider : ServerProvider}

/-! ### Transcripts -/

/-- The requests of a run with their replies. -/
def transcript (shuffles : Nat → Shuffle) (provider : ServerProvider) (session : Session)
    (requests : List Request) : List (Request × Reply) :=
  requests.zip (run shuffles provider session requests).1

theorem transcript_cons (session : Session) (request : Request) (rest : List Request) :
    transcript shuffles provider session (request :: rest) =
      (request, (session.answer shuffles provider request).1) ::
        transcript shuffles provider (session.answer shuffles provider request).2 rest := rfl

theorem transcript_append (session : Session) (first second : List Request) :
    transcript shuffles provider session (first ++ second) =
      transcript shuffles provider session first ++
        transcript shuffles provider (run shuffles provider session first).2 second := by
  induction first generalizing session with
  | nil => rfl
  | cons request rest inductionHypothesis =>
      rw [List.cons_append, transcript_cons, transcript_cons, inductionHypothesis]
      rfl

theorem length_transcript (session : Session) (requests : List Request) :
    (transcript shuffles provider session requests).length = requests.length := by
  induction requests generalizing session with
  | nil => rfl
  | cons request rest inductionHypothesis =>
      rw [transcript_cons, List.length_cons, inductionHypothesis, List.length_cons]

/-! ### One request -/

theorem answer_openFor_of_none {session : Session} {host : String}
    (missing : provider.source? (provider.choose host) = none) :
    session.answer shuffles provider (.openFor host) = (.noSource, session) := by
  simp only [answer, missing]

theorem answer_openFor_of_some {session : Session} {host : String} {source : Source}
    (found : provider.source? (provider.choose host) = some source) :
    session.answer shuffles provider (.openFor host) =
      (.opened session.streams.length
          (session.openChoice shuffles (provider.choose host) source).1,
        (session.openChoice shuffles (provider.choose host) source).2.hand
          (session.openChoice shuffles (provider.choose host) source).1) := by
  simp only [answer, found]

theorem answer_next_of_none {session : Session} {number : Nat}
    (unopened : session.streams[number]? = none) (count : Nat) :
    session.answer shuffles provider (.next number count) = (.noSuchStream, session) := by
  simp only [answer, answerStreams, withStream, unopened]

theorem answer_next_of_some {session : Session} {number : Nat} {stream : Stream}
    (isOpen : session.streams[number]? = some stream) (count : Nat) :
    session.answer shuffles provider (.next number count) =
      (.taken stream (session.takeFrom shuffles number count stream).1
          (count - (session.takeFrom shuffles number count stream).1.length),
        (session.takeFrom shuffles number count stream).2) := by
  simp only [answer, answerStreams, withStream, isOpen]

/-- The servers that a reply hands out from the stream of a number. -/
def givenBy (number : Nat) : Request × Reply → List Endpoint
  | (.next other _, .taken _ servers _) => if other = number then servers else []
  | _ => []

/-- The count of servers that a request asks for from the stream of a number. -/
def asked (number : Nat) : Request → Nat
  | .next other count => if other = number then count else 0
  | _ => 0

theorem givenBy_noSuchStream (number : Nat) (request : Request) :
    givenBy number (request, .noSuchStream) = [] := by
  cases request <;> rfl

/-- What a request leaves that takes from no open stream: more streams may be open than before. -/
structure KeepsStreams (before : Session) (request : Request) (answered : Reply × Session) :
    Prop where
  given : ∀ number, givenBy number (request, answered.1) = []
  unasked : ∀ number, number < before.streams.length → asked number request = 0
  streams : ∃ added, answered.2.streams = before.streams ++ added

theorem keepsStreams_withStream {session : Session} {request : Request} (number : Nat)
    {reply : Stream → Reply × Session}
    (unasked : ∀ other, other < session.streams.length → asked other request = 0)
    (answered : ∀ stream, KeepsStreams session request (reply stream)) :
    KeepsStreams session request (session.withStream number reply) := by
  unfold withStream
  cases session.streams[number]? with
  | none =>
      refine ⟨fun other => givenBy_noSuchStream other request, unasked, [], ?_⟩
      exact (List.append_nil _).symm
  | some stream => exact answered stream

variable (shuffles provider)

/-- **What a request does to the open streams**, if it hides no steps: it takes from one of them, or
it keeps them all. -/
theorem takes_or_keeps (session : Session) {request : Request}
    (visible : request.hidesSteps = false) :
    (∃ number count stream, request = .next number count ∧
        session.streams[number]? = some stream ∧
        session.answer shuffles provider request =
          (.taken stream (session.takeFrom shuffles number count stream).1
            (count - (session.takeFrom shuffles number count stream).1.length),
            (session.takeFrom shuffles number count stream).2)) ∨
      KeepsStreams session request (session.answer shuffles provider request) := by
  have unchanged : ∃ added, session.streams = session.streams ++ added :=
    ⟨[], (List.append_nil _).symm⟩
  cases request with
  | openFor host =>
      refine Or.inr ?_
      cases found : provider.source? (provider.choose host) with
      | none =>
          rw [answer_openFor_of_none found]
          exact ⟨fun _ => rfl, fun _ _ => rfl, unchanged⟩
      | some source =>
          rw [answer_openFor_of_some found]
          exact ⟨fun _ => rfl, fun _ _ => rfl, _, rfl⟩
  | resolve host => exact Or.inr ⟨fun _ => rfl, fun _ _ => rfl, unchanged⟩
  | searchDomains => exact Or.inr ⟨fun _ => rfl, fun _ _ => rfl, unchanged⟩
  | next number count =>
      cases isOpen : session.streams[number]? with
      | some stream =>
          exact Or.inl ⟨number, count, stream, rfl, isOpen, answer_next_of_some isOpen count⟩
      | none =>
          rw [answer_next_of_none isOpen]
          refine Or.inr ⟨fun _ => rfl, ?_, unchanged⟩
          intro other below
          have beyond := List.getElem?_eq_none_iff.1 isOpen
          exact if_neg (by omega)
  | duplicate number =>
      refine Or.inr (keepsStreams_withStream number (fun _ _ => rfl) fun stream => ?_)
      exact ⟨fun _ => rfl, fun _ _ => rfl, _, rfl⟩
  | length number =>
      refine Or.inr (keepsStreams_withStream number (fun _ _ => rfl) fun stream => ?_)
      exact ⟨fun _ => rfl, fun _ _ => rfl, unchanged⟩
  | describe number =>
      refine Or.inr (keepsStreams_withStream number (fun _ _ => rfl) fun stream => ?_)
      exact ⟨fun _ => rfl, fun _ _ => rfl, unchanged⟩
  | mayOverride => exact nomatch visible
  | agree first second count => exact nomatch visible

/-- An open stream moves by what is asked for from it, and hands that out. -/
theorem stream_of_answer {session : Session} {number : Nat} {stream : Stream}
    (isOpen : session.streams[number]? = some stream) {request : Request}
    (visible : request.hidesSteps = false) :
    ∃ drawn : Nat → Shuffle,
      givenBy number (request, (session.answer shuffles provider request).1) =
          (stream.take (asked number request) drawn).1 ∧
        (session.answer shuffles provider request).2.streams[number]? =
          some (stream.take (asked number request) drawn).2 := by
  obtain ⟨below, _⟩ := List.getElem?_eq_some_iff.1 isOpen
  rcases takes_or_keeps shuffles provider session visible with
    ⟨other, count, another, rfl, otherOpen, answered⟩ | keeps
  · refine ⟨fun index => shuffles (session.drawn + index), ?_⟩
    rw [answered]
    by_cases same : other = number
    · subst same
      obtain rfl := Option.some.inj (isOpen.symm.trans otherOpen)
      simp only [givenBy, asked, takeFrom, if_true, true_and]
      exact List.getElem?_set_self below
    · simp only [givenBy, asked, takeFrom, if_neg same, Stream.take, true_and]
      rw [List.getElem?_set_ne same, isOpen]
  · obtain ⟨added, streams⟩ := keeps.streams
    refine ⟨shuffles, ?_⟩
    rw [keeps.given, keeps.unasked number below, streams, List.getElem?_append_left below, isOpen]
    exact ⟨rfl, rfl⟩

theorem length_streams_le_answer (session : Session) {request : Request}
    (visible : request.hidesSteps = false) :
    session.streams.length ≤ (session.answer shuffles provider request).2.streams.length := by
  rcases takes_or_keeps shuffles provider session visible with
    ⟨number, count, stream, _, _, answered⟩ | keeps
  · rw [answered]
    simp only [takeFrom, List.length_set, Nat.le_refl]
  · obtain ⟨added, streams⟩ := keeps.streams
    rw [streams, List.length_append]
    omega

/-- A number that is not given to a stream yet hands nothing out. -/
theorem givenBy_unopened {session : Session} {number : Nat}
    (unopened : session.streams.length ≤ number) {request : Request}
    (visible : request.hidesSteps = false) :
    givenBy number (request, (session.answer shuffles provider request).1) = [] := by
  rcases takes_or_keeps shuffles provider session visible with
    ⟨other, count, stream, rfl, otherOpen, answered⟩ | keeps
  · obtain ⟨below, _⟩ := List.getElem?_eq_some_iff.1 otherOpen
    have different : other ≠ number := by omega
    rw [answered]
    exact if_neg different
  · exact keeps.given number

/-! ### One stream in a run -/

theorem length_streams_le_run (session : Session) {requests : List Request}
    (visible : ∀ request ∈ requests, request.hidesSteps = false) :
    session.streams.length ≤ (run shuffles provider session requests).2.streams.length := by
  induction requests generalizing session with
  | nil => exact Nat.le_refl _
  | cons request rest inductionHypothesis =>
      obtain ⟨requestVisible, restVisible⟩ := List.forall_mem_cons.1 visible
      exact (length_streams_le_answer shuffles provider session requestVisible).trans
        (inductionHypothesis _ restVisible)

theorem given_before_opening {session : Session} {number : Nat} {requests : List Request}
    (visible : ∀ request ∈ requests, request.hidesSteps = false)
    (unopened : (run shuffles provider session requests).2.streams.length ≤ number) :
    (transcript shuffles provider session requests).flatMap (givenBy number) = [] := by
  induction requests generalizing session with
  | nil => rfl
  | cons request rest inductionHypothesis =>
      obtain ⟨requestVisible, restVisible⟩ := List.forall_mem_cons.1 visible
      have opened := length_streams_le_run shuffles provider session visible
      have nothing :=
        givenBy_unopened shuffles provider (opened.trans unopened) requestVisible
      rw [transcript_cons, List.flatMap_cons, nothing, inductionHypothesis restVisible unopened]
      rfl

/-- **An open stream in a run.** A stream that keeps its list hands out what as many steps of it
give as are asked for, whatever else happens in the run. -/
theorem given_of_open {session : Session} {number : Nat} {stream : Stream}
    (isOpen : session.streams[number]? = some stream) (keeps : stream.shuffles = false)
    (nonempty : stream.servers ≠ []) {requests : List Request}
    (visible : ∀ request ∈ requests, request.hidesSteps = false) (drawn : Nat → Shuffle) :
    (transcript shuffles provider session requests).flatMap (givenBy number) =
      (stream.take ((requests.map (asked number)).sum) drawn).1 := by
  induction requests generalizing session stream drawn with
  | nil => rfl
  | cons request rest inductionHypothesis =>
      obtain ⟨requestVisible, restVisible⟩ := List.forall_mem_cons.1 visible
      obtain ⟨drawnHere, given, stillOpen⟩ :=
        stream_of_answer shuffles provider isOpen requestVisible
      -- What was drawn here and is drawn later does not matter to a stream that keeps its list.
      rw [Stream.take_congr_of_keeps keeps _ drawnHere drawn] at given stillOpen
      obtain ⟨sameServers, stillKeeps, _⟩ :=
        Stream.take_of_keeps keeps nonempty (asked number request) drawn
      have later := inductionHypothesis stillOpen stillKeeps
        (Stream.nonempty_take nonempty _ drawn) restVisible fun index =>
          drawn (asked number request + index)
      rw [transcript_cons, List.flatMap_cons, List.map_cons, List.sum_cons, Stream.take_add,
        given, later]

end Session

end HostResolver.Provider
