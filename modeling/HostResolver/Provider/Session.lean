import HostResolver.Provider.Lookup

/-!
Sessions: the use of one provider by its callers.

This module owns what changes while a provider is used, since the provider itself never does: the
place where the next stream of each source starts, the streams that are open, and how many
permutations were drawn. It owns the requests that callers make and their replies.

Asking whether any server is known opens a stream of the default source when there are no overrides.
-/

namespace HostResolver.Provider

open HostResolver.Address HostResolver.Servers

/-- What changes while a provider is used. -/
structure Session where
  /-- Where the next stream of a source starts. -/
  starts : Choice → Nat
  /-- The streams in the order in which they were opened. -/
  streams : List Stream
  drawn : Nat

/-- What a caller asks for. -/
inductive Request where
  | openFor (host : String)
  /-- The source that answers for a host. -/
  | resolve (host : String)
  | mayOverride
  | searchDomains
  /-- The next servers of a stream. -/
  | next (stream count : Nat)
  /-- A second stream that goes on where a stream stands. -/
  | duplicate (stream : Nat)
  /-- The count of servers in one pass of a stream. -/
  | length (stream : Nat)
  /-- The list of a stream and its place in it. -/
  | describe (stream : Nat)
  /-- Whether two streams give the same servers, taken in turn. -/
  | agree (first second count : Nat)
deriving DecidableEq, Repr

/-- What a caller is told. -/
inductive Reply where
  | opened (number : Nat) (stream : Stream)
  | noSource
  | resolved (choice : Choice) (source : Option Source)
  | truth (value : Bool)
  | domains (names : List String)
  /-- The servers that were taken from a stream, which stood as given before; `missing` more were
  asked for. -/
  | taken (before : Stream) (servers : List Endpoint) (missing : Nat)
  | duplicated (number : Nat) (stream : Stream)
  | length (count : Nat)
  | described (stream : Stream)
  | agreed (answers : List Bool)
  /-- A stream that was to be compared gave no server. -/
  | exhausted
  /-- There is no stream of that number. -/
  | noSuchStream

namespace Session

def start : Session := ⟨fun _ => 0, [], 0⟩

/-- Opens a stream of a source without handing it to a caller. -/
def openChoice (session : Session) (shuffles : Nat → Shuffle) (choice : Choice) (source : Source) :
    Stream × Session :=
  let opened := source.openStream (session.starts choice) (shuffles session.drawn)
  (opened.1,
    { session with
      starts := fun other => if other = choice then opened.2 else session.starts other
      drawn := session.drawn + 1 })

def hand (session : Session) (stream : Stream) : Session :=
  { session with streams := session.streams ++ [stream] }

def takeFrom (session : Session) (shuffles : Nat → Shuffle) (number count : Nat)
    (stream : Stream) : List Endpoint × Session :=
  let taken := stream.take count fun index => shuffles (session.drawn + index)
  (taken.1,
    { session with
      streams := session.streams.set number taken.2
      drawn := session.drawn + count })

/-- Takes one server from an open stream, if the stream exists and gives one. -/
def takeOne (session : Session) (shuffles : Nat → Shuffle) (number : Nat) :
    Option Endpoint × Session :=
  match session.streams[number]? with
  | none => (none, session)
  | some stream =>
    let taken := session.takeFrom shuffles number 1 stream
    (taken.1.head?, taken.2)

/-- Compares two streams server by server; nothing if one of them gives none. -/
def compare (shuffles : Nat → Shuffle) (first second : Nat) :
    Nat → Session → Option (List Bool) × Session
  | 0, session => (some [], session)
  | count + 1, session =>
    match session.takeOne shuffles first with
    | (none, session) => (none, session)
    | (some left, session) =>
      match session.takeOne shuffles second with
      | (none, session) => (none, session)
      | (some right, session) =>
        let rest := compare shuffles first second count session
        (rest.1.map (decide (left = right) :: ·), rest.2)

/-- Whether any server is known, and the session after a stream was opened to find out. -/
def mayOverride (session : Session) (shuffles : Nat → Shuffle) (provider : ServerProvider) :
    Bool × Session :=
  if !provider.overrides.isEmpty then (true, session)
  else
    match provider.default with
    | none => (false, session)
    | some source =>
      let opened := session.openChoice shuffles .default source
      ((opened.1.next (shuffles opened.2.drawn)).isSome,
        { opened.2 with drawn := opened.2.drawn + 1 })

/-- Answers a request about an open stream. -/
def withStream (session : Session) (number : Nat) (answer : Stream → Reply × Session) :
    Reply × Session :=
  match session.streams[number]? with
  | none => (.noSuchStream, session)
  | some stream => answer stream

/-- Answers a request that concerns open streams only. -/
def answerStreams (session : Session) (shuffles : Nat → Shuffle) :
    Request → Reply × Session
  | .next number count =>
    session.withStream number fun stream =>
      let taken := session.takeFrom shuffles number count stream
      (.taken stream taken.1 (count - taken.1.length), taken.2)
  | .duplicate number =>
    session.withStream number fun stream =>
      (.duplicated session.streams.length stream.duplicate, session.hand stream.duplicate)
  | .length number => session.withStream number fun stream => (.length stream.length, session)
  | .describe number => session.withStream number fun stream => (.described stream, session)
  | .agree first second count =>
    session.withStream first fun _ =>
      session.withStream second fun _ =>
        match compare shuffles first second count session with
        | (some answers, later) => (.agreed answers, later)
        | (none, later) => (.exhausted, later)
  | _ => (.noSuchStream, session)

def answer (session : Session) (shuffles : Nat → Shuffle) (provider : ServerProvider)
    (request : Request) : Reply × Session :=
  match request with
  | .openFor host =>
    let choice := provider.choose host
    match provider.source? choice with
    | none => (.noSource, session)
    | some source =>
      let opened := session.openChoice shuffles choice source
      (.opened session.streams.length opened.1, opened.2.hand opened.1)
  | .resolve host =>
    let choice := provider.choose host
    (.resolved choice (provider.source? choice), session)
  | .mayOverride =>
    let answered := session.mayOverride shuffles provider
    (.truth answered.1, answered.2)
  | .searchDomains => (.domains provider.searchDomains, session)
  | request => session.answerStreams shuffles request

def run (shuffles : Nat → Shuffle) (provider : ServerProvider) :
    Session → List Request → List Reply × Session
  | session, [] => ([], session)
  | session, request :: requests =>
    let answered := session.answer shuffles provider request
    let rest := run shuffles provider answered.2 requests
    (answered.1 :: rest.1, rest.2)

end Session

/-! ## Passes -/

/-- Cuts servers into whole passes of `size + 1` servers, and what is left. -/
def cutPasses (size : Nat) (servers : List Endpoint) : List (List Endpoint) × List Endpoint :=
  if size < servers.length then
    let rest := cutPasses size (servers.drop (size + 1))
    (servers.take (size + 1) :: rest.1, rest.2)
  else ([], servers)
termination_by servers.length
decreasing_by simp only [List.length_drop]; omega

/-- The passes of a stream that are finished by servers taken from it, and the servers of the pass
after them. -/
def finishedPasses (before : Stream) (taken : List Endpoint) :
    List (List Endpoint) × List Endpoint :=
  cutPasses (before.length - 1) (before.passed ++ taken)

end HostResolver.Provider
