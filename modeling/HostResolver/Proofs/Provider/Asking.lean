import HostResolver.Proofs.Provider.Starting
import HostResolver.Proofs.Provider.Turns

/-!
Asking a provider whether it knows any server.

Owns: that sessions which differ in what was drawn only are told the same, as long as the order is
fixed, and from it when the replies of a run, or of a run behind a start, show whether the provider
was asked: exactly if that opened a stream of servers that take turns.

Does not own: providers in random order, whose streams depend on what was drawn.
-/

namespace HostResolver.Servers

variable {order : Order} {servers : List Address.Endpoint}

theorem Source.openStream_congr (fixed : order ≠ .random) (start : Nat) (first second : Shuffle) :
    (ofServers order servers).openStream start first =
      (ofServers order servers).openStream start second := by
  by_cases single : servers.length = 1
  · simp only [ofServers, openStream, single, if_true]
  · cases order with
    | random => exact absurd rfl fixed
    | failover => simp only [ofServers, openStream, single, if_false]
    | roundRobin => simp only [ofServers, openStream, single, if_false]

/-- Only servers that take turns remember that a stream was opened. -/
theorem Source.start_openStream (unturned : order ≠ .roundRobin ∨ servers.length = 1) (start : Nat)
    (shuffle : Shuffle) : ((ofServers order servers).openStream start shuffle).2 = start := by
  by_cases single : servers.length = 1
  · simp only [ofServers, openStream, single, if_true]
  · cases order with
    | random => simp only [ofServers, openStream, single, if_false]
    | failover => simp only [ofServers, openStream, single, if_false]
    | roundRobin => exact absurd rfl (unturned.resolve_right single)

theorem Stream.keeps_take {stream : Stream} (keeps : stream.shuffles = false) (count : Nat)
    (shuffles : Nat → Shuffle) : (stream.take count shuffles).2.shuffles = false := by
  by_cases empty : stream.servers = []
  · rw [take_of_empty empty]
    exact keeps
  · exact (take_of_keeps keeps empty count shuffles).2.1

theorem Stream.isSome_next_congr (stream : Stream) (first second : Shuffle) :
    (stream.next first).isSome = (stream.next second).isSome := by
  by_cases empty : stream.servers = []
  · rw [next_of_empty empty, next_of_empty empty]
  · obtain ⟨_, _, firstStep, _⟩ := exists_step empty first
    obtain ⟨_, _, secondStep, _⟩ := exists_step empty second
    rw [firstStep, secondStep]
    rfl

end HostResolver.Servers

namespace HostResolver.Provider

open HostResolver.Address HostResolver.Config HostResolver.Document HostResolver.Files
  HostResolver.Servers

/-- Whether a request only asks if any server is known. -/
def Request.isQuery (request : Request) : Bool := decide (request = .mayOverride)

namespace Session

/-! ### Sessions that look alike -/

/-- Whether two sessions differ in how much was drawn only, with streams that keep their lists. -/
structure Alike (first second : Session) : Prop where
  starts : first.starts = second.starts
  streams : first.streams = second.streams
  keeps : ∀ stream ∈ first.streams, stream.shuffles = false

/-- Two answers that tell the same and leave sessions that look alike. -/
structure SameAnswer {α : Type} (first second : α × Session) : Prop where
  reply : first.1 = second.1
  later : Alike first.2 second.2

theorem SameAnswer.split {α : Type} {first second : α × Session} (same : SameAnswer first second) :
    ∃ value firstLater secondLater, first = (value, firstLater) ∧ second = (value, secondLater) ∧
      Alike firstLater secondLater := by
  refine ⟨first.1, first.2, second.2, rfl, ?_, same.later⟩
  rw [same.reply]

theorem alike_start : Alike start start := ⟨rfl, rfl, nofun⟩

variable {first second : Session}

theorem Alike.hand (alike : Alike first second) {stream : Stream}
    (keeps : stream.shuffles = false) : Alike (first.hand stream) (second.hand stream) := by
  refine ⟨alike.starts, ?_, ?_⟩
  · exact congrArg (· ++ [stream]) alike.streams
  · intro other member
    rcases List.mem_append.1 member with member | member
    · exact alike.keeps other member
    · rw [List.mem_singleton.1 member]
      exact keeps

variable (shuffles : Nat → Shuffle)

theorem sameAnswer_takeFrom (alike : Alike first second) {number : Nat} {stream : Stream}
    (isOpen : first.streams[number]? = some stream) (count : Nat) :
    SameAnswer (first.takeFrom shuffles number count stream)
      (second.takeFrom shuffles number count stream) := by
  have keeps := alike.keeps stream (List.mem_of_getElem? isOpen)
  have taken := Stream.take_congr_of_keeps keeps count
    (fun index => shuffles (first.drawn + index)) (fun index => shuffles (second.drawn + index))
  have servers := congrArg Prod.fst taken
  refine ⟨servers, alike.starts, ?_, ?_⟩
  · unfold takeFrom
    simp only [alike.streams, taken]
  · intro other member
    rcases List.mem_or_eq_of_mem_set member with member | rfl
    · exact alike.keeps other member
    · exact Stream.keeps_take keeps count _

theorem sameAnswer_takeOne (alike : Alike first second) (number : Nat) :
    SameAnswer (first.takeOne shuffles number) (second.takeOne shuffles number) := by
  unfold takeOne
  rw [← alike.streams]
  cases isOpen : first.streams[number]? with
  | none => exact ⟨rfl, alike⟩
  | some stream =>
      have taken := sameAnswer_takeFrom shuffles alike isOpen 1
      exact ⟨congrArg List.head? taken.reply, taken.later⟩

theorem sameAnswer_compare (alike : Alike first second) (left right count : Nat) :
    SameAnswer (compare shuffles left right count first)
      (compare shuffles left right count second) := by
  induction count generalizing first second with
  | zero => exact ⟨rfl, alike⟩
  | succ count inductionHypothesis =>
      obtain ⟨leftServer, firstLater, secondLater, firstTaken, secondTaken, later⟩ :=
        (sameAnswer_takeOne shuffles alike left).split
      -- Both are given the same servers, so both stop at the same step or at none.
      unfold compare
      rw [firstTaken, secondTaken]
      cases leftServer with
      | none => exact ⟨rfl, later⟩
      | some leftServer =>
          obtain ⟨rightServer, firstLast, secondLast, firstAgain, secondAgain, last⟩ :=
            (sameAnswer_takeOne shuffles later right).split
          dsimp only
          rw [firstAgain, secondAgain]
          cases rightServer with
          | none => exact ⟨rfl, last⟩
          | some rightServer =>
              have rest := inductionHypothesis last
              exact ⟨congrArg (Option.map (decide (leftServer = rightServer) :: ·)) rest.reply,
                rest.later⟩

theorem sameAnswer_withStream (alike : Alike first second) (number : Nat)
    {firstReply secondReply : Stream → Reply × Session}
    (answered : ∀ stream, first.streams[number]? = some stream →
      SameAnswer (firstReply stream) (secondReply stream)) :
    SameAnswer (first.withStream number firstReply) (second.withStream number secondReply) := by
  unfold withStream
  rw [← alike.streams]
  cases isOpen : first.streams[number]? with
  | none => exact ⟨rfl, alike⟩
  | some stream => exact answered stream isOpen

/-! ### One request -/

variable {provider : ServerProvider} {order : Order}

theorem sameAnswer_openChoice (fixed : order ≠ .random) (uses : UsesOrder provider order)
    (alike : Alike first second) {choice : Choice} {source : Source}
    (found : provider.source? choice = some source) :
    SameAnswer (first.openChoice shuffles choice source)
        (second.openChoice shuffles choice source) ∧
      (first.openChoice shuffles choice source).1.shuffles = false := by
  obtain ⟨_, ordered⟩ := uses choice source found
  have opened : source.openStream (second.starts choice) (shuffles first.drawn) =
      source.openStream (second.starts choice) (shuffles second.drawn) := by
    rw [ordered]
    exact Source.openStream_congr fixed _ _ _
  refine ⟨⟨?_, ?_, alike.streams, alike.keeps⟩, ?_⟩
  · unfold openChoice
    simp only [alike.starts, opened]
  · unfold openChoice
    simp only [alike.starts, opened]
  · obtain ⟨place, stream⟩ := Source.openStream_of_ne_random fixed source.servers
      (first.starts choice) (shuffles first.drawn)
    rw [← ordered] at stream
    rw [openChoice, stream]
    rfl

theorem sameAnswer_mayOverride (fixed : order ≠ .random) (uses : UsesOrder provider order)
    (alike : Alike first second) :
    SameAnswer (first.mayOverride shuffles provider) (second.mayOverride shuffles provider) := by
  by_cases empty : provider.overrides.isEmpty = true
  · cases defaulted : provider.default with
    | none =>
        rw [mayOverride_of_none shuffles empty defaulted,
          mayOverride_of_none shuffles empty defaulted]
        exact ⟨rfl, alike⟩
    | some source =>
        have found : provider.source? .default = some source := defaulted
        obtain ⟨opened, _⟩ := sameAnswer_openChoice shuffles fixed uses alike found
        rw [mayOverride_of_some shuffles empty defaulted,
          mayOverride_of_some shuffles empty defaulted, opened.reply]
        have sameTruth := Stream.isSome_next_congr
          (second.openChoice shuffles .default source).1
          (shuffles (first.openChoice shuffles .default source).2.drawn)
          (shuffles (second.openChoice shuffles .default source).2.drawn)
        exact ⟨sameTruth, opened.later.starts, opened.later.streams, opened.later.keeps⟩
  · rw [mayOverride_of_filled shuffles empty, mayOverride_of_filled shuffles empty]
    exact ⟨rfl, alike⟩

/-- **One request.** Sessions that look alike are told the same, and look alike afterwards. -/
theorem sameAnswer_answer (fixed : order ≠ .random) (uses : UsesOrder provider order)
    (alike : Alike first second) (request : Request) :
    SameAnswer (first.answer shuffles provider request)
      (second.answer shuffles provider request) := by
  cases request with
  | openFor host =>
      cases found : provider.source? (provider.choose host) with
      | none =>
          rw [answer_openFor_of_none found, answer_openFor_of_none found]
          exact ⟨rfl, alike⟩
      | some source =>
          obtain ⟨opened, keeps⟩ := sameAnswer_openChoice shuffles fixed uses alike found
          rw [answer_openFor_of_some found, answer_openFor_of_some found, alike.streams,
            ← opened.reply]
          exact ⟨rfl, opened.later.hand keeps⟩
  | resolve host => exact ⟨rfl, alike⟩
  | mayOverride =>
      have answered := sameAnswer_mayOverride shuffles fixed uses alike
      exact ⟨congrArg Reply.truth answered.reply, answered.later⟩
  | searchDomains => exact ⟨rfl, alike⟩
  | next number count =>
      apply sameAnswer_withStream alike number
      intro stream isOpen
      have taken := sameAnswer_takeFrom shuffles alike isOpen count
      dsimp only
      rw [taken.reply]
      exact ⟨rfl, taken.later⟩
  | duplicate number =>
      apply sameAnswer_withStream alike number
      intro stream isOpen
      rw [alike.streams]
      refine ⟨rfl, alike.hand ?_⟩
      rw [Stream.shuffles_duplicate]
      exact alike.keeps stream (List.mem_of_getElem? isOpen)
  | length number =>
      apply sameAnswer_withStream alike number
      intro stream _
      exact ⟨rfl, alike⟩
  | describe number =>
      apply sameAnswer_withStream alike number
      intro stream _
      exact ⟨rfl, alike⟩
  | agree left right count =>
      apply sameAnswer_withStream alike left
      intro _ _
      apply sameAnswer_withStream alike right
      intro _ _
      obtain ⟨answers, firstLater, secondLater, firstCompared, secondCompared, later⟩ :=
        (sameAnswer_compare shuffles alike left right count).split
      rw [firstCompared, secondCompared]
      cases answers with
      | none => exact ⟨rfl, later⟩
      | some answers => exact ⟨rfl, later⟩

/-! ### The query -/

/-- Whether asking a provider if it knows a server opens a stream of servers that take turns. -/
def TurnsWhenAsked (provider : ServerProvider) (order : Order) : Prop :=
  order = .roundRobin ∧ provider.overrides.isEmpty = true ∧
    ∃ source, provider.default = some source ∧ 2 ≤ source.servers.length

/-- **The query** changes nothing that shows, unless it turns the default source. -/
theorem alike_mayOverride (uses : UsesOrder provider order)
    (unturned : ¬TurnsWhenAsked provider order) (alike : Alike first second) :
    Alike (first.mayOverride shuffles provider).2 second := by
  by_cases empty : provider.overrides.isEmpty = true
  · cases defaulted : provider.default with
    | none =>
        rw [mayOverride_of_none shuffles empty defaulted]
        exact alike
    | some source =>
        obtain ⟨nonempty, ordered⟩ := uses .default source defaulted
        -- A source that turns would have two servers, since a built one is not empty.
        have stays : order ≠ .roundRobin ∨ source.servers.length = 1 := by
          by_contra turning
          rw [not_or, not_not] at turning
          have filled := List.length_pos_iff.2 nonempty
          have several : 2 ≤ source.servers.length := by omega
          exact unturned ⟨turning.1, empty, source, defaulted, several⟩
        have stood := Source.start_openStream stays (first.starts .default) (shuffles first.drawn)
        rw [← ordered] at stood
        have unmoved : (first.openChoice shuffles .default source).2.starts = first.starts := by
          funext choice
          by_cases same : choice = .default
          · subst same
            simp only [openChoice, if_true, stood]
          · exact starts_openChoice_of_ne shuffles same source
        rw [mayOverride_of_some shuffles empty defaulted]
        exact ⟨unmoved.trans alike.starts, alike.streams, alike.keeps⟩
  · rw [mayOverride_of_filled shuffles empty]
    exact alike

/-- Behind the query the next stream starts at the second server, without it at the first one. -/
theorem openFor_ne_of_turnsWhenAsked (uses : UsesOrder provider order)
    (turns : TurnsWhenAsked provider order) (host : String) :
    ((start.mayOverride shuffles provider).2.answer shuffles provider (.openFor host)).1 ≠
      (start.answer shuffles provider (.openFor host)).1 := by
  obtain ⟨rfl, empty, source, defaulted, several⟩ := turns
  have found : provider.source? .default = some source := defaulted
  have foundForHost : provider.source? (provider.choose host) = some source := by
    rw [choose_of_isEmpty empty, found]
  have nonempty : source.servers ≠ [] := by
    rw [← List.length_pos_iff]
    omega
  have unasked : IsBehind .default source start 0 := isBehind_start
  have asked : IsBehind .default source (start.mayOverride shuffles provider).2 1 := by
    have turned := (openChoice_of_isBehind shuffles uses found unasked).2
    rw [mayOverride_of_some shuffles empty defaulted]
    exact turned
  have second := (openChoice_of_isBehind shuffles uses found asked).1
  have first := (openChoice_of_isBehind shuffles uses found unasked).1
  rw [answer_openFor_of_some foundForHost, answer_openFor_of_some foundForHost,
    choose_of_isEmpty empty, second, first]
  intro same
  have positions := congrArg Stream.position (Reply.opened.inj same).2
  rw [Stream.position_startingAt nonempty, Stream.position_startingAt nonempty,
    Nat.mod_eq_of_lt several, Nat.zero_mod] at positions
  exact absurd positions Nat.one_ne_zero

/-! ### Runs -/

/-- The requests of a run that do more than ask whether any server is known, with their replies. -/
def besideQueries (entries : List (Request × Reply)) : List (Request × Reply) :=
  entries.filter fun entry => !entry.1.isQuery

theorem transcript_of_alike (fixed : order ≠ .random) (uses : UsesOrder provider order)
    (alike : Alike first second) (requests : List Request) :
    transcript shuffles provider first requests = transcript shuffles provider second requests := by
  induction requests generalizing first second with
  | nil => rfl
  | cons request rest inductionHypothesis =>
      have answered := sameAnswer_answer shuffles fixed uses alike request
      rw [transcript_cons, transcript_cons, answered.reply, inductionHypothesis answered.later]

/-- **A run** whose queries are left out is told the same beside them. -/
theorem besideQueries_of_alike (fixed : order ≠ .random) (uses : UsesOrder provider order)
    (unturned : ¬TurnsWhenAsked provider order) (alike : Alike first second)
    (requests : List Request) :
    besideQueries (transcript shuffles provider first requests) =
      transcript shuffles provider second (requests.filter fun request => !request.isQuery) := by
  induction requests generalizing first second with
  | nil => rfl
  | cons request rest inductionHypothesis =>
      unfold besideQueries at inductionHypothesis ⊢
      rw [transcript_cons, List.filter_cons, List.filter_cons]
      by_cases query : request = .mayOverride
      · subst query
        -- The query goes from the first run only, and leaves it alike to the second.
        have unchanged := alike_mayOverride shuffles uses unturned alike
        have answered :
            (first.answer shuffles provider .mayOverride).2 =
              (first.mayOverride shuffles provider).2 := rfl
        rw [answered]
        exact inductionHypothesis unchanged
      · have kept : request.isQuery = false := decide_eq_false query
        have answered := sameAnswer_answer shuffles fixed uses alike request
        simp only [kept, Bool.not_false, if_true]
        rw [transcript_cons, answered.reply, inductionHypothesis answered.later]

theorem besideQueries_iff (fixed : order ≠ .random) (uses : UsesOrder provider order) :
    (∀ requests, besideQueries (transcript shuffles provider start requests) =
        transcript shuffles provider start (requests.filter fun request => !request.isQuery)) ↔
      ¬TurnsWhenAsked provider order := by
  constructor
  · intro free turns
    have runs := free [.mayOverride, .openFor ""]
    have replies := congrArg (List.map Prod.snd) runs
    apply openFor_ne_of_turnsWhenAsked shuffles uses turns ""
    exact (List.cons.inj replies).1
  · intro unturned requests
    exact besideQueries_of_alike shuffles fixed uses unturned alike_start requests

theorem transcript_behind_mayOverride_iff (fixed : order ≠ .random)
    (uses : UsesOrder provider order) :
    (∀ requests, transcript shuffles provider (start.mayOverride shuffles provider).2 requests =
        transcript shuffles provider start requests) ↔
      ¬TurnsWhenAsked provider order := by
  constructor
  · intro same turns
    have runs := same [.openFor ""]
    have replies := congrArg (List.map Prod.snd) runs
    apply openFor_ne_of_turnsWhenAsked shuffles uses turns ""
    exact (List.cons.inj replies).1
  · intro unturned requests
    have unchanged := alike_mayOverride shuffles uses unturned alike_start
    exact transcript_of_alike shuffles fixed uses unchanged requests

/-- The session that a start leaves is that of the built provider behind one query. -/
theorem session_of_startSilently {tree : FileTree} {primary directory : Option String}
    {orderValue : Value} {environmentOptions : Option String} {session : Session}
    (active : (startSilently tree primary directory orderValue environmentOptions shuffles).1 =
      .active provider session) :
    (ServerProvider.ofPaths tree (primary.map Path.ofText) (directory.map Path.ofText) orderValue
        environmentOptions).1 = .ok provider ∧
      session = (start.mayOverride shuffles provider).2 := by
  rw [startSilently_eq] at active
  cases built : (ServerProvider.ofPaths tree (primary.map Path.ofText) (directory.map Path.ofText)
      orderValue environmentOptions).1 with
  | error error =>
      rw [built] at active
      exact nomatch active
  | ok other =>
      rw [built] at active
      cases known : (start.mayOverride shuffles other).1 with
      | false => simp [known] at active
      | true =>
          simp only [known, if_true] at active
          obtain ⟨rfl, rfl⟩ := Started.active.inj active
          exact ⟨rfl, rfl⟩

/-- **When asking is free.** With servers in a fixed order, the replies of every run are those of
the run without its queries, and a provider from a start replies like the one that is built from the
same paths, exactly if the query does not turn the default source. It does where servers take turns,
there are no overrides, and the default source has two servers at least. -/
theorem besideQueries_iff_not_turnsWhenAsked {tree : FileTree} {inputs : Inputs}
    (named : Order.ofValue? inputs.order = some order) (fixed : order ≠ .random)
    (built : (ServerProvider.build tree inputs).1 = .ok provider) :
    ((∀ requests, besideQueries (transcript shuffles provider start requests) =
        transcript shuffles provider start (requests.filter fun request => !request.isQuery)) ↔
      ¬TurnsWhenAsked provider order) ∧
      ∀ primary directory session,
        (startSilently tree primary directory inputs.order inputs.environmentOptions shuffles).1 =
            .active provider session →
          (ServerProvider.ofPaths tree (primary.map Path.ofText) (directory.map Path.ofText)
              inputs.order inputs.environmentOptions).1 = .ok provider ∧
            ((∀ requests, transcript shuffles provider session requests =
                transcript shuffles provider start requests) ↔
              ¬TurnsWhenAsked provider order) := by
  have uses := usesOrder_of_build named built
  refine ⟨besideQueries_iff shuffles fixed uses, ?_⟩
  intro primary directory session active
  obtain ⟨fromPaths, rfl⟩ := session_of_startSilently shuffles active
  exact ⟨fromPaths, transcript_behind_mayOverride_iff shuffles fixed uses⟩

/-- Servers that are tried in order: no run shows that the provider was asked, and none that it
comes from a start. -/
theorem besideQueries_iff_not_turnsWhenAsked_met :
    ∃ provider session,
      (ServerProvider.build pairedFiles (pairedInputs .failover)).1 = .ok provider ∧
        (startSilently pairedFiles (some "r") none (pairedInputs .failover).order none
          fun _ => .keep).1 = .active provider session ∧
        ∀ requests,
          besideQueries (transcript (fun _ => .keep) provider start requests) =
              transcript (fun _ => .keep) provider start
                (requests.filter fun request => !request.isQuery) ∧
            transcript (fun _ => .keep) provider session requests =
              transcript (fun _ => .keep) provider start requests := by
  obtain ⟨provider, built, found, _⟩ := build_pairedFiles .failover
  obtain ⟨ofRun, ofStart⟩ := besideQueries_iff_not_turnsWhenAsked (fun _ => .keep)
    (ofValue?_pairedInputs .failover) (by decide) built
  have unturned : ¬TurnsWhenAsked provider .failover := fun turns => nomatch turns.1
  have uses := usesOrder_of_build (ofValue?_pairedInputs .failover) built
  have known : (start.mayOverride (fun _ => .keep) provider).1 = true := by
    rw [← Bool.not_eq_false, mayOverride_eq_false_iff uses]
    intro unknown
    rw [unknown] at found
    contradiction
  have fromPaths : (ServerProvider.ofPaths pairedFiles (some (Path.ofText "r")) none
      (pairedInputs .failover).order none).1 = .ok provider := built
  have started : (startSilently pairedFiles (some "r") none (pairedInputs .failover).order none
      fun _ => .keep).1 = .active provider (start.mayOverride (fun _ => .keep) provider).2 := by
    rw [startSilently_eq, Option.map_some, Option.map_none, fromPaths]
    exact if_pos known
  refine ⟨provider, _, built, started, ?_⟩
  intro requests
  exact ⟨ofRun.2 unturned requests, (ofStart (some "r") none _ started).2.2 unturned requests⟩

/-- Two servers that take turns: the query does show. -/
theorem besideQueries_ne_of_pairedFiles :
    ∃ provider, (ServerProvider.build pairedFiles (pairedInputs .roundRobin)).1 = .ok provider ∧
      besideQueries (transcript (fun _ => .keep) provider start
          [.mayOverride, .openFor "example.com"]) ≠
        transcript (fun _ => .keep) provider start [.openFor "example.com"] := by
  obtain ⟨provider, built, found, empty⟩ := build_pairedFiles .roundRobin
  have uses := usesOrder_of_build (ofValue?_pairedInputs .roundRobin) built
  have turns : TurnsWhenAsked provider .roundRobin := ⟨rfl, empty, _, found, by decide⟩
  refine ⟨provider, built, ?_⟩
  intro same
  have replies := congrArg (List.map Prod.snd) same
  apply openFor_ne_of_turnsWhenAsked (fun _ => .keep) uses turns "example.com"
  exact (List.cons.inj replies).1

end Session

end HostResolver.Provider
