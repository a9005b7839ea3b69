import HostResolver.Config.Section

/-!
Lines that are handed over one by one.

This module owns what a single line does to a section, step by step. Each step takes effect at once,
and a step that fails leaves what the steps before it have done. The line is taken as it is: neither
trimmed nor looked at for a comment. It also owns runs of such lines with commits between them, in
which a refusal is reported and the run goes on.

It does not own the reading of files, which stops at the first refusal.
-/

namespace HostResolver.Config

open HostResolver.Address HostResolver.Servers HostResolver.Text

/-- Steps on the section that is being read, each of which may fail. -/
abbrev Steps := ExceptT LineError (StateM Progress)

namespace Steps

/-- Files the section if it has servers, and then takes its servers away. -/
def commit (order : Order) : Steps Unit := do
  let draft := (← get).draft
  if draft.servers.isEmpty then
    pure ()
  else
    modify fun progress =>
      ⟨progress.draft, progress.book.file draft.domain (.ofServers order draft.servers)⟩
    modify fun progress => ⟨⟨progress.draft.domain, progress.draft.port, []⟩, progress.book⟩

def addServer (value : List Char) : Steps Unit := do
  let port := (← get).draft.port
  let server ← MonadExcept.ofExcept ((Nameserver.readEndpoint value port).mapError .nameserver)
  modify fun progress =>
    let draft := progress.draft
    ⟨⟨draft.domain, draft.port, draft.servers ++ [server]⟩, progress.book⟩

def usePort (text : List Char) : Steps Unit := do
  let port ← MonadExcept.ofExcept ((Port.read text).mapError .port)
  modify fun progress =>
    ⟨⟨progress.draft.domain, .int port.val, progress.draft.servers⟩, progress.book⟩

/-- Takes the steps that a directive of a line asks for. -/
def perform (order : Order) (line : List Char) : Directive → Steps Unit
  | .nameserver value => addServer value
  | .domain name => do
    commit order
    modify fun progress => progress.enter (String.ofList name)
  | .port text => usePort text
  | .sortlist =>
    modify fun progress => ⟨progress.draft, progress.book.note (.unsupported (String.ofList line))⟩
  | .other => pure ()

def readLine (order : Order) (line : List Char) : Steps Unit := do
  let directive ← MonadExcept.ofExcept (Directive.ofLine line)
  perform order line directive

/-- What steps leave of a state, and why they stopped if one of them failed. -/
def take (steps : Steps Unit) (progress : Progress) : Progress × Option LineError :=
  match Id.run (steps.run.run progress) with
  | (.ok _, after) => (after, none)
  | (.error error, after) => (after, some error)

/-! ## Small lemmas -/

variable {progress after : Progress}

@[simp] theorem take_pure : take (pure ()) progress = (progress, none) := rfl

@[simp] theorem take_modify (change : Progress → Progress) :
    take (modify change) progress = (change progress, none) := rfl

@[simp] theorem take_get_bind (next : Progress → Steps Unit) :
    take (get >>= next) progress = (next progress).take progress := rfl

@[simp] theorem take_ok_bind {α : Type} (value : α) (next : α → Steps Unit) :
    take (MonadExcept.ofExcept (.ok value) >>= next) progress = (next value).take progress := rfl

@[simp] theorem take_error_bind {α : Type} (error : LineError) (next : α → Steps Unit) :
    take (MonadExcept.ofExcept (.error error) >>= next) progress = (progress, some error) := rfl

@[simp] theorem take_mapError_ok {ε α : Type} (wrap : ε → LineError) (value : α)
    (next : α → Steps Unit) :
    take (MonadExcept.ofExcept ((Except.ok value).mapError wrap) >>= next) progress =
      (next value).take progress := rfl

@[simp] theorem take_mapError_error {ε α : Type} (wrap : ε → LineError) (cause : ε)
    (next : α → Steps Unit) :
    take (MonadExcept.ofExcept ((Except.error cause).mapError wrap) >>= next) progress =
      (progress, some (wrap cause)) := rfl

/-- Steps that do not fail hand their state on to the next ones. -/
theorem take_bind {first : Steps Unit} {next : Unit → Steps Unit}
    (taken : first.take progress = (after, none)) :
    take (first >>= next) progress = (next ()).take after := by
  rw [take] at taken ⊢
  rw [ExceptT.run_bind, StateT.run_bind, Id.run_bind]
  cases ran : Id.run (first.run.run progress) with
  | mk outcome between =>
      cases outcome with
      | error error => simp [ran] at taken
      | ok value =>
          simp only [ran, Prod.mk.injEq, and_true] at taken
          subst taken
          rfl

end Steps

/-- What is handed over: a line, or the wish that the section be filed. -/
inductive Item where
  | line (text : List Char)
  | commit
deriving DecidableEq, Repr

def Item.steps (order : Order) : Item → Steps Unit
  | .line text => .readLine order text
  | .commit => .commit order

namespace Progress

/-- What an item leaves, and why it is refused if it is. -/
def feed (progress : Progress) (order : Order) (item : Item) : Progress × Option LineError :=
  (item.steps order).take progress

/-- What items leave that are handed over in turn, and what is reported of each. -/
def feedAll (order : Order) (progress : Progress) :
    List Item → Progress × List (Option LineError)
  | [] => (progress, [])
  | item :: items =>
    let fed := progress.feed order item
    let rest := feedAll order fed.1 items
    (rest.1, fed.2 :: rest.2)

end Progress

end HostResolver.Config
