import HostResolver.Provider.Basic
import HostResolver.Text.Field

/-!
Look-up of a host.

This module owns which source answers for a host: the one filed under the first of the names that
the host itself and its shortenings by whole labels give. A name without a point behind its first
character, or with such a point at its very end only, is not looked up any more, and the default
answers.
-/

namespace HostResolver.Provider

open HostResolver.Servers HostResolver.Text

theorem length_lt_of_cutAtFirst? {separator : Char} {text before after : List Char}
    (found : cutAtFirst? separator text = some (before, after)) :
    after.length < text.length := by
  obtain ⟨rfl, _⟩ := cutAtFirst?_eq_some_iff.1 found
  simp only [List.length_append, List.length_cons]
  omega

/-- The names that are looked up for a host, the longest first. -/
def candidates : List Char → List (List Char)
  | [] => []
  | first :: rest =>
    match _found : cutAtFirst? '.' rest with
    | none => []
    | some (_, shorter) =>
      if shorter.isEmpty then [] else (first :: rest) :: candidates shorter
termination_by host => host.length
decreasing_by
  have := length_lt_of_cutAtFirst? _found
  simp only [List.length_cons]
  omega

/-- Which source of a provider answers. -/
inductive Choice where
  /-- The default source, if there is one. -/
  | default
  /-- The source filed under a domain. -/
  | override (domain : String)
deriving DecidableEq, Repr

namespace ServerProvider

def choose (provider : ServerProvider) (host : String) : Choice :=
  match ((candidates host.toList).map String.ofList).find? fun name =>
      (provider.overrides.get? name).isSome with
  | some domain => .override domain
  | none => .default

def source? (provider : ServerProvider) : Choice → Option Source
  | .default => provider.default
  | .override domain => provider.overrides.get? domain

/-- The source that answers for a host. -/
def sourceFor? (provider : ServerProvider) (host : String) : Option Source :=
  provider.source? (provider.choose host)

end ServerProvider

end HostResolver.Provider
