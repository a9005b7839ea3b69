import HostResolver.Servers.Source

/-!
Maps from domains to sources.

This module owns a map in which every domain keeps the source that was filed first, and whose
entries stand in the order in which they were filed. No domain occurs twice.
-/

namespace HostResolver.Config

open HostResolver.Servers

/-- The sources filed under domains. -/
structure DomainMap where
  entries : List (String × Source)
  nodup : (entries.map Prod.fst).Nodup
deriving DecidableEq

namespace DomainMap

def empty : DomainMap := ⟨[], List.nodup_nil⟩

/-- The domains of a map in the order in which they were filed. -/
def domains (map : DomainMap) : List String := map.entries.map Prod.fst

def get? (map : DomainMap) (domain : String) : Option Source := map.entries.lookup domain

/-- The map with one more entry, for a domain that it does not hold. -/
def insertNew (map : DomainMap) (domain : String) (source : Source)
    (absent : domain ∉ map.domains) : DomainMap where
  entries := map.entries ++ [(domain, source)]
  nodup := by
    rw [List.map_append, List.nodup_append]
    refine ⟨map.nodup, by simp, ?_⟩
    intro first member second single equal
    simp only [List.map_cons, List.map_nil, List.mem_singleton] at single
    exact absent (single ▸ equal ▸ member)

/-- Files a source under a domain unless the domain has one already. -/
def insertIfAbsent (map : DomainMap) (domain : String) (source : Source) : DomainMap :=
  if absent : domain ∉ map.domains then map.insertNew domain source absent else map

def erase (map : DomainMap) (domain : String) : DomainMap where
  entries := map.entries.filter fun entry => entry.1 != domain
  nodup := (List.filter_sublist.map Prod.fst).nodup map.nodup

def isEmpty (map : DomainMap) : Bool := map.entries.isEmpty

/-- The domains of a map in increasing order by code point. -/
def sortedDomains (map : DomainMap) : List String :=
  map.domains.mergeSort fun left right => decide (left ≤ right)

end DomainMap

end HostResolver.Config
