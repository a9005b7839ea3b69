import HostResolver.Logging.Level
import HostResolver.Proofs.Config.Filing

/-!
Sources that are dropped while entries are filed.

Owns: the discards among the entries of a list that is filed in turn, that filing reports exactly
these, and that whatever is filed or discarded are together the entries that were given.

Does not own: which entries the sections of a file give.

The discards of a list are stated by places: each entry is looked up among those in front of it. So
the induction over the list puts one entry at a time behind those that are filed.
-/

namespace HostResolver.Config

open HostResolver.Servers

/-! ## Reports -/

/-- A source that is dropped, and the one that its domain keeps. -/
structure Discard where
  domain : String
  kept : Source
  discarded : Source
deriving DecidableEq, Repr

/-- The entry that is not filed. -/
def Discard.entry (discard : Discard) : String × Source := (discard.domain, discard.discarded)

def Event.discard? : Event → Option Discard
  | .alreadyMapped domain kept discarded => some ⟨domain, kept, discarded⟩
  | _ => none

/-- The discards that events report, in order. -/
def discards (events : List Event) : List Discard := events.filterMap Event.discard?

theorem discards_nil : discards [] = [] := rfl

theorem discards_append (first second : List Event) :
    discards (first ++ second) = discards first ++ discards second := List.filterMap_append

/-- The events that are seen at a level. -/
def observed (level : Logging.Level) (events : List Event) : List Event :=
  events.filter fun event => decide (level ≤ event.level)

/-- Every event is seen at the level for debugging. -/
theorem observed_debug (events : List Event) : observed .debug events = events := by
  rw [observed, List.filter_eq_self]
  intro event _
  have atLeast : (10 : Int) ≤ event.level := by
    unfold Event.level
    split <;> decide
  exact decide_eq_true atLeast

/-! ## Entries that are dropped -/

/-- What is dropped if entries are filed in turn: each entry whose domain occurs among those that
are filed and those in front of it. The first of them is the one that is kept. -/
def discardsBehind (filed entries : List (String × Source)) : List Discard :=
  (entries.mapIdx fun index entry =>
    ((filed ++ entries.take index).lookup entry.1).map fun kept =>
      ⟨entry.1, kept, entry.2⟩).filterMap id

theorem discardsBehind_nil (filed : List (String × Source)) : discardsBehind filed [] = [] := rfl

/-- An entry that is dealt with counts among those that are filed. -/
theorem discardsBehind_cons (filed : List (String × Source)) (entry : String × Source)
    (entries : List (String × Source)) :
    discardsBehind filed (entry :: entries) =
      ((filed.lookup entry.1).map fun kept => ⟨entry.1, kept, entry.2⟩).toList ++
        discardsBehind (filed ++ [entry]) entries := by
  rw [discardsBehind, List.mapIdx_cons, List.filterMap_cons, List.take_zero, List.append_nil,
    discardsBehind]
  simp only [List.take_succ_cons, List.append_assoc, List.singleton_append]
  cases filed.lookup entry.1 <;> rfl

/-- Only what is found under a domain counts of those that are filed. -/
theorem discardsBehind_congr {left right : List (String × Source)}
    (same : ∀ domain, left.lookup domain = right.lookup domain)
    (entries : List (String × Source)) :
    discardsBehind left entries = discardsBehind right entries := by
  simp only [discardsBehind, List.lookup_append, same]

/-- Nothing is dropped of distinct domains. -/
theorem discardsBehind_of_nodup {filed entries : List (String × Source)}
    (distinct : ((filed ++ entries).map Prod.fst).Nodup) : discardsBehind filed entries = [] := by
  induction entries generalizing filed with
  | nil => rfl
  | cons entry rest inductionHypothesis =>
      have absent : filed.lookup entry.1 = none := by
        rw [List.lookup_eq_none_iff]
        intro other member
        rw [List.map_append, List.nodup_append] at distinct
        have different := distinct.2.2 other.1 (List.mem_map_of_mem member) entry.1
          (List.mem_map_of_mem List.mem_cons_self)
        simpa using different.symm
      have distinctBehind : ((filed ++ [entry] ++ rest).map Prod.fst).Nodup := by
        rwa [List.append_assoc, List.singleton_append]
      rw [discardsBehind_cons, absent, inductionHypothesis distinctBehind]
      rfl

namespace DomainMap

/-- A domain that is filed next is found as if its entry stood behind the others. -/
theorem lookup_insertIfAbsent (map : DomainMap) (entry : String × Source) (domain : String) :
    (map.insertIfAbsent entry.1 entry.2).entries.lookup domain =
      (map.entries ++ [entry]).lookup domain := by
  rw [List.lookup_append]
  exact get?_insertAll map [entry] domain

/-- **Nothing is lost.** What is filed and what is dropped are together the entries that were filed
before and those that were given. -/
theorem perm_insertAll (map : DomainMap) (entries : List (String × Source)) :
    (map.entries ++ entries).Perm
      ((map.insertAll entries).entries ++
        (discardsBehind map.entries entries).map Discard.entry) := by
  induction entries generalizing map with
  | nil => rw [discardsBehind_nil, List.map_nil, insertAll, List.foldl_nil]
  | cons entry rest inductionHypothesis =>
      have later := inductionHypothesis (map.insertIfAbsent entry.1 entry.2)
      rw [discardsBehind_congr (lookup_insertIfAbsent map entry)] at later
      rw [insertAll, List.foldl_cons, ← insertAll, discardsBehind_cons]
      rw [entries_insertIfAbsent] at later
      cases filed : map.entries.lookup entry.1 with
      | none =>
          rw [if_neg (get?_eq_none_iff.1 filed), List.append_assoc, List.singleton_append] at later
          exact later
      | some kept =>
          have present : entry.1 ∈ map.domains := by
            rw [← isSome_get?_iff, get?, filed, Option.isSome_some]
          rw [if_pos present] at later
          -- The entry is among those that are dropped.
          exact List.perm_middle.trans ((later.cons entry).trans List.perm_middle.symm)

end DomainMap

/-! ## Books -/

namespace Book

theorem discards_file (book : Book) (domain : String) (source : Source) :
    discards (book.file domain source).events =
      discards book.events ++
        ((book.map.get? domain).map fun kept => ⟨domain, kept, source⟩).toList := by
  rw [file]
  cases book.map.get? domain with
  | none => exact (List.append_nil _).symm
  | some kept => exact discards_append _ _

/-- **Filing reports what it drops**, and nothing else. -/
theorem discards_fileAll (book : Book) (entries : List (String × Source)) :
    discards (book.fileAll entries).events =
      discards book.events ++ discardsBehind book.map.entries entries := by
  induction entries generalizing book with
  | nil => exact (List.append_nil _).symm
  | cons entry rest inductionHypothesis =>
      rw [fileAll, List.foldl_cons, ← fileAll, inductionHypothesis, discards_file, map_file,
        discardsBehind_congr (DomainMap.lookup_insertIfAbsent book.map entry),
        discardsBehind_cons, List.append_assoc]
      rfl

theorem fileAll_append (book : Book) (first second : List (String × Source)) :
    book.fileAll (first ++ second) = (book.fileAll first).fileAll second := List.foldl_append

/-- Whether two books hold the same entries and report the same discards. -/
structure SameFiling (left right : Book) : Prop where
  map : left.map = right.map
  discards : Config.discards left.events = Config.discards right.events

namespace SameFiling

variable {left middle right : Book}

theorem refl (book : Book) : book.SameFiling book := ⟨rfl, rfl⟩

theorem trans (first : left.SameFiling middle) (second : middle.SameFiling right) :
    left.SameFiling right :=
  ⟨first.map.trans second.map, first.discards.trans second.discards⟩

theorem fileAll (same : left.SameFiling right) (entries : List (String × Source)) :
    (left.fileAll entries).SameFiling (right.fileAll entries) := by
  constructor
  · rw [map_fileAll, map_fileAll, same.map]
  · rw [discards_fileAll, discards_fileAll, same.map, same.discards]

end SameFiling

theorem sameFiling_note (book : Book) {event : Event} (noDiscard : event.discard? = none) :
    (book.note event).SameFiling book := by
  refine ⟨rfl, ?_⟩
  rw [note, discards_append, discards, discards, List.filterMap_cons_none noDiscard]
  exact List.append_nil _

end Book

end HostResolver.Config
