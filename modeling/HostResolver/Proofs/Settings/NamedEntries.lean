import HostResolver.Settings.Basic
import HostResolver.Proofs.Document.Entries

/-!
Entries with texts for keys.

Owns: what a look-up finds in named entries, that entries with distinct texts for keys keep their
form, and exactly when the naming of entries and the setting of one of them may be exchanged.

Does not own: why an entry is set.

Bytes may be a key that reads like a text, so that two entries of one mapping come to have one name.
The last one counts, and it may stand behind an entry that was set.
-/

namespace HostResolver.Settings

open HostResolver.Document

/-! ## One entry after the other -/

/-- Named entries with one more. -/
def nameEntry (named : Entries) (entry : Value × Value) : Entries :=
  match checkKey entry.1 with
  | .ok name => Entries.set named (.text name) entry.2
  | .error _ => named

theorem namedEntries_append (front back : Entries) :
    namedEntries (front ++ back) = back.foldl nameEntry (namedEntries front) :=
  List.foldl_append

theorem get?_nameEntry (named : Entries) (entry : Value × Value) (name : String) :
    (nameEntry named entry).get? name =
      ((nameEntry [] entry).get? name).or (named.get? name) := by
  unfold nameEntry
  cases checkKey entry.1 with
  | error complaint => rfl
  | ok found =>
      by_cases same : found = name
      · subst same
        simp only [Entries.get?_set_self, Option.some_or]
      · simp only [Entries.get?_set_of_ne same]
        rfl

/-- The last entry of a name counts. -/
theorem get?_foldl_nameEntry (entries named : Entries) (name : String) :
    (entries.foldl nameEntry named).get? name =
      ((namedEntries entries).get? name).or (named.get? name) := by
  induction entries generalizing named with
  | nil => rfl
  | cons entry rest inductionHypothesis =>
      have whole : namedEntries (entry :: rest) = rest.foldl nameEntry (nameEntry [] entry) := rfl
      rw [List.foldl_cons, inductionHypothesis, whole, inductionHypothesis, get?_nameEntry,
        Option.or_assoc]

/-- A value that is set last makes no difference to the entries in front of which it was set. -/
theorem set_foldl_nameEntry {named : Entries} {name : String} (present : named.get? name ≠ none)
    (entries : Entries) (earlier later : Value) :
    Entries.set (entries.foldl nameEntry named) (.text name) later =
      Entries.set (entries.foldl nameEntry (Entries.set named (.text name) earlier))
        (.text name) later := by
  induction entries generalizing named with
  | nil => exact (Entries.set_set_self named name earlier later).symm
  | cons entry rest inductionHypothesis =>
      rw [List.foldl_cons, List.foldl_cons]
      unfold nameEntry
      cases checkKey entry.1 with
      | error complaint => exact inductionHypothesis present
      | ok found =>
          by_cases same : found = name
          · subst same
            simp only [Entries.set_set_self]
          · have different : name ≠ found := fun equal => same equal.symm
            have kept : (Entries.set named (.text found) entry.2).get? name ≠ none := by
              rwa [Entries.get?_set_of_ne same]
            simp only
            rw [← Entries.set_comm different present]
            exact inductionHypothesis kept

/-! ## Texts for keys -/

/-- Entries whose keys are distinct texts. -/
def HasTextKeys (entries : Entries) : Prop :=
  ∃ names : List String, names.Nodup ∧ entries.map Prod.fst = names.map Value.text

theorem get?_append_singleton (front : Entries) (key name : String) (value : Value) :
    Entries.get? (front ++ [(.text key, value)]) name =
      (front.get? name).or (if key = name then some value else none) := by
  induction front with
  | nil => rfl
  | cons entry rest inductionHypothesis =>
      obtain ⟨other, old⟩ := entry
      by_cases same : other = .text name
      · subst same
        rw [List.cons_append, Entries.get?_cons_self, Entries.get?_cons_self, Option.some_or]
      · rw [List.cons_append, Entries.get?_cons_of_ne same, Entries.get?_cons_of_ne same,
          inductionHypothesis]

theorem foldl_nameEntry_of_texts {entries front : Entries} {names : List String}
    (distinct : names.Nodup) (keys : entries.map Prod.fst = names.map Value.text)
    (absent : ∀ name ∈ names, front.get? name = none) :
    entries.foldl nameEntry front = front ++ entries := by
  induction entries generalizing front names with
  | nil => exact (List.append_nil front).symm
  | cons entry rest inductionHypothesis =>
      obtain ⟨key, value⟩ := entry
      cases names with
      | nil => exact absurd keys (List.cons_ne_nil _ _)
      | cons name others =>
          rw [List.map_cons, List.map_cons, List.cons.injEq] at keys
          obtain ⟨isText, restKeys⟩ := keys
          change key = .text name at isText
          subst isText
          have placed : nameEntry front (.text name, value) = front ++ [(.text name, value)] := by
            have appended := Entries.set_append (absent name List.mem_cons_self) [] value
            rwa [List.append_nil] at appended
          have stillAbsent : ∀ other ∈ others,
              Entries.get? (front ++ [(.text name, value)]) other = none := by
            intro other member
            have different : name ≠ other := by
              intro same
              rw [same] at distinct
              exact (List.nodup_cons.1 distinct).1 member
            rw [get?_append_singleton, absent other (List.mem_cons_of_mem name member),
              if_neg different]
            rfl
          rw [List.foldl_cons, placed,
            inductionHypothesis (List.nodup_cons.1 distinct).2 restKeys stillAbsent,
            List.append_assoc]
          rfl

theorem namedEntries_of_texts {entries : Entries} (texts : HasTextKeys entries) :
    namedEntries entries = entries := by
  obtain ⟨names, distinct, keys⟩ := texts
  exact foldl_nameEntry_of_texts distinct keys fun _ _ => rfl

/-! ## An entry that is set -/

theorem get?_ne_none_of_key {entries : Entries} {name : String}
    (member : .text name ∈ entries.map Prod.fst) : entries.get? name ≠ none := by
  induction entries with
  | nil => exact absurd member List.not_mem_nil
  | cons entry rest inductionHypothesis =>
      obtain ⟨key, value⟩ := entry
      by_cases same : key = .text name
      · rw [same, Entries.get?_cons_self]
        exact Option.some_ne_none value
      · rw [Entries.get?_cons_of_ne same]
        rw [List.map_cons, List.mem_cons] at member
        exact inductionHypothesis (member.resolve_left fun equal => same equal.symm)

/-- The entries behind the first one with a text for a key. -/
def behind (name : String) : Entries → Entries
  | [] => []
  | (key, _) :: rest => if key.sameKey (.text name) then rest else behind name rest

theorem behind_of_absent {entries : Entries} {name : String} (absent : entries.get? name = none) :
    behind name entries = [] := by
  induction entries with
  | nil => rfl
  | cons entry rest inductionHypothesis =>
      obtain ⟨key, old⟩ := entry
      by_cases same : key = .text name
      · rw [same, Entries.get?_cons_self] at absent
        exact absurd absent (Option.some_ne_none old)
      · rw [Entries.get?_cons_of_ne same] at absent
        rw [behind, if_neg fun equal => same (Value.sameKey_text_iff.1 equal)]
        exact inductionHypothesis absent

theorem exists_front {entries : Entries} {name : String} {old : Value}
    (found : entries.get? name = some old) :
    ∃ front : Entries, front.get? name = none ∧
      entries = front ++ (.text name, old) :: behind name entries := by
  induction entries with
  | nil => exact absurd found.symm (Option.some_ne_none old)
  | cons entry rest inductionHypothesis =>
      obtain ⟨key, value⟩ := entry
      by_cases same : key = .text name
      · subst same
        rw [Entries.get?_cons_self, Option.some.injEq] at found
        refine ⟨[], rfl, ?_⟩
        rw [found, behind, if_pos (Value.sameKey_text_iff.2 rfl)]
        rfl
      · rw [Entries.get?_cons_of_ne same] at found
        obtain ⟨front, absent, whole⟩ := inductionHypothesis found
        refine ⟨(key, value) :: front, ?_, ?_⟩
        · rw [Entries.get?_cons_of_ne same, absent]
        · rw [behind, if_neg fun equal => same (Value.sameKey_text_iff.1 equal), List.cons_append,
            ← whole]

theorem hasTextKeys_set {entries : Entries} (texts : HasTextKeys entries) (name : String)
    (value : Value) : HasTextKeys (Entries.set entries (.text name) value) := by
  obtain ⟨names, distinct, keys⟩ := texts
  cases present : entries.get? name with
  | none =>
      have appended := Entries.set_append present [] value
      rw [List.append_nil] at appended
      rw [appended]
      refine ⟨names ++ [name], ?_, ?_⟩
      · refine List.nodup_append.2 ⟨distinct, List.pairwise_singleton _ name, ?_⟩
        intro found member other isLast same
        rw [List.mem_singleton] at isLast
        rw [same, isLast] at member
        exact get?_ne_none_of_key (keys ▸ List.mem_map_of_mem member) present
      · rw [List.map_append, List.map_append, keys]
        rfl
  | some old =>
      obtain ⟨front, absent, whole⟩ := exists_front present
      refine ⟨names, distinct, ?_⟩
      rw [← keys, whole, Entries.set_append absent, Entries.set_cons_self]
      rw [List.map_append, List.map_append]
      rfl

theorem namedEntries_set_append {front : Entries} {name : String}
    (absent : front.get? name = none) (old value : Value) (back : Entries) :
    namedEntries (Entries.set (front ++ (.text name, old) :: back) (.text name) value) =
      back.foldl nameEntry (Entries.set (namedEntries front) (.text name) value) := by
  rw [Entries.set_append absent, Entries.set_cons_self, namedEntries_append]
  rfl

theorem set_namedEntries_append (front : Entries) (name : String) (old value : Value)
    (back : Entries) :
    Entries.set (namedEntries (front ++ (.text name, old) :: back)) (.text name) value =
      Entries.set (back.foldl nameEntry (Entries.set (namedEntries front) (.text name) value))
        (.text name) value := by
  have inFront : (Entries.set (namedEntries front) (.text name) old).get? name ≠ none := by
    rw [Entries.get?_set_self]
    exact Option.some_ne_none old
  rw [namedEntries_append]
  change Entries.set (back.foldl nameEntry
    (Entries.set (namedEntries front) (.text name) old)) _ _ = _
  rw [set_foldl_nameEntry inFront back value value, Entries.set_set_self]

/-- **To name entries and to set one of them may be exchanged exactly if no entry behind it has its
name, except for one with the same value.** -/
theorem namedEntries_set_iff (entries : Entries) (name : String) (value : Value) :
    namedEntries (Entries.set entries (.text name) value) =
        Entries.set (namedEntries entries) (.text name) value ↔
      ∀ last, (namedEntries (behind name entries)).get? name = some last → last = value := by
  cases present : entries.get? name with
  | none =>
      have appended := Entries.set_append present [] value
      rw [List.append_nil] at appended
      rw [appended, namedEntries_append, behind_of_absent present]
      refine ⟨fun _ last absent => absurd absent.symm (Option.some_ne_none last), fun _ => rfl⟩
  | some old =>
      obtain ⟨front, absent, whole⟩ := exists_front present
      generalize behind name entries = back at whole ⊢
      subst whole
      -- Both sides file `back` behind the entry; the second one sets the entry again at the end.
      rw [namedEntries_set_append absent, set_namedEntries_append]
      have last : (back.foldl nameEntry (Entries.set (namedEntries front) (.text name) value)).get?
          name = ((namedEntries back).get? name).or (some value) := by
        rw [get?_foldl_nameEntry, Entries.get?_set_self]
      constructor
      · intro same found isLast
        rw [same, Entries.get?_set_self, isLast, Option.some_or] at last
        exact (Option.some.inj last).symm
      · intro lastIs
        refine (Entries.set_of_get? ?_).symm
        rw [last]
        cases isLast : (namedEntries back).get? name with
        | none => rfl
        | some found => rw [lastIs found isLast, Option.some_or]

end HostResolver.Settings
