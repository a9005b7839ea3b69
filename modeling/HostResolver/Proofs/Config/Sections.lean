import HostResolver.Config.Parser
import HostResolver.Proofs.Address.Nameserver
import HostResolver.Proofs.Config.Filing

/-!
The sections of configuration files, cut out without a reader that goes line by line.

Owns: which lines of a text count, what a line with a label says, the port in use at a line, the
sections between `domain` lines with their servers, and the equations by which the sections of a
text follow from those of its rest.

Does not own: the agreement of the reader with these sections.
-/

namespace HostResolver.Config

open HostResolver.Address HostResolver.Files HostResolver.Servers HostResolver.Text

/-! ## Lines -/

/-- Whether a trimmed line counts: it is not blank, and begun by neither `#` nor `;`. -/
def counts (line : List Char) : Bool :=
  line.head? != none && line.head? != some '#' && line.head? != some ';'

/-- The lines of a text that count, trimmed. -/
def significantLines (text : List Char) : List (List Char) :=
  ((lines text).map trim).filter counts

theorem significant?_eq_guard (line : List Char) :
    significant? line = Option.guard counts (trim line) := by
  rw [significant?]
  split
  · next blank => rw [blank]; rfl
  · next hash => rw [hash]; rfl
  · next semicolon => rw [semicolon]; rfl
  · next text notBlank notHash notSemicolon =>
      have counted : counts (trim line) = true := by
        cases shape : trim line with
        | nil => exact absurd shape notBlank
        | cons first rest =>
            have noHash : first ≠ '#' := by
              rintro rfl
              exact notHash rest shape
            have noSemicolon : first ≠ ';' := by
              rintro rfl
              exact notSemicolon rest shape
            simp [counts, noHash, noSemicolon]
      rw [Option.guard, if_pos counted]

theorem filterMap_significant? (text : List Char) :
    (lines text).filterMap significant? = significantLines text := by
  rw [significantLines, ← List.filterMap_eq_filter, List.filterMap_map]
  congr 1
  funext line
  exact significant?_eq_guard line

theorem significantLines_nil : significantLines [] = [] := rfl

/-- The word behind the label of a line, if the line has the given label. -/
def argument? (label : String) (line : List Char) : Option (List Char) :=
  match words line with
  | first :: second :: _ => if String.ofList first = label then some second else none
  | _ => none

/-- The domain of a `domain` line. -/
def domainOf? (line : List Char) : Option String := (argument? "domain" line).map String.ofList

/-- The port of a `port` line. -/
def portOf? (line : List Char) : Option Port :=
  (argument? "port" line).bind fun digits => (Port.read digits).toOption

/-- The server of a `nameserver` line, with the port in use if it names none. -/
def serverOf? (inUse : Port) (line : List Char) : Option Endpoint :=
  (argument? "nameserver" line).bind fun value =>
    (Nameserver.read value).toOption.map fun written => ⟨written.host, written.port.getD inUse⟩

/-- The port in use behind lines: that of the last `port` line. -/
def portBehind (lines : List (List Char)) : Port :=
  ((lines.filterMap portOf?).getLast?).getD dnsPort

/-! ## Sections -/

/-- A section: the domain that it belongs to, and its servers. -/
structure Section where
  domain : String
  servers : List Endpoint
deriving DecidableEq, Repr

/-- The sections of lines that stand behind earlier lines of their file. The first section has the
given name, each further one the domain of the `domain` line in front of it; the servers of a
section are those of its lines, with the port in use there. -/
def sectionsBehind (earlier : List (List Char)) (name : String) (lines : List (List Char)) :
    List Section :=
  let placed := lines.mapIdx fun index line => (portBehind (earlier ++ lines.take index), line)
  let bodies := placed.splitOnP fun line => (domainOf? line.2).isSome
  List.zipWith (fun domain body => ⟨domain, body.filterMap fun line => serverOf? line.1 line.2⟩)
    (name :: lines.filterMap domainOf?) bodies

/-- The sections of the lines of a file with a name. -/
def sectionsOf (name : String) (lines : List (List Char)) : List Section :=
  sectionsBehind [] name lines

/-- A section with more servers in front. -/
def Section.precede (servers : List Endpoint) (part : Section) : Section :=
  ⟨part.domain, servers ++ part.servers⟩

theorem sectionsBehind_nil (earlier : List (List Char)) (name : String) :
    sectionsBehind earlier name [] = [⟨name, []⟩] := by
  simp [sectionsBehind, List.splitOnP_nil]

theorem modifyHead_precede_nil (parts : List Section) :
    parts.modifyHead (Section.precede []) = parts := by
  cases parts <;> rfl

theorem modifyHead_precede_precede (first second : List Endpoint) (parts : List Section) :
    (parts.modifyHead (Section.precede second)).modifyHead (Section.precede first) =
      parts.modifyHead (Section.precede (first ++ second)) := by
  cases parts with
  | nil => rfl
  | cons part others => simp [Section.precede]

/-- The port in use behind one more line. -/
theorem portBehind_append_singleton (earlier : List (List Char)) (line : List Char) :
    portBehind (earlier ++ [line]) = (portOf? line).getD (portBehind earlier) := by
  rw [portBehind, List.filterMap_append, List.getLast?_append]
  cases found : portOf? line with
  | none =>
      rw [List.filterMap_cons_none found]
      rfl
  | some port =>
      rw [List.filterMap_cons_some found]
      rfl

/-- The places of lines, with one line counted among the earlier ones. -/
theorem placed_cons (earlier : List (List Char)) (line : List Char) (lines : List (List Char)) :
    ((line :: lines).mapIdx fun index other =>
        (portBehind (earlier ++ (line :: lines).take index), other)) =
      (portBehind earlier, line) :: lines.mapIdx fun index other =>
        (portBehind (earlier ++ [line] ++ lines.take index), other) := by
  rw [List.mapIdx_cons]
  simp

/-- A `domain` line ends the section in front of it. -/
theorem sectionsBehind_domain {line : List Char} {domain : String}
    (named : domainOf? line = some domain) (earlier : List (List Char)) (name : String)
    (lines : List (List Char)) :
    sectionsBehind earlier name (line :: lines) =
      ⟨name, []⟩ :: sectionsBehind (earlier ++ [line]) domain lines := by
  rw [sectionsBehind, placed_cons, List.splitOnP_cons_eq_if_modifyHead, if_pos (by simp [named]),
    List.filterMap_cons_some named]
  rfl

/-- Any other line belongs to the first section. -/
theorem sectionsBehind_other {line : List Char} (unnamed : domainOf? line = none)
    (earlier : List (List Char)) (name : String) (lines : List (List Char)) :
    sectionsBehind earlier name (line :: lines) =
      (sectionsBehind (earlier ++ [line]) name lines).modifyHead
        (Section.precede (serverOf? (portBehind earlier) line).toList) := by
  rw [sectionsBehind, placed_cons, List.splitOnP_cons_eq_if_modifyHead, if_neg (by simp [unnamed]),
    List.filterMap_cons_none unnamed, sectionsBehind]
  cases bodies : List.splitOnP _ _ with
  | nil => exact absurd bodies (List.splitOnP_ne_nil _ _)
  | cons body others =>
      simp only [List.modifyHead_cons, List.zipWith_cons_cons, List.filterMap_cons,
        Section.precede]
      cases serverOf? (portBehind earlier) line with
      | none => rfl
      | some server => rfl

/-! ## What sections file -/

/-- The entry of a section in a map. -/
def Section.entry (order : Order) (part : Section) : String × Source :=
  (part.domain, .ofServers order part.servers)

/-- The entries of the sections that have servers. -/
def entriesOf (order : Order) (parts : List Section) : List (String × Source) :=
  (parts.filter fun part => !part.servers.isEmpty).map (Section.entry order)

theorem entriesOf_append (order : Order) (first second : List Section) :
    entriesOf order (first ++ second) = entriesOf order first ++ entriesOf order second := by
  rw [entriesOf, List.filter_append, List.map_append]
  rfl

/-- The text of the regular file at a path; empty if there is none. -/
def textAt (tree : FileTree) (path : Path) : List Char :=
  match tree.bytes? path with
  | .ok (some bytes) => (Reading.ofBytes bytes).text
  | _ => []

/-- The sections of the file at a path, the first of which has the base name of the path. -/
def sectionsAt (tree : FileTree) (path : Path) : List Section :=
  sectionsOf path.baseName (significantLines (textAt tree path))

end HostResolver.Config
