import HostResolver.Config.Section
import HostResolver.Proofs.Address.ReadBack

/-!
Servers that are written as texts and read again.

Owns: what a `nameserver` line adds to a section if its argument is the text of an endpoint, and the
law that joins it with the reading of that text alone.

Does not own: the text of an endpoint, which `HostResolver.Proofs.Address.ReadBack` follows.
-/

namespace HostResolver.Config

open HostResolver.Address HostResolver.Document HostResolver.Servers HostResolver.Text

/-- The line that names one server. -/
def nameserverLine (server : Endpoint) : List Char :=
  "nameserver".toList ++ ' ' :: server.shown.toList

theorem toList_shown (server : Endpoint) : server.shown.toList = server.chars :=
  String.toList_ofList

/-- The label ends at the blank behind it, and the text of a server without blanks is one word. -/
theorem Directive.ofLine_nameserverLine {server : Endpoint}
    (inkedZone : ∀ zone, server.host.zone? = some zone →
      ∀ character ∈ zone.text, isBlank character = false) :
    Directive.ofLine (nameserverLine server) = .ok (.nameserver server.chars) := by
  have inked := Endpoint.isInk_of_mem_chars inkedZone
  have nonempty := server.chars_ne_nil
  have label : ∀ character ∈ "nameserver".toList, isInk character = true :=
    List.all_eq_true.1 (by decide)
  have labelNonempty : "nameserver".toList ≠ [] := by decide
  have isBlank_space : isBlank ' ' = true := by decide
  have whole := startsWithInk_append nonempty inked []
  rw [List.append_nil] at whole
  have argument : trimStart server.chars = server.chars := dropWhile_of_startsWithInk whole
  have labelled :
      firstWord? (nameserverLine server) = some ("nameserver".toList, server.chars) := by
    have cut := firstWord?_append_blank labelNonempty label isBlank_space server.chars
    rw [argument] at cut
    unfold nameserverLine
    rw [toList_shown]
    exact cut
  have known : Directive.withArgument? (String.ofList "nameserver".toList) =
      some Directive.nameserver := by
    rw [String.ofList_toList]
    rfl
  simp only [Directive.ofLine, labelled, known, firstWord?_of_ink nonempty inked]

/-- **Written servers read back.** The text of an endpoint is read as that endpoint whatever port is
given for servers that name none, unless its zone holds a closing bracket: then the text is refused,
so it is never read as another endpoint. If the zone holds no blank either, the line that names the
endpoint puts it behind the servers of the section, whatever was read before, and does nothing
else. -/
theorem readEndpoint_shown (server : Endpoint) :
    ((∀ zone, server.host.zone? = some zone → ']' ∉ zone.text) → ∀ default : Port,
        Nameserver.readEndpoint server.shown.toList (.int default.val) = .ok server) ∧
      (∀ zone, server.host.zone? = some zone → ']' ∈ zone.text → ∀ default : Port,
        ∃ error, Nameserver.readEndpoint server.shown.toList (.int default.val) = .error error ∧
          ((∃ text, error = .notAnAddress text) ∨ ∃ cause, error = .port cause)) ∧
      ((∀ zone, server.host.zone? = some zone →
          ∀ character ∈ zone.text, character ≠ ']' ∧ isBlank character = false) →
        ∀ (progress : Progress) (order : Order),
          progress.readLine order (nameserverLine server) =
            .ok ⟨⟨progress.draft.domain, progress.draft.port, progress.draft.servers ++ [server]⟩,
              progress.book⟩) := by
  rw [toList_shown]
  refine ⟨?_, ?_, ?_⟩
  · intro unclosed default
    exact Endpoint.readEndpoint_of_unclosed unclosed (.int default.val)
  · intro zone zoned closed default
    exact Endpoint.readEndpoint_of_closed zoned closed default
  · intro plainZone progress order
    have inkedZone : ∀ zone, server.host.zone? = some zone →
        ∀ character ∈ zone.text, isBlank character = false :=
      fun zone zoned character member => (plainZone zone zoned character member).2
    have unclosed : ∀ zone, server.host.zone? = some zone → ']' ∉ zone.text :=
      fun zone zoned member => (plainZone zone zoned ']' member).1 rfl
    have serverRead := Endpoint.readEndpoint_of_unclosed unclosed progress.draft.port
    simp only [Progress.readLine, Directive.ofLine_nameserverLine inkedZone, Progress.apply,
      serverRead]

/-- A link-local address in the given zone, with port 9953. -/
def linkLocal (zone : Zone) : Endpoint :=
  ⟨.v6 ⟨#v[0xFE80, 0, 0, 0, 0, 0, 0, 1], some zone⟩, ⟨9953, by decide⟩⟩

/-- Zones of all three kinds: without a closing bracket, with one in front of what looks like a
port, and without a blank. -/
theorem readEndpoint_shown_met :
    Nameserver.readEndpoint (linkLocal ⟨"eth 0".toList, by decide⟩).shown.toList (.int 53) =
        .ok (linkLocal ⟨"eth 0".toList, by decide⟩) ∧
      (∃ error, Nameserver.readEndpoint (linkLocal ⟨"a]:5".toList, by decide⟩).shown.toList
        (.int 53) = .error error) ∧
      Progress.readLine ⟨⟨"lan", .null, []⟩, Book.empty⟩ .failover
          (nameserverLine (linkLocal ⟨"eth0.53".toList, by decide⟩)) =
        .ok ⟨⟨"lan", .null, [linkLocal ⟨"eth0.53".toList, by decide⟩]⟩, Book.empty⟩ := by
  refine ⟨?_, ?_, ?_⟩
  · have unclosed : ∀ zone, (linkLocal ⟨"eth 0".toList, by decide⟩).host.zone? = some zone →
        ']' ∉ zone.text := by
      rintro zone ⟨⟩
      decide
    exact (readEndpoint_shown (linkLocal ⟨"eth 0".toList, by decide⟩)).1 unclosed dnsPort
  · obtain ⟨error, refused, _⟩ :=
      (readEndpoint_shown (linkLocal ⟨"a]:5".toList, by decide⟩)).2.1 _ rfl (by decide) dnsPort
    exact ⟨error, refused⟩
  · have plainZone : ∀ zone, (linkLocal ⟨"eth0.53".toList, by decide⟩).host.zone? = some zone →
        ∀ character ∈ zone.text, character ≠ ']' ∧ isBlank character = false := by
      rintro zone ⟨⟩ character member
      have plain : ("eth0.53".toList.all fun each => each != ']' && !isBlank each) = true := by
        decide
      have here := List.all_eq_true.1 plain character member
      rw [Bool.and_eq_true, bne_iff_ne, Bool.not_eq_true'] at here
      exact here
    exact (readEndpoint_shown (linkLocal ⟨"eth0.53".toList, by decide⟩)).2.2 plainZone
      ⟨⟨"lan", .null, []⟩, Book.empty⟩ .failover

end HostResolver.Config
