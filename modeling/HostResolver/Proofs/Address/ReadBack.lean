import HostResolver.Proofs.Address.Nameserver
import HostResolver.Proofs.Address.Rendering

/-!
The texts of endpoints read back.

Owns: which of the forms of a name server the text of an endpoint has, that reading it gives the
endpoint whatever port is given for servers that name none, and that the text of an endpoint whose
zone holds a closing bracket is read as no endpoint at all.

Does not own: the texts of the addresses themselves.
-/

namespace HostResolver.Address

open HostResolver.Document HostResolver.Number HostResolver.Text

/-! ## Ink -/

theorem isInk_of_isDigit {character : Char} (digit : isDigit character = true) :
    isInk character = true := by
  obtain ⟨low, high⟩ := toNat_bounds_of_isDigit digit
  simp only [isInk, isBlank, Bool.not_eq_true', Bool.or_eq_false_iff, Bool.and_eq_false_iff,
    decide_eq_false_iff_not, beq_eq_false_iff_ne]
  omega

theorem isInk_of_isLiteralChar {character : Char} (literal : isLiteralChar character = true) :
    isInk character = true := by
  simp only [isLiteralChar, Bool.or_eq_true, beq_iff_eq] at literal
  rcases literal with (hexadecimal | rfl) | rfl
  · have bounds : 48 ≤ character.toNat ∧ character.toNat ≤ 102 := by
      unfold hexValue? at hexadecimal
      simp only [Bool.and_eq_true, decide_eq_true_eq] at hexadecimal
      split at hexadecimal
      · omega
      · split at hexadecimal
        · omega
        · split at hexadecimal
          · omega
          · contradiction
    simp only [isInk, isBlank, Bool.not_eq_true', Bool.or_eq_false_iff, Bool.and_eq_false_iff,
      decide_eq_false_iff_not, beq_eq_false_iff_ne]
    omega
  · decide
  · decide

theorem isInk_of_mem_digitChars (value : Nat) :
    ∀ character ∈ digitChars value, isInk character = true :=
  fun character member => isInk_of_isDigit (isDigit_of_mem_digitChars character member)

/-! ## Ports -/

theorem writesPort_digitChars (port : Port) : WritesPort (digitChars port.val) port := by
  have nonempty := digitChars_ne_nil port.val
  have inked := isInk_of_mem_digitChars port.val
  have front := startsWithInk_append nonempty inked []
  have reversed : (digitChars port.val).reverse ≠ [] := by simpa using nonempty
  have back := startsWithInk_append reversed
    (fun character member => inked character (List.mem_reverse.1 member)) []
  rw [List.append_nil] at front back
  have untrimmed := trim_of_startsWithInk front back
  have short : (digitChars port.val).length ≤ 5 := by
    have small : port.val < 65536 := port.isLt
    exact (Nat.length_toDigits_le_iff (by decide) (by decide)).2 (by omega)
  refine ⟨?_, ?_, ?_, ?_⟩
  · rwa [untrimmed]
  · rw [untrimmed]
    exact isDigit_of_mem_digitChars
  · rw [untrimmed]
    exact short.trans (by decide)
  · rw [untrimmed]
    exact decimalValue_digitChars port.val

/-! ## Characters of an address -/

/-- What stands in the text of an address: literal characters, and the zone behind a per cent
sign. -/
theorem IpAddress.literal_or_zone {address : IpAddress} {character : Char}
    (member : character ∈ address.chars) :
    isLiteralChar character = true ∨ character = '%' ∨
      ∃ zone, address.zone? = some zone ∧ character ∈ zone.text := by
  cases address with
  | v4 address =>
      exact Or.inl (Ipv4.isLiteralChar_of_mem address.read?_chars character member)
  | v6 address =>
      obtain ⟨groups, zone⟩ := address
      have literal := Ipv6.isLiteralChar_of_readGroups? (Ipv6.readGroups?_groupsChars groups)
      cases zone with
      | none => exact Or.inl (literal character member)
      | some zone =>
          rcases List.mem_append.1 member with inGroups | behind
          · exact Or.inl (literal character inGroups)
          · rcases List.mem_cons.1 behind with percent | inZone
            · exact Or.inr (Or.inl percent)
            · exact Or.inr (Or.inr ⟨zone, rfl, inZone⟩)

namespace Endpoint

/-- The text of an endpoint begins with a bracket or a digit and ends with a digit. -/
theorem trim_chars (server : Endpoint) : trim server.chars = server.chars := by
  obtain ⟨host, port⟩ := server
  have inked := isInk_of_mem_digitChars port.val
  have endsWithPort (front : List Char) :
      startsWithInk (front ++ ':' :: digitChars port.val).reverse = true := by
    rw [List.reverse_append, List.reverse_cons, List.append_assoc]
    apply startsWithInk_append (by simpa using digitChars_ne_nil port.val)
    intro character member
    exact inked character (List.mem_reverse.1 member)
  cases host with
  | v4 address =>
      have begins : startsWithInk (chars ⟨.v4 address, port⟩) = true := by
        simp only [chars, Ipv4.chars, List.append_assoc]
        exact startsWithInk_append (digitChars_ne_nil _) (isInk_of_mem_digitChars _) _
      exact trim_of_startsWithInk begins (endsWithPort address.chars)
  | v6 address =>
      have written : chars ⟨.v6 address, port⟩ =
          ('[' :: address.chars ++ [']']) ++ ':' :: digitChars port.val := by
        simp [chars]
      have begins : startsWithInk (chars ⟨.v6 address, port⟩) = true := by
        change isInk '[' = true
        decide
      refine trim_of_startsWithInk begins ?_
      rw [written]
      exact endsWithPort _

/-- The form in which an endpoint is written. -/
theorem exists_writes_chars {server : Endpoint}
    (unclosed : ∀ zone, server.host.zone? = some zone → ']' ∉ zone.text) :
    ∃ form, Nameserver.Writes form (trim server.chars) ⟨server.host, some server.port⟩ := by
  rw [trim_chars]
  obtain ⟨host, port⟩ := server
  have writesPort := writesPort_digitChars port
  cases host with
  | v4 address => exact ⟨.withColon, .withColon address.read?_chars writesPort⟩
  | v6 address =>
      have pure : ']' ∉ address.chars := by
        intro member
        have inHost : ']' ∈ (IpAddress.v6 address).chars := member
        rcases IpAddress.literal_or_zone inHost with literal | percent | ⟨zone, zoned, inZone⟩
        · contradiction
        · contradiction
        · exact unclosed zone zoned inZone
      have written : chars ⟨.v6 address, port⟩ =
          '[' :: (address.chars ++ ']' :: ':' :: digitChars port.val) := rfl
      rw [written]
      exact ⟨.bracketedWithPort, .bracketedWithPort address.read?_chars pure writesPort⟩

/-- **The text of an endpoint is read as that endpoint**, whatever is given for the port. -/
theorem readEndpoint_of_unclosed {server : Endpoint}
    (unclosed : ∀ zone, server.host.zone? = some zone → ']' ∉ zone.text) (default : Value) :
    Nameserver.readEndpoint server.chars default = .ok server := by
  obtain ⟨form, derived⟩ := exists_writes_chars unclosed
  rw [Nameserver.readEndpoint, Nameserver.read_of_writes derived]
  rfl

/-- Behind the first closing bracket of a zone there is another one, and no port. -/
theorem read_ne_ok_of_closed {server : Endpoint} {zone : Zone}
    (zoned : server.host.zone? = some zone) (closed : ']' ∈ zone.text)
    (written : Nameserver.Written) : Nameserver.read server.chars ≠ .ok written := by
  obtain ⟨host, port⟩ := server
  cases host with
  | v4 address => simp [IpAddress.zone?] at zoned
  | v6 address =>
      have inside : ']' ∈ address.chars := by
        obtain ⟨groups, found⟩ := address
        obtain rfl : found = some zone := zoned
        exact List.mem_append_right _ (List.mem_cons_of_mem _ closed)
      -- The address is cut at its first closing bracket.
      obtain ⟨⟨inner, behind⟩, cut⟩ := Option.ne_none_iff_exists'.1
        (fun absent => cutAtFirst?_eq_none_iff.1 absent inside)
      obtain ⟨shape, unclosed⟩ := cutAtFirst?_eq_some_iff.1 cut
      have wholeCut : cutAtFirst? ']' (address.chars ++ ']' :: ':' :: digitChars port.val) =
          some (inner, behind ++ ']' :: ':' :: digitChars port.val) := by
        rw [cutAtFirst?_eq_some_iff]
        exact ⟨by rw [shape, List.append_assoc, List.cons_append], unclosed⟩
      have begun : chars ⟨.v6 address, port⟩ =
          '[' :: (address.chars ++ ']' :: ':' :: digitChars port.val) := rfl
      rw [Nameserver.read, trim_chars, begun, IpAddress.read?_bracket]
      simp only [Nameserver.readWithPort, Nameserver.readBracketed, wholeCut]
      cases Ipv6.read? inner with
      | none => simp
      | some literal =>
          simp only
          split
          · next nothing => simp at nothing
          · next digits shape =>
              intro accepted
              obtain ⟨_, writesPort, _⟩ := Nameserver.withPort_eq_ok_iff.1 accepted
              have pure : ']' ∉ digits := writesPort.not_mem (by decide)
              cases behind with
              | nil => simp at shape
              | cons first rest =>
                  rw [List.cons_append, List.cons.injEq] at shape
                  rw [← shape.2] at pure
                  simp at pure
          · simp

/-- An endpoint whose zone holds a closing bracket is refused for what its text says. -/
theorem readEndpoint_of_closed {server : Endpoint} {zone : Zone}
    (zoned : server.host.zone? = some zone) (closed : ']' ∈ zone.text) (default : Port) :
    ∃ error, Nameserver.readEndpoint server.chars (.int default.val) = .error error ∧
      ((∃ text, error = .notAnAddress text) ∨ ∃ cause, error = .port cause) := by
  apply Nameserver.readEndpoint_refused
  rintro ⟨form, written, derived⟩
  exact read_ne_ok_of_closed zoned closed written (Nameserver.read_of_writes derived)

/-! ## Words -/

theorem chars_ne_nil (server : Endpoint) : server.chars ≠ [] := by
  obtain ⟨host, port⟩ := server
  cases host <;> simp [chars]

/-- Without blanks in its zone the text of an endpoint has no blank at all. -/
theorem isInk_of_mem_chars {server : Endpoint}
    (inkedZone : ∀ zone, server.host.zone? = some zone →
      ∀ character ∈ zone.text, isBlank character = false) :
    ∀ character ∈ server.chars, isInk character = true := by
  obtain ⟨host, port⟩ := server
  have inHost : ∀ character ∈ host.chars, isInk character = true := by
    intro character member
    rcases IpAddress.literal_or_zone member with literal | rfl | ⟨zone, zoned, inZone⟩
    · exact isInk_of_isLiteralChar literal
    · decide
    · simp [isInk, inkedZone zone zoned character inZone]
  have inPort := isInk_of_mem_digitChars port.val
  intro character member
  cases host with
  | v4 address =>
      rcases List.mem_append.1 member with inside | behind
      · exact inHost character inside
      · rcases List.mem_cons.1 behind with rfl | digit
        · decide
        · exact inPort character digit
  | v6 address =>
      rcases List.mem_append.1 member with front | behind
      · rcases List.mem_cons.1 front with rfl | inside
        · decide
        · exact inHost character inside
      · rcases List.mem_cons.1 behind with rfl | behind
        · decide
        · rcases List.mem_cons.1 behind with rfl | digit
          · decide
          · exact inPort character digit

end Endpoint

end HostResolver.Address
