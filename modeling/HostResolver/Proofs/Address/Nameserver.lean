import HostResolver.Proofs.Address.Grammar

/-!
The reader of name servers.

Owns: that the reader accepts exactly the forms of the grammar and gives what they write, for what
reasons it refuses any other text, and that digits behind a zone belong to the zone.
-/

namespace HostResolver.Address.Nameserver

open HostResolver.Text HostResolver.Document

/-! ## What the reader does with each form -/

variable {refusal : NameserverError}

theorem withPort_eq_ok_iff {host : IpAddress} {digits : List Char} {written : Written} :
    withPort host digits = .ok written ↔
      ∃ port, WritesPort digits port ∧ written = ⟨host, some port⟩ := by
  rw [withPort]
  cases portRead : Port.read digits with
  | ok port =>
      constructor
      · intro equal
        exact ⟨port, Port.read_eq_ok_iff.1 portRead, (Except.ok.inj equal).symm⟩
      · rintro ⟨other, writesPort, rfl⟩
        have same := Port.read_eq_ok_iff.2 writesPort
        rw [portRead] at same
        rw [Except.ok.inj same]
  | error error =>
      constructor
      · intro equal
        contradiction
      · rintro ⟨other, writesPort, _⟩
        rw [Port.read_eq_ok_iff.2 writesPort] at portRead
        contradiction

theorem readBracketed_closed {inner : List Char} {host : Ipv6}
    (literal : Ipv6.read? inner = some host) (unclosed : ']' ∉ inner) :
    readBracketed refusal (inner ++ [']']) = .ok ⟨.v6 host, none⟩ := by
  simp [readBracketed, cutAtFirst?_eq_some_iff.2 ⟨rfl, unclosed⟩, literal]

theorem readBracketed_port {inner digits : List Char} {host : Ipv6}
    (literal : Ipv6.read? inner = some host) (unclosed : ']' ∉ inner) :
    readBracketed refusal (inner ++ ']' :: ':' :: digits) = withPort (.v6 host) digits := by
  simp [readBracketed, cutAtFirst?_eq_some_iff.2 ⟨rfl, unclosed⟩, literal]

/-- With exactly one colon the port stands behind it. -/
theorem readWithPort_of_one_colon {host digits : List Char}
    (unbracketed : ∀ rest, host ++ ':' :: digits ≠ '[' :: rest) (pureHost : ':' ∉ host)
    (pureDigits : ':' ∉ digits) :
    readWithPort refusal (host ++ ':' :: digits) = readWithColon refusal host digits := by
  rw [readWithPort.eq_def]
  split
  · next rest equal => exact absurd equal (unbracketed rest)
  · rw [cutAtFirst?_eq_some_iff.2 ⟨rfl, pureHost⟩]
    simp [pureDigits]

/-- Without exactly one colon the port stands behind the last point. -/
theorem readWithPort_of_colons {text : List Char} (unbracketed : ∀ rest, text ≠ '[' :: rest)
    (colons : text.count ':' ≠ 1) :
    readWithPort refusal text = readWithPoint refusal text := by
  rw [readWithPort.eq_def]
  split
  · next rest => exact absurd rfl (unbracketed rest)
  · cases cut : cutAtFirst? ':' text with
    | none => rfl
    | some found =>
        obtain ⟨host, digits⟩ := found
        obtain ⟨rfl, pureHost⟩ := cutAtFirst?_eq_some_iff.1 cut
        rw [List.count_append, List.count_eq_zero.2 pureHost, List.count_cons_self] at colons
        have more : ':' ∈ digits := List.count_pos_iff.1 (by omega)
        simp [more]

theorem readWithPoint_append {literal digits : List Char} {host : IpAddress} {port : Port}
    (literalRead : IpAddress.read? literal = some host) (writesPort : WritesPort digits port) :
    readWithPoint refusal (literal ++ '.' :: digits) = .ok ⟨host, some port⟩ := by
  have noPoint : '.' ∉ digits := writesPort.not_mem (by decide)
  rw [readWithPoint, cutAtLast?_append_cons literal noPoint]
  simp [writesPort.ne_nil, Port.read_eq_ok_iff.2 writesPort, literalRead]

/-- The reader accepts every form and gives what is written. -/
theorem read_of_writes {value : List Char} {form : Form} {written : Written}
    (derived : Writes form (trim value) written) : read value = .ok written := by
  rw [read]
  generalize trim value = text at derived
  cases derived with
  | alone literal => simp [literal]
  | bracketed literal unclosed =>
      simp [IpAddress.read?_bracket, readWithPort, readBracketed_closed literal unclosed]
  | bracketedWithPort literal unclosed writesPort =>
      simp only [IpAddress.read?_bracket, readWithPort, readBracketed_port literal unclosed]
      exact withPort_eq_ok_iff.2 ⟨_, writesPort, rfl⟩
  | withColon literalRead writesPort =>
      have addressRead := IpAddress.read?_eq_v4_iff.2 literalRead
      rw [read?_append_colon literalRead writesPort]
      simp only [readWithPort_of_one_colon (IpAddress.append_ne_bracket addressRead _)
        (Ipv4.colon_not_mem literalRead) (writesPort.not_mem (by decide)), readWithColon,
        addressRead]
      exact withPort_eq_ok_iff.2 ⟨_, writesPort, rfl⟩
  | withPoint literalRead zoneless writesPort =>
      rw [read?_append_point literalRead zoneless writesPort]
      simp only [readWithPort_of_colons (IpAddress.append_ne_bracket literalRead _)
        (count_colon_append_point literalRead writesPort)]
      exact readWithPoint_append literalRead writesPort

/-! ## The reader accepts nothing else -/

theorem writes_of_readBracketed {rest : List Char} {written : Written}
    (bracketRead : readBracketed refusal rest = .ok written) :
    ∃ form, Writes form ('[' :: rest) written := by
  rw [readBracketed] at bracketRead
  cases cut : cutAtFirst? ']' rest with
  | none => simp [cut] at bracketRead
  | some found =>
      obtain ⟨inner, behind⟩ := found
      obtain ⟨rfl, unclosed⟩ := cutAtFirst?_eq_some_iff.1 cut
      cases literal : Ipv6.read? inner with
      | none => simp [cut, literal] at bracketRead
      | some host =>
          simp only [cut, literal] at bracketRead
          split at bracketRead
          · obtain rfl := Except.ok.inj bracketRead
            exact ⟨.bracketed, .bracketed literal unclosed⟩
          · next digits =>
              obtain ⟨port, writesPort, rfl⟩ := withPort_eq_ok_iff.1 bracketRead
              exact ⟨.bracketedWithPort, .bracketedWithPort literal unclosed writesPort⟩
          · contradiction

theorem writes_of_readWithColon {host digits : List Char} {written : Written}
    (pureHost : ':' ∉ host) (colonRead : readWithColon refusal host digits = .ok written) :
    ∃ form, Writes form (host ++ ':' :: digits) written := by
  rw [readWithColon] at colonRead
  cases literal : IpAddress.read? host with
  | none => simp [literal] at colonRead
  | some address =>
      simp only [literal] at colonRead
      obtain ⟨port, writesPort, rfl⟩ := withPort_eq_ok_iff.1 colonRead
      cases address with
      | v4 address =>
          exact ⟨.withColon, .withColon (IpAddress.read?_eq_v4_iff.1 literal) writesPort⟩
      | v6 address =>
          -- An IPv6 address has colons of its own.
          have enough := Ipv6.two_le_count_colon_of_read? (IpAddress.read?_eq_v6_iff.1 literal)
          rw [List.count_eq_zero.2 pureHost] at enough
          omega

/-- An address with a zone would have taken in the port. -/
theorem zone?_eq_none_of_point {literal digits : List Char} {host : IpAddress} {port : Port}
    (literalRead : IpAddress.read? literal = some host) (writesPort : WritesPort digits port)
    (noLiteral : IpAddress.read? (literal ++ '.' :: digits) = none) : host.zone? = none := by
  cases host with
  | v4 host => rfl
  | v6 host =>
      obtain ⟨groups, zone⟩ := host
      cases zone with
      | none => rfl
      | some zone =>
          have noPercent : '%' ∉ '.' :: digits := by
            simp [writesPort.not_mem (show (isBlank '%' || isDigit '%') = false by decide)]
          have noSlash : '/' ∉ '.' :: digits := by
            simp [writesPort.not_mem (show (isBlank '/' || isDigit '/') = false by decide)]
          obtain ⟨longer, _, longerRead⟩ := Ipv6.read?_append_of_zone
            (IpAddress.read?_eq_v6_iff.1 literalRead) noPercent noSlash
          rw [IpAddress.read?_eq_v6_iff.2 longerRead] at noLiteral
          contradiction

theorem writes_of_readWithPoint {text : List Char} {written : Written}
    (noLiteral : IpAddress.read? text = none)
    (pointRead : readWithPoint refusal text = .ok written) :
    ∃ form, Writes form text written := by
  rw [readWithPoint] at pointRead
  cases cut : cutAtLast? '.' text with
  | none => simp [cut] at pointRead
  | some found =>
      obtain ⟨literal, digits⟩ := found
      obtain ⟨rfl, _⟩ := cutAtLast?_eq_some_iff.1 cut
      simp only [cut] at pointRead
      split at pointRead
      · contradiction
      · split at pointRead
        · contradiction
        · next port portRead =>
            have writesPort := Port.read_eq_ok_iff.1 portRead
            split at pointRead
            · contradiction
            · next host literalRead =>
                obtain rfl := Except.ok.inj pointRead
                exact ⟨.withPoint, .withPoint literalRead
                  (zone?_eq_none_of_point literalRead writesPort noLiteral) writesPort⟩

/-- What the reader accepts is written in one of the forms. -/
theorem writes_of_read {value : List Char} {written : Written}
    (valueRead : read value = .ok written) : ∃ form, Writes form (trim value) written := by
  rw [read] at valueRead
  generalize trim value = text at valueRead ⊢
  cases noLiteral : IpAddress.read? text with
  | some host =>
      simp only [noLiteral, Except.ok.injEq] at valueRead
      obtain rfl := valueRead
      exact ⟨.alone, .alone noLiteral⟩
  | none =>
      simp only [noLiteral] at valueRead
      rw [readWithPort.eq_def] at valueRead
      split at valueRead
      · exact writes_of_readBracketed valueRead
      · split at valueRead
        · next host digits cut =>
            obtain ⟨rfl, pureHost⟩ := cutAtFirst?_eq_some_iff.1 cut
            split at valueRead
            · exact writes_of_readWithPoint noLiteral valueRead
            · exact writes_of_readWithColon pureHost valueRead
        · exact writes_of_readWithPoint noLiteral valueRead

/-- The reader accepts exactly the forms. -/
theorem read_eq_ok_iff {value : List Char} {written : Written} :
    read value = .ok written ↔ ∃ form, Writes form (trim value) written := by
  constructor
  · exact writes_of_read
  · rintro ⟨form, derived⟩
    exact read_of_writes derived

/-! ## Refusals -/

variable {named : String} {cause : EndpointError}

theorem withPort_ne_endpoint (host : IpAddress) (digits : List Char) :
    withPort host digits ≠ .error (.endpoint cause) := by
  rw [withPort]
  split <;> simp

theorem readBracketed_ne_endpoint (rest : List Char) :
    readBracketed (.notAnAddress named) rest ≠ .error (.endpoint cause) := by
  rw [readBracketed]
  split
  · simp
  · split
    · simp
    · split
      · simp
      · exact withPort_ne_endpoint _ _
      · simp

theorem readWithColon_ne_endpoint (host digits : List Char) :
    readWithColon (.notAnAddress named) host digits ≠ .error (.endpoint cause) := by
  rw [readWithColon]
  split
  · simp
  · exact withPort_ne_endpoint _ _

theorem readWithPoint_ne_endpoint (text : List Char) :
    readWithPoint (.notAnAddress named) text ≠ .error (.endpoint cause) := by
  rw [readWithPoint]
  split
  · simp
  · split
    · simp
    · split
      · simp
      · split <;> simp

/-- The reader itself looks at no port but those that are written. -/
theorem read_ne_endpoint (value : List Char) : read value ≠ .error (.endpoint cause) := by
  rw [read]
  split
  · simp
  · rw [readWithPort.eq_def]
    split
    · exact readBracketed_ne_endpoint _
    · split
      · split
        · exact readWithPoint_ne_endpoint _
        · exact readWithColon_ne_endpoint _ _
      · exact readWithPoint_ne_endpoint _

/-! ## Endpoints -/

theorem checkPort_val (port : Port) : Endpoint.checkPort (.int port.val) = .ok port := by
  have inRange : (0 : Int) ≤ (port.val : Int) ∧ (port.val : Int) < 65536 := by
    have small : port.val < 65536 := port.isLt
    omega
  rw [Endpoint.checkPort, dif_pos inRange]
  simp

/-- The endpoint of a server takes the given port exactly if the server names none. -/
theorem Written.endpoint_val (written : Written) (default : Port) :
    written.endpoint (.int default.val) = .ok ⟨written.host, written.port.getD default⟩ := by
  obtain ⟨host, port⟩ := written
  rw [Written.endpoint]
  cases port with
  | none =>
      simp only [Endpoint.withPort, checkPort_val]
      rfl
  | some port => rfl

theorem readEndpoint_of_read {value : List Char} {written : Written}
    (valueRead : read value = .ok written) (default : Port) :
    readEndpoint value (.int default.val) = .ok ⟨written.host, written.port.getD default⟩ := by
  rw [readEndpoint, valueRead, Except.bind, Written.endpoint_val]

theorem readEndpoint_of_refused {value : List Char} {error : NameserverError}
    (refused : read value = .error error) (default : Value) :
    readEndpoint value default = .error error := by
  rw [readEndpoint, refused]
  rfl

theorem readEndpoint_eq_ok_iff {value : List Char} {default : Port} {server : Endpoint} :
    readEndpoint value (.int default.val) = .ok server ↔
      ∃ form written, Writes form (trim value) written ∧
        server = ⟨written.host, written.port.getD default⟩ := by
  cases valueRead : read value with
  | error error =>
      rw [readEndpoint_of_refused valueRead]
      constructor
      · intro equal
        contradiction
      · rintro ⟨form, written, derived, _⟩
        rw [read_of_writes derived] at valueRead
        contradiction
  | ok written =>
      rw [readEndpoint_of_read valueRead, Except.ok.injEq]
      constructor
      · rintro rfl
        obtain ⟨form, derived⟩ := writes_of_read valueRead
        exact ⟨form, written, derived, rfl⟩
      · rintro ⟨form, other, derived, rfl⟩
        have same := read_of_writes derived
        rw [valueRead] at same
        rw [Except.ok.inj same]

/-- What has none of the forms is refused for what it says. -/
theorem readEndpoint_refused {value : List Char} {default : Port}
    (formless : ¬ ∃ form written, Writes form (trim value) written) :
    ∃ error, readEndpoint value (.int default.val) = .error error ∧
      ((∃ text, error = .notAnAddress text) ∨ ∃ cause, error = .port cause) := by
  cases valueRead : read value with
  | ok written =>
      obtain ⟨form, derived⟩ := writes_of_read valueRead
      exact absurd ⟨form, written, derived⟩ formless
  | error error =>
      refine ⟨error, readEndpoint_of_refused valueRead _, ?_⟩
      cases error with
      | notAnAddress text => exact Or.inl ⟨text, rfl⟩
      | port cause => exact Or.inr ⟨cause, rfl⟩
      | endpoint cause => exact absurd valueRead (read_ne_endpoint value)

/-- Digits behind a zone and a point belong to the zone. -/
theorem readEndpoint_zone_digits {value literal digits : List Char} {default : Port}
    {groups : Vector UInt16 8} {zone : Zone} (trimmed : trim value = literal ++ '.' :: digits)
    (zoned : Ipv6.read? literal = some ⟨groups, some zone⟩)
    (allDigits : ∀ character ∈ digits, isDigit character = true) :
    ∃ longer : Zone, longer.text = zone.text ++ '.' :: digits ∧
      readEndpoint value (.int default.val) = .ok ⟨.v6 ⟨groups, some longer⟩, default⟩ := by
  have absent {character : Char} (noPoint : character ≠ '.')
      (noDigit : isDigit character = false) : character ∉ '.' :: digits := by
    intro member
    rcases List.mem_cons.1 member with point | inside
    · exact noPoint point
    · rw [allDigits character inside] at noDigit
      contradiction
  have noPercent : '%' ∉ '.' :: digits := absent (by decide) (by decide)
  have noSlash : '/' ∉ '.' :: digits := absent (by decide) (by decide)
  obtain ⟨longer, text, longerRead⟩ := Ipv6.read?_append_of_zone zoned noPercent noSlash
  refine ⟨longer, text, ?_⟩
  rw [← trimmed] at longerRead
  exact readEndpoint_of_read
    (read_of_writes (.alone (IpAddress.read?_eq_v6_iff.2 longerRead))) default

/-- **The grammar is exact and unambiguous.** The reader gives a server exactly if the trimmed text
writes it in one of the five forms, with the given port where the text names none; any other text is
refused for what it says. No text has two forms, and digits behind a zone are never a port. -/
theorem readEndpoint_grammar (value : List Char) (default : Port) :
    (∀ server, readEndpoint value (.int default.val) = .ok server ↔
        ∃ form written, Writes form (trim value) written ∧
          server = ⟨written.host, written.port.getD default⟩) ∧
      ((¬ ∃ form written, Writes form (trim value) written) →
        ∃ error, readEndpoint value (.int default.val) = .error error ∧
          ((∃ text, error = .notAnAddress text) ∨ ∃ cause, error = .port cause)) ∧
      (∀ first second left right, Writes first (trim value) left →
        Writes second (trim value) right → first = second ∧ left = right) ∧
      ∀ literal digits groups zone, trim value = literal ++ '.' :: digits →
        Ipv6.read? literal = some ⟨groups, some zone⟩ →
        (∀ character ∈ digits, isDigit character = true) →
        ∃ longer : Zone, longer.text = zone.text ++ '.' :: digits ∧
          readEndpoint value (.int default.val) = .ok ⟨.v6 ⟨groups, some longer⟩, default⟩ := by
  refine ⟨fun server => readEndpoint_eq_ok_iff, readEndpoint_refused, ?_, ?_⟩
  · intro first second left right leftDerived rightDerived
    have same := (read_of_writes leftDerived).symm.trans (read_of_writes rightDerived)
    exact ⟨leftDerived.eq_formOf.trans rightDerived.eq_formOf.symm, Except.ok.inj same⟩
  · intro literal digits groups zone trimmed zoned allDigits
    exact readEndpoint_zone_digits trimmed zoned allDigits

/-- The hypotheses of the grammar are met by a text with digits behind a zone, by one without a form
and by one with a port behind a point. -/
theorem readEndpoint_grammar_met :
    (∃ longer : Zone, longer.text = "eth0".toList ++ '.' :: "53".toList ∧
        readEndpoint " fe80::1%eth0.53".toList (.int dnsPort.val) =
          .ok ⟨.v6 ⟨#v[0xFE80, 0, 0, 0, 0, 0, 0, 1], some longer⟩, dnsPort⟩) ∧
      (∃ error, readEndpoint "10.0.0.1:".toList (.int dnsPort.val) = .error error) ∧
      ∀ second right, Writes second "10.0.0.1.9953".toList right →
        Form.withPoint = second ∧ ⟨.v4 ⟨10, 0, 0, 1⟩, some 9953⟩ = right := by
  refine ⟨?_, ?_, ?_⟩
  · obtain ⟨_, _, _, zoneDigits⟩ := readEndpoint_grammar " fe80::1%eth0.53".toList dnsPort
    exact zoneDigits "fe80::1%eth0".toList "53".toList _ ⟨"eth0".toList, by decide⟩ (by decide)
      (by decide) (List.all_eq_true.1 (by decide))
  · obtain ⟨_, refused, _, _⟩ := readEndpoint_grammar "10.0.0.1:".toList dnsPort
    have formless : ¬ ∃ form written, Writes form (trim "10.0.0.1:".toList) written := by
      rintro ⟨form, written, derived⟩
      have accepted := congrArg Except.toOption (read_of_writes derived)
      rw [show (read "10.0.0.1:".toList).toOption = none by decide] at accepted
      contradiction
    obtain ⟨error, equal, _⟩ := refused formless
    exact ⟨error, equal⟩
  · intro second right derived
    obtain ⟨_, _, unique, _⟩ := readEndpoint_grammar "10.0.0.1.9953".toList dnsPort
    have trimmed : trim "10.0.0.1.9953".toList = "10.0.0.1".toList ++ '.' :: "9953".toList := by
      decide
    have pointed : Writes .withPoint ("10.0.0.1".toList ++ '.' :: "9953".toList)
        ⟨.v4 ⟨10, 0, 0, 1⟩, some 9953⟩ :=
      .withPoint (by decide) rfl (Port.read_eq_ok_iff.1 rfl)
    exact unique _ _ _ _ (trimmed ▸ pointed) derived

end HostResolver.Address.Nameserver
