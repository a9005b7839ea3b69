import HostResolver.Proofs.Address.ReadBack
import Mathlib.Data.Finset.Card

/-!
Texts of endpoints as their identity.

Owns: that an endpoint is built again from the text of its host and its port, that the texts of two
endpoints are equal only if the endpoints are, which endpoint a host text with a zone gives, and
that an IPv4 address and the IPv6 address that maps it are different endpoints.

Does not own: texts that are read as endpoints with their port.

The zone of an address can hold brackets, colons and digits. A text of an endpoint is therefore cut
at its last colon, behind which stand the digits of the port alone.
-/

namespace HostResolver.Address

open HostResolver.Document HostResolver.Number HostResolver.Text

/-! ## Texts of hosts -/

theorem IpAddress.chars_injective {left right : IpAddress} (same : left.chars = right.chars) :
    left = right := by
  have leftRead := left.read?_chars
  rw [same, right.read?_chars] at leftRead
  exact (Option.some.inj leftRead).symm

/-- An address without a zone, and a zone behind a per cent sign, are read apart. -/
theorem IpAddress.read?_append_percent {literal zone : List Char} (noPercent : '%' ∉ literal)
    {host : IpAddress} :
    read? (literal ++ '%' :: zone) = some host ↔
      ∃ groups kept, kept.text = zone ∧ read? literal = some (.v6 ⟨groups, none⟩) ∧
        host = .v6 ⟨groups, some kept⟩ := by
  have percent : '%' ∈ literal ++ '%' :: zone := by simp
  constructor
  · intro found
    cases host with
    | v4 address =>
        have literalChar := Ipv4.isLiteralChar_of_mem (read?_eq_v4_iff.1 found) '%' percent
        contradiction
    | v6 address =>
        obtain ⟨groups, zone?⟩ := address
        have sixFound := read?_eq_v6_iff.1 found
        cases zone? with
        | none =>
            exact absurd percent
              (Ipv6.percent_not_mem (Ipv6.read?_eq_some_zoneless_iff.1 sixFound))
        | some kept =>
            obtain ⟨before, split, groupsRead⟩ := Ipv6.read?_eq_some_zoned_iff.1 sixFound
            have here : cutAtFirst? '%' (literal ++ '%' :: zone) = some (literal, zone) :=
              cutAtFirst?_eq_some_iff.2 ⟨rfl, noPercent⟩
            have there := cutAtFirst?_eq_some_iff.2 ⟨split, Ipv6.percent_not_mem groupsRead⟩
            rw [here, Option.some.injEq, Prod.mk.injEq] at there
            obtain ⟨rfl, keptText⟩ := there
            exact ⟨groups, kept, keptText.symm,
              read?_eq_v6_iff.2 (Ipv6.read?_eq_some_zoneless_iff.2 groupsRead), rfl⟩
  · rintro ⟨groups, kept, rfl, literalRead, rfl⟩
    have groupsRead := Ipv6.read?_eq_some_zoneless_iff.1 (read?_eq_v6_iff.1 literalRead)
    exact read?_eq_v6_iff.2 (Ipv6.read?_eq_some_zoned_iff.2 ⟨literal, rfl, groupsRead⟩)

/-! ## Mapped addresses -/

namespace Ipv4

/-- The IPv6 address that maps an IPv4 address. -/
def mapped (address : Ipv4) : Ipv6 :=
  ⟨⟨([0, 0, 0, 0, 0, 0xFFFF] ++ address.groups).toArray, rfl⟩, none⟩

theorem point_mem_chars (address : Ipv4) : '.' ∈ address.chars := by
  simp [chars]

/-- An IPv4 address behind the prefix of mapped addresses is read as the one that maps it. -/
theorem read?_mapped (address : Ipv4) :
    IpAddress.read? ("::ffff:".toList ++ address.chars) = some (.v6 address.mapped) := by
  have noColon : ':' ∉ address.chars := colon_not_mem address.read?_chars
  have split : fields ':' ("::ffff:".toList ++ address.chars) =
      [[], [], "ffff".toList, address.chars] := by
    have shape : "::ffff:".toList ++ address.chars = "::ffff".toList ++ ':' :: address.chars := rfl
    rw [shape, fields_append_cons, fields_of_not_mem noColon]
    rfl
  have lastCell : Ipv6.readCells? [address.chars] = some (address.groups.map some) := by
    have pointed : address.chars.contains '.' = true := by
      simpa using address.point_mem_chars
    rw [Ipv6.readCells?, if_pos pointed, address.read?_chars]
    rfl
  have cells : Ipv6.readCells? [[], [], "ffff".toList, address.chars] =
      some (none :: none :: some 0xFFFF :: address.groups.map some) := by
    have group : Ipv6.readCell? "ffff".toList = some (some 0xFFFF) := by decide
    have noGroup : Ipv6.readCell? [] = some none := rfl
    simp only [Ipv6.readCells?, noGroup, group] at lastCell ⊢
    rw [lastCell]
    rfl
  rw [IpAddress.read?_eq_v6_iff]
  apply Ipv6.read?_eq_some_zoneless_iff.2
  rw [Ipv6.readGroups?, split, cells]
  rfl

end Ipv4

namespace Endpoint

/-! ## Endpoints from texts and ports -/

theorem ofValues_of_read {text : String} {address : IpAddress}
    (found : IpAddress.read? text.toList = some address) (port : Port) :
    ofValues (.text text) (.int port.val) = .ok ⟨address, port⟩ := by
  have hostText : (Value.text text).shown = text := rfl
  rw [ofValues, hostText, found]
  dsimp only
  rw [withPort, Nameserver.checkPort_val]
  rfl

/-- A host text and a port give an endpoint exactly if the text is read as an address. -/
theorem ofValues_eq_ok_iff {text : String} {port : Port} {server : Endpoint} :
    ofValues (.text text) (.int port.val) = .ok server ↔
      IpAddress.read? text.toList = some server.host ∧ server.port = port := by
  constructor
  · intro built
    cases found : IpAddress.read? text.toList with
    | none =>
        have hostText : (Value.text text).shown = text := rfl
        rw [ofValues, hostText, found] at built
        contradiction
    | some address =>
        rw [ofValues_of_read found] at built
        rw [← Except.ok.inj built]
        exact ⟨rfl, rfl⟩
  · rintro ⟨found, rfl⟩
    exact ofValues_of_read found server.port

/-- An endpoint is built again from its pair. -/
theorem ofValues_pair (server : Endpoint) :
    ofValues (.text server.pair.1) (.int server.pair.2) = .ok server := by
  apply ofValues_eq_ok_iff.2
  refine ⟨?_, rfl⟩
  rw [pair, IpAddress.shown, String.toList_ofList]
  exact server.host.read?_chars

/-! ## Equal texts -/

theorem pair_injective {left right : Endpoint} (same : left.pair = right.pair) : left = right := by
  have leftBuilt := ofValues_pair left
  rw [same, ofValues_pair] at leftBuilt
  exact (Except.ok.inj leftBuilt).symm

/-- The text of a host as it stands before a port: an IPv6 address stands in brackets. -/
def hostChars : IpAddress → List Char
  | .v4 address => address.chars
  | .v6 address => '[' :: address.chars ++ [']']

theorem chars_eq (server : Endpoint) :
    server.chars = hostChars server.host ++ ':' :: digitChars server.port.val := by
  obtain ⟨host, port⟩ := server
  cases host <;> simp [chars, hostChars]

/-- A bracket tells an IPv6 address from an IPv4 address. -/
theorem hostChars_v4_ne_v6 (address : Ipv4) (other : Ipv6) :
    hostChars (.v4 address) ≠ hostChars (.v6 other) := by
  intro same
  have begun : (IpAddress.v4 address).chars ++ [] = '[' :: (other.chars ++ [']']) := by
    rw [List.append_nil]
    exact same
  exact IpAddress.append_ne_bracket (IpAddress.read?_chars _) _ _ begun

theorem hostChars_injective {left right : IpAddress} (same : hostChars left = hostChars right) :
    left = right := by
  apply IpAddress.chars_injective
  cases left with
  | v4 address =>
      cases right with
      | v4 other => exact same
      | v6 other => exact absurd same (hostChars_v4_ne_v6 address other)
  | v6 address =>
      cases right with
      | v4 other => exact absurd same.symm (hostChars_v4_ne_v6 other address)
      | v6 other =>
          have inner : '[' :: address.chars = '[' :: other.chars := List.append_cancel_right same
          exact (List.cons.inj inner).2

theorem digitChars_injective {left right : Nat} (same : digitChars left = digitChars right) :
    left = right := by
  rw [← decimalValue_digitChars left, same, decimalValue_digitChars]

/-- **Endpoints with the same text are the same**, whatever stands in their zones. -/
theorem chars_injective {left right : Endpoint} (same : left.chars = right.chars) :
    left = right := by
  have noColon (port : Nat) : ':' ∉ digitChars port := not_mem_digitChars (by decide) port
  have leftCut : cutAtLast? ':' left.chars =
      some (hostChars left.host, digitChars left.port.val) :=
    cutAtLast?_eq_some_iff.2 ⟨left.chars_eq, noColon _⟩
  have rightCut : cutAtLast? ':' right.chars =
      some (hostChars right.host, digitChars right.port.val) :=
    cutAtLast?_eq_some_iff.2 ⟨right.chars_eq, noColon _⟩
  rw [same, rightCut, Option.some.injEq, Prod.mk.injEq] at leftCut
  have sameHost := hostChars_injective leftCut.1
  have samePort := Fin.ext (digitChars_injective leftCut.2)
  obtain ⟨leftHost, leftPort⟩ := left
  obtain ⟨rightHost, rightPort⟩ := right
  simp only at sameHost samePort
  rw [sameHost, samePort]

theorem eq_iff_shown {left right : Endpoint} : left = right ↔ left.shown = right.shown :=
  ⟨fun same => congrArg shown same, fun same => chars_injective (String.ofList_injective same)⟩

theorem eq_iff_pair {left right : Endpoint} : left = right ↔ left.pair = right.pair :=
  ⟨fun same => congrArg pair same, pair_injective⟩

/-- An endpoint whose host text names a zone: the zone is kept as it is written. -/
theorem ofValues_zoned_iff {literal zone : String} (noPercent : '%' ∉ literal.toList) {port : Port}
    {server : Endpoint} :
    ofValues (.text (literal ++ "%" ++ zone)) (.int port.val) = .ok server ↔
      ∃ groups kept, kept.text = zone.toList ∧
        ofValues (.text literal) (.int port.val) = .ok ⟨.v6 ⟨groups, none⟩, port⟩ ∧
        server = ⟨.v6 ⟨groups, some kept⟩, port⟩ := by
  have spelled : (literal ++ "%" ++ zone).toList = literal.toList ++ '%' :: zone.toList := by
    rw [String.toList_append, String.toList_append, List.append_assoc]
    rfl
  obtain ⟨host, serverPort⟩ := server
  rw [ofValues_eq_ok_iff, spelled, IpAddress.read?_append_percent noPercent]
  constructor
  · rintro ⟨⟨groups, kept, keptText, literalRead, rfl⟩, rfl⟩
    exact ⟨groups, kept, keptText, ofValues_eq_ok_iff.2 ⟨literalRead, rfl⟩, rfl⟩
  · rintro ⟨groups, kept, keptText, built, same⟩
    rw [Endpoint.mk.injEq] at same
    exact ⟨⟨groups, kept, keptText, (ofValues_eq_ok_iff.1 built).1, same.1⟩, same.2⟩

/-- Two endpoints with zones are the same if they are the same without their zones, and the texts of
the zones are. -/
theorem eq_iff_of_zoned {leftLiteral leftZone rightLiteral rightZone : String}
    (leftPure : '%' ∉ leftLiteral.toList) (rightPure : '%' ∉ rightLiteral.toList)
    {leftPort rightPort : Port} {left right : Endpoint}
    (leftBuilt :
      ofValues (.text (leftLiteral ++ "%" ++ leftZone)) (.int leftPort.val) = .ok left)
    (rightBuilt :
      ofValues (.text (rightLiteral ++ "%" ++ rightZone)) (.int rightPort.val) = .ok right) :
    left = right ↔
      ofValues (.text leftLiteral) (.int leftPort.val) =
          ofValues (.text rightLiteral) (.int rightPort.val) ∧ leftZone = rightZone := by
  obtain ⟨leftGroups, leftKept, leftText, leftBare, rfl⟩ :=
    (ofValues_zoned_iff leftPure).1 leftBuilt
  obtain ⟨rightGroups, rightKept, rightText, rightBare, rfl⟩ :=
    (ofValues_zoned_iff rightPure).1 rightBuilt
  rw [leftBare, rightBare]
  constructor
  · intro same
    simp only [Endpoint.mk.injEq, IpAddress.v6.injEq, Ipv6.mk.injEq, Option.some.injEq] at same
    obtain ⟨⟨rfl, rfl⟩, rfl⟩ := same
    exact ⟨rfl, String.toList_injective (leftText.symm.trans rightText)⟩
  · rintro ⟨sameBare, rfl⟩
    have sameZone : leftKept = rightKept := by
      obtain ⟨leftCharacters, _⟩ := leftKept
      obtain ⟨rightCharacters, _⟩ := rightKept
      have sameText : leftCharacters = rightCharacters := leftText.trans rightText.symm
      subst sameText
      rfl
    simp only [Except.ok.injEq, Endpoint.mk.injEq, IpAddress.v6.injEq, Ipv6.mk.injEq,
      and_true] at sameBare
    rw [sameZone, sameBare.1, sameBare.2]

/-- A set holds two equal endpoints as one. -/
theorem card_pair_eq_one_iff {left right : Endpoint} :
    ({left, right} : Finset Endpoint).card = 1 ↔ left = right := by
  constructor
  · intro single
    by_contra different
    rw [Finset.card_pair different] at single
    contradiction
  · rintro rfl
    rw [Finset.pair_eq_singleton, Finset.card_singleton]

/-- **The text of an endpoint is canonical, and equality agrees with it.** Every endpoint is built
again from the text of its host and its port. Of two endpoints that are built from accepted host
texts and ports, equality, equal texts and equal pairs are the same, and so a set holds them as one
exactly if their texts are equal. Addresses of different versions are never equal, and that which
maps an IPv4 address is none but an IPv6 address. A zone may be any text without a per cent sign and
a slash, and is compared as it is written. -/
theorem ofValues_canonical :
    (∀ server : Endpoint, ofValues (.text server.pair.1) (.int server.pair.2) = .ok server) ∧
      (∀ (leftText rightText : String) (leftPort rightPort : Port) (left right : Endpoint),
        ofValues (.text leftText) (.int leftPort.val) = .ok left →
        ofValues (.text rightText) (.int rightPort.val) = .ok right →
          (left = right ↔ left.shown = right.shown) ∧ (left = right ↔ left.pair = right.pair) ∧
            (({left, right} : Finset Endpoint).card = 1 ↔ left.shown = right.shown)) ∧
      (∀ left right : Endpoint, left.host.version ≠ right.host.version →
        left ≠ right ∧ left.shown ≠ right.shown ∧ left.pair ≠ right.pair) ∧
      (∀ (address : Ipv4) (port otherPort : Port),
        ofValues (.text ("::ffff:" ++ (IpAddress.v4 address).shown)) (.int port.val) =
            .ok ⟨.v6 address.mapped, port⟩ ∧
          (⟨.v6 address.mapped, port⟩ : Endpoint) ≠ ⟨.v4 address, otherPort⟩) ∧
      (∀ (literal zone : String) (port : Port), '%' ∉ literal.toList →
        ((∃ server, ofValues (.text (literal ++ "%" ++ zone)) (.int port.val) = .ok server) ↔
          isZone zone.toList = true ∧ ∃ groups,
            ofValues (.text literal) (.int port.val) = .ok ⟨.v6 ⟨groups, none⟩, port⟩)) ∧
      ∀ (leftLiteral leftZone rightLiteral rightZone : String) (leftPort rightPort : Port)
        (left right : Endpoint), '%' ∉ leftLiteral.toList → '%' ∉ rightLiteral.toList →
        ofValues (.text (leftLiteral ++ "%" ++ leftZone)) (.int leftPort.val) = .ok left →
        ofValues (.text (rightLiteral ++ "%" ++ rightZone)) (.int rightPort.val) = .ok right →
          (left = right ↔
            ofValues (.text leftLiteral) (.int leftPort.val) =
                ofValues (.text rightLiteral) (.int rightPort.val) ∧ leftZone = rightZone) := by
  refine ⟨ofValues_pair, ?_, ?_, ?_, ?_, ?_⟩
  · intro leftText rightText leftPort rightPort left right _ _
    exact ⟨eq_iff_shown, eq_iff_pair, card_pair_eq_one_iff.trans eq_iff_shown⟩
  · intro left right otherVersion
    have different : left ≠ right := fun same =>
      otherVersion (congrArg (fun server => server.host.version) same)
    exact ⟨different, mt eq_iff_shown.2 different, mt eq_iff_pair.2 different⟩
  · intro address port otherPort
    refine ⟨ofValues_eq_ok_iff.2 ⟨?_, rfl⟩, ?_⟩
    · have spelled : ("::ffff:" ++ (IpAddress.v4 address).shown).toList =
          "::ffff:".toList ++ address.chars := by
        have hostText : (IpAddress.v4 address).shown.toList = address.chars :=
          String.toList_ofList
        rw [String.toList_append, hostText]
      rw [spelled]
      exact address.read?_mapped
    · intro same
      have sameHost := congrArg host same
      contradiction
  · intro literal zone port noPercent
    constructor
    · rintro ⟨server, built⟩
      obtain ⟨groups, kept, keptText, bare, _⟩ := (ofValues_zoned_iff noPercent).1 built
      exact ⟨keptText ▸ kept.valid, groups, bare⟩
    · rintro ⟨valid, groups, bare⟩
      exact ⟨_, (ofValues_zoned_iff noPercent).2 ⟨groups, ⟨zone.toList, valid⟩, rfl, bare, rfl⟩⟩
  · intro leftLiteral leftZone rightLiteral rightZone leftPort rightPort left right leftPure
      rightPure leftBuilt rightBuilt
    exact eq_iff_of_zoned leftPure rightPure leftBuilt rightBuilt

/-- Two spellings of one address give one endpoint in a zone that looks like the end of an
endpoint's text, and another one in another zone. -/
theorem ofValues_canonical_met :
    ∃ left right other,
      ofValues (.text "FE80:0::0:1%a]:5") (.int dnsPort.val) = .ok left ∧
        ofValues (.text "fe80::1%a]:5") (.int dnsPort.val) = .ok right ∧
        ofValues (.text "fe80::1%a]:53") (.int dnsPort.val) = .ok other ∧
        left.shown = right.shown ∧ ({left, right} : Finset Endpoint).card = 1 ∧
        right.shown ≠ other.shown := by
  obtain ⟨_, alike, _, _, accepted, zones⟩ := ofValues_canonical
  have longBare : ofValues (.text "FE80:0::0:1") (.int dnsPort.val) =
      .ok ⟨.v6 ⟨#v[0xFE80, 0, 0, 0, 0, 0, 0, 1], none⟩, dnsPort⟩ :=
    ofValues_of_read (by decide +kernel) dnsPort
  have shortBare : ofValues (.text "fe80::1") (.int dnsPort.val) =
      .ok ⟨.v6 ⟨#v[0xFE80, 0, 0, 0, 0, 0, 0, 1], none⟩, dnsPort⟩ :=
    ofValues_of_read (by decide +kernel) dnsPort
  have longPure : '%' ∉ "FE80:0::0:1".toList := by decide
  have shortPure : '%' ∉ "fe80::1".toList := by decide
  obtain ⟨left, leftBuilt⟩ :=
    (accepted "FE80:0::0:1" "a]:5" dnsPort longPure).2 ⟨by decide, _, longBare⟩
  obtain ⟨right, rightBuilt⟩ :=
    (accepted "fe80::1" "a]:5" dnsPort shortPure).2 ⟨by decide, _, shortBare⟩
  obtain ⟨other, otherBuilt⟩ :=
    (accepted "fe80::1" "a]:53" dnsPort shortPure).2 ⟨by decide, _, shortBare⟩
  have same : left = right := by
    apply (zones _ _ _ _ _ _ left right longPure shortPure leftBuilt rightBuilt).2
    exact ⟨longBare.trans shortBare.symm, rfl⟩
  have different : right ≠ other := by
    intro equal
    have sameZone := ((zones _ _ _ _ _ _ right other shortPure shortPure rightBuilt
      otherBuilt).1 equal).2
    exact absurd sameZone (by decide)
  obtain ⟨shownSame, _, oneElement⟩ := alike _ _ _ _ left right leftBuilt rightBuilt
  have shownOther := (alike _ _ _ _ right other rightBuilt otherBuilt).1
  exact ⟨left, right, other, leftBuilt, rightBuilt, otherBuilt, shownSame.1 same,
    oneElement.2 (shownSame.1 same), mt shownOther.2 different⟩

end Endpoint

end HostResolver.Address
