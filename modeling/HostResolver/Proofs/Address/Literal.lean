import HostResolver.Address.Nameserver
import HostResolver.Proofs.Text.Fields

/-!
The shape of address literals.

Owns: which characters a literal without a zone is made of, how many points an IPv4 literal has and
how many colons an IPv6 literal has at least, that no text is a literal of both versions, and that a
zone takes in whatever is put behind it.

Does not own: the values that literals denote.
-/

namespace HostResolver.Address

open HostResolver.Text

/-! ## Characters -/

/-- Whether a character can stand in a literal outside the zone. -/
def isLiteralChar (character : Char) : Bool :=
  (hexValue? character).isSome || character == '.' || character == ':'

theorem toNat_bounds_of_isDigit {character : Char} (digit : isDigit character = true) :
    48 ≤ character.toNat ∧ character.toNat ≤ 57 := by
  simp only [isDigit, Bool.and_eq_true, decide_eq_true_eq, Char.le_def,
    UInt32.le_iff_toNat_le] at digit
  exact digit

theorem isLiteralChar_of_isDigit {character : Char} (digit : isDigit character = true) :
    isLiteralChar character = true := by
  obtain ⟨low, high⟩ := toNat_bounds_of_isDigit digit
  simp [isLiteralChar, hexValue?, low, high]

namespace Ipv4

theorem isDigit_of_readOctet? {text : List Char} {octet : UInt8}
    (octetRead : readOctet? text = some octet) :
    ∀ character ∈ text, isDigit character = true := by
  rw [readOctet?] at octetRead
  split at octetRead
  · contradiction
  · next accepted =>
      simp only [Bool.or_eq_true, not_or, Bool.not_eq_true, Bool.not_eq_false',
        List.all_eq_true] at accepted
      exact accepted.1.2

/-- The fields of an address are four octets. -/
theorem octets_of_read? {text : List Char} {address : Ipv4}
    (literal : read? text = some address) :
    (fields '.' text).length = 4 ∧
      ∀ field ∈ fields '.' text, (readOctet? field).isSome = true := by
  rw [read?] at literal
  split at literal
  · next first second third fourth octets =>
      constructor
      · have counted := congrArg List.length octets
        simpa using counted
      · intro field member
        have mapped : readOctet? field ∈ (fields '.' text).map readOctet? :=
          List.mem_map_of_mem member
        rw [octets] at mapped
        simp only [List.mem_cons, List.not_mem_nil, or_false] at mapped
        rcases mapped with same | same | same | same <;> rw [same] <;> rfl
  · contradiction

/-- An address has three points. -/
theorem count_point {text : List Char} {address : Ipv4} (literal : read? text = some address) :
    text.count '.' = 3 := by
  have counted := (octets_of_read? literal).1
  rw [length_fields] at counted
  omega

theorem point_or_isDigit {text : List Char} {address : Ipv4}
    (literal : read? text = some address) {character : Char} (member : character ∈ text) :
    character = '.' ∨ isDigit character = true := by
  rcases eq_or_mem_fields '.' member with point | ⟨field, isField, inside⟩
  · exact Or.inl point
  · obtain ⟨octet, octetRead⟩ := Option.isSome_iff_exists.1
      ((octets_of_read? literal).2 field isField)
    exact Or.inr (isDigit_of_readOctet? octetRead character inside)

theorem isLiteralChar_of_mem {text : List Char} {address : Ipv4}
    (literal : read? text = some address) :
    ∀ character ∈ text, isLiteralChar character = true := by
  intro character member
  rcases point_or_isDigit literal member with rfl | digit
  · decide
  · exact isLiteralChar_of_isDigit digit

theorem colon_not_mem {text : List Char} {address : Ipv4} (literal : read? text = some address) :
    ':' ∉ text := by
  intro member
  rcases point_or_isDigit literal member with point | digit
  · contradiction
  · contradiction

end Ipv4

namespace Ipv6

/-! ## Groups -/

theorem hexValue?_isSome_of_mapM {text : List Char} {digits : List Nat}
    (converted : text.mapM hexValue? = some digits) :
    ∀ character ∈ text, (hexValue? character).isSome = true := by
  induction text generalizing digits with
  | nil => simp
  | cons first rest inductionHypothesis =>
      rw [List.mapM_cons] at converted
      obtain ⟨value, valued, converted⟩ := Option.bind_eq_some_iff.1 converted
      obtain ⟨others, othersConverted, _⟩ := Option.bind_eq_some_iff.1 converted
      intro character member
      rcases List.mem_cons.1 member with rfl | later
      · rw [valued]
        rfl
      · exact inductionHypothesis othersConverted character later

theorem isLiteralChar_of_readGroup? {text : List Char} {group : UInt16}
    (groupRead : readGroup? text = some group) :
    ∀ character ∈ text, isLiteralChar character = true := by
  rw [readGroup?] at groupRead
  split at groupRead
  · contradiction
  · obtain ⟨digits, converted, _⟩ := Option.map_eq_some_iff.1 groupRead
    intro character member
    simp [isLiteralChar, hexValue?_isSome_of_mapM converted character member]

theorem isLiteralChar_of_readCell? {text : List Char} {cell : Option UInt16}
    (cellRead : readCell? text = some cell) :
    ∀ character ∈ text, isLiteralChar character = true := by
  rw [readCell?] at cellRead
  split at cellRead
  · next empty => simp [List.isEmpty_iff.1 empty]
  · obtain ⟨group, groupRead, _⟩ := Option.map_eq_some_iff.1 cellRead
    exact isLiteralChar_of_readGroup? groupRead

/-- The last field is an IPv4 address or a cell; it has points only as the former. -/
theorem readCells?_singleton {last : List Char} {cells : List (Option UInt16)}
    (cellsRead : readCells? [last] = some cells) :
    ('.' ∈ last ∧ ∃ address, Ipv4.read? last = some address ∧
        cells = address.groups.map some) ∨
      ('.' ∉ last ∧ ∃ cell, readCell? last = some cell ∧ cells = [cell]) := by
  rw [readCells?] at cellsRead
  split at cellsRead
  · next pointed =>
      obtain ⟨address, literal, equal⟩ := Option.map_eq_some_iff.1 cellsRead
      exact Or.inl ⟨by simpa using pointed, address, literal, equal.symm⟩
  · next pointless =>
      obtain ⟨cell, cellRead, equal⟩ := Option.map_eq_some_iff.1 cellsRead
      exact Or.inr ⟨by simpa using pointless, cell, cellRead, equal.symm⟩

/-- The fields in front of the last one are cells. -/
theorem readCells?_cons {field : List Char} {fields : List (List Char)} (more : fields ≠ [])
    {cells : List (Option UInt16)} (cellsRead : readCells? (field :: fields) = some cells) :
    ∃ cell others, readCell? field = some cell ∧ readCells? fields = some others ∧
      cells = cell :: others := by
  rw [readCells?.eq_3 _ _ more] at cellsRead
  obtain ⟨cell, cellRead, cellsRead⟩ := Option.bind_eq_some_iff.1 cellsRead
  obtain ⟨others, othersRead, equal⟩ := Option.bind_eq_some_iff.1 cellsRead
  exact ⟨cell, others, cellRead, othersRead, (Option.some.inj equal).symm⟩

theorem isLiteralChar_of_readCells? {fields : List (List Char)} {cells : List (Option UInt16)}
    (cellsRead : readCells? fields = some cells) :
    ∀ field ∈ fields, ∀ character ∈ field, isLiteralChar character = true := by
  induction fields generalizing cells with
  | nil => simp
  | cons first rest inductionHypothesis =>
      intro field member
      by_cases more : rest = []
      · rw [more, List.mem_singleton] at member
        rw [member]
        rw [more] at cellsRead
        rcases readCells?_singleton cellsRead with ⟨_, address, literal, _⟩ | ⟨_, cell, cellRead, _⟩
        · exact Ipv4.isLiteralChar_of_mem literal
        · exact isLiteralChar_of_readCell? cellRead
      · obtain ⟨cell, others, cellRead, othersRead, _⟩ := readCells?_cons more cellsRead
        rcases List.mem_cons.1 member with rfl | later
        · exact isLiteralChar_of_readCell? cellRead
        · exact inductionHypothesis othersRead field later

/-- The last of the fields is an IPv4 address if there is a point in it. -/
theorem isSome_read?_last {front : List (List Char)} {last : List Char}
    {cells : List (Option UInt16)} (cellsRead : readCells? (front ++ [last]) = some cells)
    (pointed : '.' ∈ last) : (Ipv4.read? last).isSome = true := by
  induction front generalizing cells with
  | nil =>
      rcases readCells?_singleton cellsRead with ⟨_, address, literal, _⟩ | ⟨pointless, _⟩
      · rw [literal]
        rfl
      · exact absurd pointed pointless
  | cons first rest inductionHypothesis =>
      obtain ⟨_, others, _, othersRead, _⟩ := readCells?_cons (by simp) cellsRead
      exact inductionHypothesis othersRead

/-! ## Colons -/

theorem lowGroups?_ne_nil {cells : List (Option UInt16)} {low : List UInt16}
    (lowRead : lowGroups? cells = some low) : cells ≠ [] := by
  rintro rfl
  simp [lowGroups?] at lowRead

theorem length_leadingGroups (cells : List (Option UInt16)) :
    (leadingGroups cells).1.length + (leadingGroups cells).2.length = cells.length := by
  induction cells with
  | nil => rfl
  | cons cell rest inductionHypothesis =>
      cases cell with
      | none => simp [leadingGroups]
      | some group =>
          simp only [leadingGroups, List.length_cons]
          omega

theorem exactly?_eq_some {high : List UInt16} {groups : Vector UInt16 8}
    (eight : exactly? high = some groups) : high.length = 8 := by
  rw [exactly?] at eight
  split at eight
  · assumption
  · contradiction

/-- Fewer than three cells make no address. -/
theorem three_le_length_of_assemble? {cells : List (Option UInt16)} {groups : Vector UInt16 8}
    (assembled : assemble? cells = some groups) : 3 ≤ cells.length := by
  match cells with
  | [] => simp [assemble?, leadingGroups, exactly?] at assembled
  | [none] => simp [assemble?] at assembled
  | none :: some _ :: _ => simp [assemble?] at assembled
  | none :: none :: rest =>
      obtain ⟨low, lowRead, _⟩ := Option.bind_eq_some_iff.1 assembled
      have more := List.length_pos_iff.2 (lowGroups?_ne_nil lowRead)
      simp only [List.length_cons]
      omega
  | some group :: rest =>
      have counted := length_leadingGroups rest
      simp only [assemble?, leadingGroups] at assembled
      split at assembled
      · next high leading =>
          simp only [Prod.mk.injEq] at leading
          obtain ⟨rfl, noRest⟩ := leading
          have eight := exactly?_eq_some assembled
          simp only [noRest, List.length_nil, List.length_cons] at counted eight ⊢
          omega
      · next high cell behind leading =>
          simp only [Prod.mk.injEq] at leading
          obtain ⟨low, lowRead, _⟩ := Option.bind_eq_some_iff.1 assembled
          have more := List.length_pos_iff.2 (lowGroups?_ne_nil lowRead)
          simp only [leading.2, List.length_cons] at counted ⊢
          omega

/-- A cell and an IPv4 address make no address. -/
theorem assemble?_cell_address (cell : Option UInt16) (address : Ipv4) :
    assemble? (cell :: address.groups.map some) = none := by
  cases cell with
  | none => rfl
  | some group => rfl

/-- An address without a zone has two colons at least. -/
theorem two_le_count_colon {text : List Char} {groups : Vector UInt16 8}
    (literal : readGroups? text = some groups) : 2 ≤ text.count ':' := by
  obtain ⟨cells, cellsRead, assembled⟩ := Option.bind_eq_some_iff.1 literal
  have enough := three_le_length_of_assemble? assembled
  have counted := length_fields ':' text
  match split : fields ':' text with
  | [] => exact absurd split (fields_ne_nil ':' text)
  | [_] =>
      rw [split] at cellsRead
      rcases readCells?_singleton cellsRead with ⟨_, address, _, rfl⟩ | ⟨_, cell, _, rfl⟩
      · simp [Ipv4.groups] at enough
      · simp at enough
  | [_, _] =>
      rw [split] at cellsRead
      obtain ⟨cell, others, _, othersRead, rfl⟩ := readCells?_cons (by simp) cellsRead
      rcases readCells?_singleton othersRead with ⟨_, address, _, rfl⟩ | ⟨_, cell, _, rfl⟩
      · rw [assemble?_cell_address] at assembled
        contradiction
      · simp at enough
  | _ :: _ :: _ :: _ =>
      rw [split] at counted
      simp only [List.length_cons] at counted
      omega

theorem isLiteralChar_of_readGroups? {text : List Char} {groups : Vector UInt16 8}
    (literal : readGroups? text = some groups) :
    ∀ character ∈ text, isLiteralChar character = true := by
  obtain ⟨cells, cellsRead, _⟩ := Option.bind_eq_some_iff.1 literal
  intro character member
  rcases eq_or_mem_fields ':' member with rfl | ⟨field, isField, inside⟩
  · decide
  · exact isLiteralChar_of_readCells? cellsRead field isField character inside

/-! ## Zones -/

theorem percent_not_mem {text : List Char} {groups : Vector UInt16 8}
    (literal : readGroups? text = some groups) : '%' ∉ text := by
  intro member
  have wrong := isLiteralChar_of_readGroups? literal '%' member
  contradiction

/-- An address without a zone is written without a per cent sign. -/
theorem read?_eq_some_zoneless_iff {text : List Char} {groups : Vector UInt16 8} :
    read? text = some ⟨groups, none⟩ ↔ readGroups? text = some groups := by
  rw [read?]
  constructor
  · intro literal
    split at literal
    · simpa using literal
    · next before after cut =>
        obtain ⟨_, _, literal⟩ := Option.bind_eq_some_iff.1 literal
        obtain ⟨_, _, literal⟩ := Option.bind_eq_some_iff.1 literal
        simp at literal
  · intro literal
    rw [cutAtFirst?_eq_none_iff.2 (percent_not_mem literal)]
    simp [literal]

theorem readZone?_eq_some_iff {text : List Char} {zone : Zone} :
    readZone? text = some zone ↔ zone.text = text := by
  rw [readZone?]
  constructor
  · intro zoneRead
    split at zoneRead
    · exact (Option.some.inj zoneRead) ▸ rfl
    · contradiction
  · rintro rfl
    rw [dif_pos zone.valid]

/-- An address with a zone is written with the zone behind the first per cent sign. -/
theorem read?_eq_some_zoned_iff {text : List Char} {groups : Vector UInt16 8} {zone : Zone} :
    read? text = some ⟨groups, some zone⟩ ↔
      ∃ before, text = before ++ '%' :: zone.text ∧ readGroups? before = some groups := by
  rw [read?]
  constructor
  · intro literal
    split at literal
    · simp at literal
    · next before after cut =>
        obtain ⟨found, groupsRead, literal⟩ := Option.bind_eq_some_iff.1 literal
        obtain ⟨scope, zoneRead, literal⟩ := Option.bind_eq_some_iff.1 literal
        simp only [Option.pure_def, Option.some.injEq, Ipv6.mk.injEq] at literal
        obtain ⟨rfl, rfl⟩ := literal
        obtain ⟨equal, _⟩ := cutAtFirst?_eq_some_iff.1 cut
        exact ⟨before, by rw [equal, readZone?_eq_some_iff.1 zoneRead], groupsRead⟩
  · rintro ⟨before, rfl, literal⟩
    rw [cutAtFirst?_eq_some_iff.2 ⟨rfl, percent_not_mem literal⟩]
    simp [literal, readZone?_eq_some_iff.2 rfl]

theorem two_le_count_colon_of_read? {text : List Char} {address : Ipv6}
    (literal : read? text = some address) : 2 ≤ text.count ':' := by
  obtain ⟨groups, zone⟩ := address
  cases zone with
  | none => exact two_le_count_colon (read?_eq_some_zoneless_iff.1 literal)
  | some zone =>
      obtain ⟨before, rfl, groupsRead⟩ := read?_eq_some_zoned_iff.1 literal
      have enough := two_le_count_colon groupsRead
      rw [List.count_append]
      omega

/-- The first character of an address stands in front of the zone. -/
theorem isLiteralChar_head {first : Char} {rest : List Char} {address : Ipv6}
    (literal : read? (first :: rest) = some address) : isLiteralChar first = true := by
  obtain ⟨groups, zone⟩ := address
  cases zone with
  | none =>
      exact isLiteralChar_of_readGroups? (read?_eq_some_zoneless_iff.1 literal) first
        List.mem_cons_self
  | some zone =>
      obtain ⟨before, equal, groupsRead⟩ := read?_eq_some_zoned_iff.1 literal
      cases before with
      | nil => simp [readGroups?, fields, readCells?, readCell?, assemble?] at groupsRead
      | cons head tail =>
          rw [List.cons_append, List.cons.injEq] at equal
          rw [equal.1]
          exact isLiteralChar_of_readGroups? groupsRead head List.mem_cons_self

end Ipv6

namespace IpAddress

/-! ## Both versions -/

theorem read?_eq_v4_iff {text : List Char} {address : Ipv4} :
    read? text = some (.v4 address) ↔ Ipv4.read? text = some address := by
  rw [read?]
  cases Ipv4.read? text with
  | some found => simp
  | none => simp

/-- A text with a colon is an IPv6 address or none, and any IPv6 address has one. -/
theorem read?_eq_v6_iff {text : List Char} {address : Ipv6} :
    read? text = some (.v6 address) ↔ Ipv6.read? text = some address := by
  rw [read?]
  cases found : Ipv4.read? text with
  | none => simp
  | some other =>
      have pure := List.count_eq_zero.2 (Ipv4.colon_not_mem found)
      constructor
      · simp
      · intro literal
        have enough := Ipv6.two_le_count_colon_of_read? literal
        omega

theorem read?_eq_none_iff {text : List Char} :
    read? text = none ↔ Ipv4.read? text = none ∧ Ipv6.read? text = none := by
  rw [read?]
  cases Ipv4.read? text with
  | some found => simp
  | none => simp

/-- The zone of an address, if it has one. -/
def zone? : IpAddress → Option Zone
  | .v4 _ => none
  | .v6 address => address.zone

theorem isLiteralChar_head {first : Char} {rest : List Char} {address : IpAddress}
    (literal : read? (first :: rest) = some address) : isLiteralChar first = true := by
  cases address with
  | v4 address =>
      exact Ipv4.isLiteralChar_of_mem (read?_eq_v4_iff.1 literal) first List.mem_cons_self
  | v6 address => exact Ipv6.isLiteralChar_head (read?_eq_v6_iff.1 literal)

/-- No address begins with a bracket. -/
theorem read?_bracket (rest : List Char) : read? ('[' :: rest) = none := by
  cases found : read? ('[' :: rest) with
  | none => rfl
  | some address =>
      have wrong := isLiteralChar_head found
      contradiction

/-- What begins with an address does not begin with a bracket. -/
theorem append_ne_bracket {text : List Char} {address : IpAddress}
    (literal : read? text = some address) (behind rest : List Char) :
    text ++ behind ≠ '[' :: rest := by
  cases text with
  | nil => simp [read?, Ipv4.read?, Ipv6.read?, Ipv6.readGroups?, fields, cutAtFirst?,
      Ipv4.readOctet?, Ipv6.readCells?, Ipv6.readCell?, Ipv6.assemble?] at literal
  | cons first others =>
      intro equal
      rw [List.cons_append, List.cons.injEq] at equal
      rw [equal.1, read?_bracket] at literal
      contradiction

end IpAddress

/-! ## What is put behind a literal -/

/-- A zone takes in what is put behind it. -/
theorem Ipv6.read?_append_of_zone {literal tail : List Char} {groups : Vector UInt16 8}
    {zone : Zone} (zoned : Ipv6.read? literal = some ⟨groups, some zone⟩) (noPercent : '%' ∉ tail)
    (noSlash : '/' ∉ tail) :
    ∃ longer : Zone, longer.text = zone.text ++ tail ∧
      Ipv6.read? (literal ++ tail) = some ⟨groups, some longer⟩ := by
  obtain ⟨before, rfl, groupsRead⟩ := Ipv6.read?_eq_some_zoned_iff.1 zoned
  have valid : isZone (zone.text ++ tail) = true := by
    have old := zone.valid
    simp only [isZone, Bool.and_eq_true, Bool.not_eq_true', List.contains_eq_mem,
      decide_eq_false_iff_not, List.isEmpty_eq_false_iff, List.mem_append] at old ⊢
    exact ⟨⟨List.append_ne_nil_of_left_ne_nil old.1.1 tail, not_or.2 ⟨old.1.2, noPercent⟩⟩,
      not_or.2 ⟨old.2, noSlash⟩⟩
  refine ⟨⟨zone.text ++ tail, valid⟩, rfl, Ipv6.read?_eq_some_zoned_iff.2 ⟨before, ?_, groupsRead⟩⟩
  rw [List.append_assoc, List.cons_append]

/-- Without a zone, no address can have another field behind a further point. -/
theorem Ipv6.readGroups?_append_point {literal tail : List Char} {groups : Vector UInt16 8}
    (literalRead : Ipv6.readGroups? literal = some groups) (noColon : ':' ∉ tail)
    (noPoint : '.' ∉ tail) : Ipv6.readGroups? (literal ++ '.' :: tail) = none := by
  -- Only the field behind the last colon changes.
  have colon : ':' ∈ literal := by
    have enough := Ipv6.two_le_count_colon literalRead
    exact List.count_pos_iff.1 (by omega)
  obtain ⟨cut, found⟩ := Option.ne_none_iff_exists'.1
    (fun absent => cutAtLast?_eq_none_iff.1 absent colon)
  obtain ⟨front, last⟩ := cut
  obtain ⟨rfl, lastPure⟩ := cutAtLast?_eq_some_iff.1 found
  have longerPure : ':' ∉ last ++ '.' :: tail := by
    simp [lastPure, noColon]
  obtain ⟨cells, cellsRead, _⟩ := Option.bind_eq_some_iff.1 literalRead
  rw [fields_append_cons, fields_of_not_mem lastPure] at cellsRead
  have longerRead : Ipv6.readCells? (fields ':' (front ++ ':' :: last ++ '.' :: tail)) = none := by
    rw [List.append_assoc, List.cons_append, fields_append_cons, fields_of_not_mem longerPure]
    cases longer : Ipv6.readCells? (fields ':' front ++ [last ++ '.' :: tail]) with
    | none => rfl
    | some others =>
        obtain ⟨address, addressRead⟩ := Option.isSome_iff_exists.1
          (Ipv6.isSome_read?_last longer (by simp))
        have counted := Ipv4.count_point addressRead
        rw [List.count_append, List.count_cons_self, List.count_eq_zero.2 noPoint] at counted
        have pointed : '.' ∈ last := List.count_pos_iff.1 (by omega)
        obtain ⟨old, oldRead⟩ := Option.isSome_iff_exists.1
          (Ipv6.isSome_read?_last cellsRead pointed)
        have oldCounted := Ipv4.count_point oldRead
        omega
  rw [Ipv6.readGroups?, longerRead, Option.bind_none]

end HostResolver.Address
