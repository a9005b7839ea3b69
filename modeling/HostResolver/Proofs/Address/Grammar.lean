import HostResolver.Proofs.Address.Literal
import HostResolver.Proofs.Text.Words

/-!
The grammar of name servers.

Owns: the texts that write a port, the five forms in which a server is written, both stated without
the reader, and that no text has two of these forms.

Does not own: the reader, and the shape of the literals themselves.
-/

namespace HostResolver.Address

open HostResolver.Text HostResolver.Document

/-! ## Ports -/

/-- A text writes a port: between blanks there are 1 to 4300 digits of ASCII with its value. -/
structure WritesPort (text : List Char) (port : Port) : Prop where
  nonempty : trim text ≠ []
  digits : ∀ character ∈ trim text, isDigit character = true
  short : (trim text).length ≤ maxDigits
  value : decimalValue (trim text) = port.val

/-- A port is read from exactly the texts that write it. -/
theorem Port.read_eq_ok_iff {text : List Char} {port : Port} :
    Port.read text = .ok port ↔ WritesPort text port := by
  rw [Port.read]
  constructor
  · intro portRead
    split at portRead
    · contradiction
    · next accepted =>
        simp only [Bool.or_eq_true, List.isEmpty_iff, Bool.not_eq_true', not_or,
          Bool.not_eq_false, List.all_eq_true] at accepted
        split at portRead
        · contradiction
        · next short =>
            split at portRead
            · next inRange =>
                refine ⟨accepted.1, accepted.2, Nat.le_of_not_lt short, ?_⟩
                rw [← Except.ok.inj portRead]
            · contradiction
  · rintro ⟨nonempty, digits, short, value⟩
    have accepted : ¬ ((trim text).isEmpty || !(trim text).all isDigit) = true := by
      simpa [nonempty] using digits
    have inRange : decimalValue (trim text) < 65536 := value ▸ port.isLt
    rw [if_neg accepted, if_neg (Nat.not_lt.2 short), dif_pos inRange]
    exact congrArg Except.ok (Fin.ext value)

theorem WritesPort.isBlank_or_isDigit {text : List Char} {port : Port}
    (written : WritesPort text port) {character : Char} (member : character ∈ text) :
    isBlank character = true ∨ isDigit character = true := by
  rcases isBlank_or_mem_trim member with blank | kept
  · exact Or.inl blank
  · exact Or.inr (written.digits character kept)

/-- A character that is neither blank nor a digit does not stand in the text of a port. -/
theorem WritesPort.not_mem {text : List Char} {port : Port} (written : WritesPort text port)
    {character : Char} (other : (isBlank character || isDigit character) = false) :
    character ∉ text := by
  intro member
  rw [Bool.or_eq_false_iff] at other
  rcases written.isBlank_or_isDigit member with blank | digit
  · exact absurd blank (by simp [other.1])
  · exact absurd digit (by simp [other.2])

theorem WritesPort.ne_nil {text : List Char} {port : Port} (written : WritesPort text port) :
    text ≠ [] := by
  rintro rfl
  exact written.nonempty rfl

namespace Nameserver

/-! ## Forms -/

/-- The forms in which a server is written. -/
inductive Form where
  /-- An address alone. -/
  | alone
  /-- An IPv6 address in brackets. -/
  | bracketed
  /-- An IPv6 address in brackets, and a port behind a colon. -/
  | bracketedWithPort
  /-- An IPv4 address, and a port behind a colon. -/
  | withColon
  /-- An address without a zone, and a port behind a point. -/
  | withPoint
deriving DecidableEq, Repr

/-- A text writes a server in a form. -/
inductive Writes : Form → List Char → Written → Prop where
  | alone {text : List Char} {host : IpAddress} (literal : IpAddress.read? text = some host) :
      Writes .alone text ⟨host, none⟩
  | bracketed {inner : List Char} {host : Ipv6} (literal : Ipv6.read? inner = some host)
      (unclosed : ']' ∉ inner) :
      Writes .bracketed ('[' :: (inner ++ [']'])) ⟨.v6 host, none⟩
  | bracketedWithPort {inner digits : List Char} {host : Ipv6} {port : Port}
      (literal : Ipv6.read? inner = some host) (unclosed : ']' ∉ inner)
      (writesPort : WritesPort digits port) :
      Writes .bracketedWithPort ('[' :: (inner ++ ']' :: ':' :: digits)) ⟨.v6 host, some port⟩
  | withColon {literal digits : List Char} {host : Ipv4} {port : Port}
      (literalRead : Ipv4.read? literal = some host) (writesPort : WritesPort digits port) :
      Writes .withColon (literal ++ ':' :: digits) ⟨.v4 host, some port⟩
  | withPoint {literal digits : List Char} {host : IpAddress} {port : Port}
      (literalRead : IpAddress.read? literal = some host) (zoneless : host.zone? = none)
      (writesPort : WritesPort digits port) :
      Writes .withPoint (literal ++ '.' :: digits) ⟨host, some port⟩

/-! ## The texts of the forms are no literals -/

/-- A port behind an IPv4 address and a colon makes no address of it: one colon is too few. -/
theorem read?_append_colon {literal digits : List Char} {host : Ipv4} {port : Port}
    (literalRead : Ipv4.read? literal = some host) (writesPort : WritesPort digits port) :
    IpAddress.read? (literal ++ ':' :: digits) = none := by
  have pure : ':' ∉ digits := writesPort.not_mem (by decide)
  have counted : (literal ++ ':' :: digits).count ':' = 1 := by
    rw [List.count_append, List.count_cons_self,
      List.count_eq_zero.2 (Ipv4.colon_not_mem literalRead), List.count_eq_zero.2 pure]
  refine IpAddress.read?_eq_none_iff.2 ⟨?_, ?_⟩
  · cases found : Ipv4.read? (literal ++ ':' :: digits) with
    | none => rfl
    | some other => exact absurd (by simp) (Ipv4.colon_not_mem found)
  · cases found : Ipv6.read? (literal ++ ':' :: digits) with
    | none => rfl
    | some other =>
        have enough := Ipv6.two_le_count_colon_of_read? found
        omega

/-- A port behind an address without a zone and a point makes no address of it. -/
theorem read?_append_point {literal digits : List Char} {host : IpAddress} {port : Port}
    (literalRead : IpAddress.read? literal = some host) (zoneless : host.zone? = none)
    (writesPort : WritesPort digits port) :
    IpAddress.read? (literal ++ '.' :: digits) = none := by
  have noColon : ':' ∉ digits := writesPort.not_mem (by decide)
  have noPoint : '.' ∉ digits := writesPort.not_mem (by decide)
  have noPercent : '%' ∉ digits := writesPort.not_mem (by decide)
  cases host with
  | v4 host =>
      have literalRead := IpAddress.read?_eq_v4_iff.1 literalRead
      have points : (literal ++ '.' :: digits).count '.' = 4 := by
        rw [List.count_append, List.count_cons_self, Ipv4.count_point literalRead,
          List.count_eq_zero.2 noPoint]
      have colons : (literal ++ '.' :: digits).count ':' = 0 := by
        simp [List.count_eq_zero, Ipv4.colon_not_mem literalRead, noColon]
      refine IpAddress.read?_eq_none_iff.2 ⟨?_, ?_⟩
      · cases found : Ipv4.read? (literal ++ '.' :: digits) with
        | none => rfl
        | some other =>
            have three := Ipv4.count_point found
            omega
      · cases found : Ipv6.read? (literal ++ '.' :: digits) with
        | none => rfl
        | some other =>
            have enough := Ipv6.two_le_count_colon_of_read? found
            omega
  | v6 host =>
      obtain ⟨groups, zone⟩ := host
      obtain rfl : zone = none := zoneless
      have groupsRead := Ipv6.read?_eq_some_zoneless_iff.1 (IpAddress.read?_eq_v6_iff.1 literalRead)
      have colon : ':' ∈ literal := by
        have enough := Ipv6.two_le_count_colon groupsRead
        exact List.count_pos_iff.1 (by omega)
      refine IpAddress.read?_eq_none_iff.2 ⟨?_, ?_⟩
      · cases found : Ipv4.read? (literal ++ '.' :: digits) with
        | none => rfl
        | some other => exact absurd (List.mem_append_left _ colon) (Ipv4.colon_not_mem found)
      · have uncut : '%' ∉ literal ++ '.' :: digits := by
          simp [Ipv6.percent_not_mem groupsRead, noPercent]
        rw [Ipv6.read?, cutAtFirst?_eq_none_iff.2 uncut,
          Ipv6.readGroups?_append_point groupsRead noColon noPoint]
        rfl

/-- How many colons stand before and behind the point of the last form: none, or two at least. -/
theorem count_colon_append_point {literal digits : List Char} {host : IpAddress} {port : Port}
    (literalRead : IpAddress.read? literal = some host) (writesPort : WritesPort digits port) :
    (literal ++ '.' :: digits).count ':' ≠ 1 := by
  have noColon : ':' ∉ digits := writesPort.not_mem (by decide)
  rw [List.count_append, List.count_cons_of_ne (by decide), List.count_eq_zero.2 noColon]
  cases host with
  | v4 host =>
      rw [List.count_eq_zero.2 (Ipv4.colon_not_mem (IpAddress.read?_eq_v4_iff.1 literalRead))]
      decide
  | v6 host =>
      have enough := Ipv6.two_le_count_colon_of_read? (IpAddress.read?_eq_v6_iff.1 literalRead)
      omega

/-! ## No text has two forms -/

/-- The only form that a text can have. -/
def formOf (text : List Char) : Form :=
  if (IpAddress.read? text).isSome then .alone
  else
    match text with
    | '[' :: rest =>
      match cutAtFirst? ']' rest with
      | some (_, []) => .bracketed
      | _ => .bracketedWithPort
    | _ => if text.count ':' = 1 then .withColon else .withPoint

theorem formOf_unbracketed {text : List Char} (noLiteral : IpAddress.read? text = none)
    (unbracketed : ∀ rest, text ≠ '[' :: rest) :
    formOf text = if text.count ':' = 1 then .withColon else .withPoint := by
  rw [formOf.eq_def, noLiteral]
  split
  · contradiction
  · split
    · exact absurd rfl (unbracketed _)
    · rfl

theorem Writes.eq_formOf {form : Form} {text : List Char} {written : Written}
    (derived : Writes form text written) : form = formOf text := by
  cases derived with
  | alone literal => simp [formOf, literal]
  | bracketed literal unclosed =>
      simp [formOf, IpAddress.read?_bracket, cutAtFirst?_eq_some_iff.2 ⟨rfl, unclosed⟩]
  | bracketedWithPort literal unclosed writesPort =>
      simp [formOf, IpAddress.read?_bracket, cutAtFirst?_eq_some_iff.2 ⟨rfl, unclosed⟩]
  | withColon literalRead writesPort =>
      have addressRead := IpAddress.read?_eq_v4_iff.2 literalRead
      have noColon : ':' ∉ _ := writesPort.not_mem (by decide)
      rw [formOf_unbracketed (read?_append_colon literalRead writesPort)
        (IpAddress.append_ne_bracket addressRead _), if_pos]
      rw [List.count_append, List.count_cons_self,
        List.count_eq_zero.2 (Ipv4.colon_not_mem literalRead), List.count_eq_zero.2 noColon]
  | withPoint literalRead zoneless writesPort =>
      rw [formOf_unbracketed (read?_append_point literalRead zoneless writesPort)
        (IpAddress.append_ne_bracket literalRead _),
        if_neg (count_colon_append_point literalRead writesPort)]

end Nameserver

end HostResolver.Address
