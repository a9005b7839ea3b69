import HostResolver.Proofs.Address.Literal
import Mathlib.Data.List.TakeWhile

/-!
The texts of addresses read back.

Owns: that the decimal text of an octet and the hexadecimal text of a group denote their number,
that the text of an address without its zone gives its groups back whichever run of zeros it leaves
out, and that reading the text of any address gives that address.

Does not own: the port behind an address, and the brackets around it.

A run of zeros that is left out is put back by its length alone: eight groups less those that are
written. So nothing has to be known of the run but that it is one.
-/

namespace HostResolver.Address

open HostResolver.Number HostResolver.Text

/-! ## Decimal numbers -/

theorem isDigit_of_mem_digitChars {value : Nat} :
    ∀ character ∈ digitChars value, isDigit character = true := by
  intro character member
  have digit : character.isDigit = true :=
    Nat.isDigit_of_mem_toDigits (by decide) (by decide) member
  unfold Char.isDigit at digit
  unfold isDigit
  simpa [Char.le_def] using digit

theorem digitChars_ne_nil (value : Nat) : digitChars value ≠ [] := Nat.toDigits_ne_nil

theorem decimalValue_digitChars (value : Nat) : decimalValue (digitChars value) = value := by
  change Nat.ofDigitChars 10 (Nat.toDigits 10 value) 0 = value
  exact Nat.ofDigitChars_ten_toDigits

/-- A character that is no digit does not stand in the text of a number. -/
theorem not_mem_digitChars {character : Char} (other : isDigit character = false) (value : Nat) :
    character ∉ digitChars value := by
  intro member
  have digit := isDigit_of_mem_digitChars character member
  rw [other] at digit
  contradiction

namespace Ipv4

/-- There are 256 octets, and each is checked. -/
theorem readOctet?_digitChars (octet : UInt8) :
    readOctet? (digitChars octet.toNat) = some octet := by
  have checked : ∀ value : Fin 256,
      readOctet? (digitChars value.val) = some (UInt8.ofNat value.val) := by
    decide +kernel
  have found := checked ⟨octet.toNat, octet.toNat_lt⟩
  rw [found, UInt8.ofNat_toNat]

theorem read?_chars (address : Ipv4) : read? address.chars = some address := by
  have pure (octet : UInt8) : '.' ∉ digitChars octet.toNat :=
    not_mem_digitChars (by decide) octet.toNat
  have split : fields '.' address.chars =
      [digitChars address.first.toNat, digitChars address.second.toNat,
        digitChars address.third.toNat, digitChars address.fourth.toNat] := by
    simp only [chars, List.append_assoc, List.cons_append, fields_append_cons,
      fields_of_not_mem (pure _), List.nil_append]
  rw [read?, split]
  simp only [List.map_cons, List.map_nil, readOctet?_digitChars]

end Ipv4

namespace Ipv6

/-! ## Groups -/

/-- There are sixteen digits, and each is checked. -/
theorem hexValue?_hexDigit {value : Nat} (small : value < 16) :
    hexValue? (hexDigit value) = some value ∧ (hexDigit value == '0') = (value == 0) := by
  have checked : ∀ digit : Fin 16, hexValue? (hexDigit digit.val) = some digit.val ∧
      (hexDigit digit.val == '0') = (digit.val == 0) := by
    decide
  exact checked ⟨value, small⟩

/-- The number that hexadecimal digits write. -/
def hexNumber (digits : List Nat) : Nat :=
  digits.foldl (fun value digit => 16 * value + digit) 0

theorem mapM_hexValue? {digits : List Nat} (small : ∀ digit ∈ digits, digit < 16) :
    (digits.map hexDigit).mapM hexValue? = some digits := by
  induction digits with
  | nil => rfl
  | cons digit rest inductionHypothesis =>
      obtain ⟨here, later⟩ := List.forall_mem_cons.1 small
      rw [List.map_cons, List.mapM_cons, (hexValue?_hexDigit here).1, inductionHypothesis later]
      rfl

theorem dropWhile_map_hexDigit {digits : List Nat} (small : ∀ digit ∈ digits, digit < 16) :
    (digits.map hexDigit).dropWhile (· == '0') = (digits.dropWhile (· == 0)).map hexDigit := by
  induction digits with
  | nil => rfl
  | cons digit rest inductionHypothesis =>
      obtain ⟨here, later⟩ := List.forall_mem_cons.1 small
      rw [List.map_cons, List.dropWhile_cons, List.dropWhile_cons, (hexValue?_hexDigit here).2,
        inductionHypothesis later]
      split
      · rfl
      · rw [List.map_cons]

/-- Zeros in front do not change the number. -/
theorem hexNumber_dropWhile (digits : List Nat) :
    hexNumber (digits.dropWhile (· == 0)) = hexNumber digits := by
  induction digits with
  | nil => rfl
  | cons digit rest inductionHypothesis =>
      rw [List.dropWhile_cons]
      split
      · next zero =>
          have same : digit = 0 := by simpa using zero
          rw [inductionHypothesis, same]
          rfl
      · rfl

/-- The four digits of a group, the first ones possibly zero. -/
def groupDigits (group : UInt16) : List Nat :=
  [group.toNat / 4096, group.toNat / 256 % 16, group.toNat / 16 % 16, group.toNat % 16]

theorem groupDigits_lt (group : UInt16) : ∀ digit ∈ groupDigits group, digit < 16 := by
  have bounded := group.toNat_lt
  intro digit member
  simp only [groupDigits, List.mem_cons, List.not_mem_nil, or_false] at member
  omega

theorem hexNumber_groupDigits (group : UInt16) : hexNumber (groupDigits group) = group.toNat := by
  simp only [hexNumber, groupDigits, List.foldl_cons, List.foldl_nil]
  omega

theorem hexDigits_four (group : UInt16) :
    hexDigits 4 group.toNat = (groupDigits group).map hexDigit := by
  have bounded := group.toNat_lt
  have second : group.toNat / 16 / 16 = group.toNat / 256 := by omega
  have first : group.toNat / 256 / 16 % 16 = group.toNat / 4096 := by omega
  simp only [hexDigits, groupDigits, first, second, List.nil_append, List.cons_append,
    List.map_cons, List.map_nil]

/-- The digits that are written for a group: one zero, or those behind the zeros in front. -/
theorem exists_digits_groupChars (group : UInt16) :
    ∃ digits, groupChars group = digits.map hexDigit ∧ digits ≠ [] ∧ digits.length ≤ 4 ∧
      (∀ digit ∈ digits, digit < 16) ∧ hexNumber digits = group.toNat := by
  have small := groupDigits_lt group
  have number := hexNumber_dropWhile (groupDigits group)
  rw [hexNumber_groupDigits] at number
  rw [groupChars, hexDigits_four, dropWhile_map_hexDigit small]
  by_cases zeros : (groupDigits group).dropWhile (· == 0) = []
  · rw [zeros] at number
    refine ⟨[0], ?_, by simp, by simp, by simp, number⟩
    rw [zeros]
    rfl
  · refine ⟨(groupDigits group).dropWhile (· == 0), ?_, zeros, ?_, ?_, number⟩
    · rw [if_neg (by simpa using zeros)]
    · exact List.Sublist.length_le (List.dropWhile_sublist (fun digit => digit == 0))
    · intro digit member
      exact small digit ((List.dropWhile_sublist _).subset member)

theorem readGroup?_groupChars (group : UInt16) : readGroup? (groupChars group) = some group := by
  obtain ⟨digits, written, nonempty, short, small, number⟩ := exists_digits_groupChars group
  have accepted :
      ¬((groupChars group).isEmpty || decide (4 < (groupChars group).length)) = true := by
    rw [written]
    simp only [List.isEmpty_map, List.length_map, Bool.or_eq_true, List.isEmpty_iff,
      decide_eq_true_eq, not_or, Nat.not_lt]
    exact ⟨nonempty, short⟩
  rw [readGroup?, if_neg accepted, written, mapM_hexValue? small, Option.map_some]
  change some (UInt16.ofNat (hexNumber digits)) = some group
  rw [number, UInt16.ofNat_toNat]

theorem not_mem_groupChars (group : UInt16) : ':' ∉ groupChars group ∧ '.' ∉ groupChars group := by
  obtain ⟨digits, written, _, _, small, _⟩ := exists_digits_groupChars group
  have hexadecimal : ∀ character ∈ groupChars group, (hexValue? character).isSome = true := by
    rw [written]
    exact hexValue?_isSome_of_mapM (mapM_hexValue? small)
  refine ⟨?_, ?_⟩
  all_goals
    intro member
    have wrong := hexadecimal _ member
    contradiction

theorem groupChars_ne_nil (group : UInt16) : groupChars group ≠ [] := by
  obtain ⟨digits, written, nonempty, _⟩ := exists_digits_groupChars group
  rw [written]
  simpa using nonempty

theorem readCell?_groupChars (group : UInt16) :
    readCell? (groupChars group) = some (some group) := by
  rw [readCell?, if_neg (by simpa using groupChars_ne_nil group), readGroup?_groupChars]
  rfl

/-! ## Cells -/

/-- Fields without a point are read as cells one by one. -/
theorem readCells?_of_cells {texts : List (List Char)} {cells : List (Option UInt16)}
    (cellsRead : texts.map readCell? = cells.map some) (pointless : ∀ text ∈ texts, '.' ∉ text) :
    readCells? texts = some cells := by
  induction texts generalizing cells with
  | nil =>
      rw [List.map_nil, eq_comm, List.map_eq_nil_iff] at cellsRead
      rw [cellsRead]
      rfl
  | cons text rest inductionHypothesis =>
      obtain ⟨noPoint, later⟩ := List.forall_mem_cons.1 pointless
      cases cells with
      | nil => simp at cellsRead
      | cons cell others =>
          rw [List.map_cons, List.map_cons, List.cons.injEq] at cellsRead
          obtain ⟨cellRead, othersRead⟩ := cellsRead
          have restRead := inductionHypothesis othersRead later
          cases rest with
          | nil =>
              rw [List.map_nil, eq_comm, List.map_eq_nil_iff] at othersRead
              subst othersRead
              rw [readCells?, if_neg (by simpa using noPoint), cellRead]
              rfl
          | cons next further =>
              rw [readCells?.eq_3 _ _ (by simp), cellRead, restRead]
              rfl

/-- What stands between two colons of a joined text: the groups, or nothing if there are none. -/
def cellsOf (groups : List UInt16) : List (Option UInt16) :=
  if groups = [] then [none] else groups.map some

theorem cells_of_joined (groups : List UInt16) :
    (fields ':' (joined groups)).map readCell? = (cellsOf groups).map some ∧
      ∀ text ∈ fields ':' (joined groups), '.' ∉ text := by
  by_cases empty : groups = []
  · rw [empty]
    exact ⟨rfl, by simp [joined, fields]⟩
  · have pure : ∀ text ∈ groups.map groupChars, ':' ∉ text ∧ '.' ∉ text := by
      intro text member
      obtain ⟨group, _, rfl⟩ := List.mem_map.1 member
      exact not_mem_groupChars group
    have split : fields ':' (joined groups) = groups.map groupChars :=
      fields_intercalate (fun text member => (pure text member).1) (by simpa using empty)
    rw [split, cellsOf, if_neg empty]
    refine ⟨?_, fun text member => (pure text member).2⟩
    rw [List.map_map, List.map_map]
    exact List.map_congr_left fun group _ => readCell?_groupChars group

theorem lowGroups?_cellsOf (groups : List UInt16) : lowGroups? (cellsOf groups) = some groups := by
  have converted (later : List UInt16) : (later.map some).mapM id = some later := by
    induction later with
    | nil => rfl
    | cons group rest inductionHypothesis =>
        rw [List.map_cons, List.mapM_cons, inductionHypothesis]
        rfl
  cases groups with
  | nil => rfl
  | cons group rest =>
      rw [cellsOf, if_neg (List.cons_ne_nil group rest)]
      exact converted (group :: rest)

theorem leadingGroups_append (high : List UInt16) (cells : List (Option UInt16)) :
    leadingGroups (high.map some ++ none :: cells) = (high, none :: cells) := by
  induction high with
  | nil => rfl
  | cons group rest inductionHypothesis =>
      rw [List.map_cons, List.cons_append, leadingGroups, inductionHypothesis]

theorem leadingGroups_map_some (high : List UInt16) :
    leadingGroups (high.map some) = (high, []) := by
  induction high with
  | nil => rfl
  | cons group rest inductionHypothesis =>
      rw [List.map_cons, leadingGroups, inductionHypothesis]

/-- A double colon puts the groups on both of its sides together. -/
theorem assemble?_double (high low : List UInt16) :
    assemble? (cellsOf high ++ none :: cellsOf low) = fill? high low := by
  cases high with
  | nil =>
      change (lowGroups? (cellsOf low)).bind (fill? []) = _
      rw [lowGroups?_cellsOf, Option.bind_some]
  | cons group rest =>
      have leading := leadingGroups_append (group :: rest) (cellsOf low)
      rw [cellsOf, if_neg (List.cons_ne_nil group rest)]
      rw [List.map_cons, List.cons_append] at leading ⊢
      simp only [assemble?, leading, lowGroups?_cellsOf, Option.bind_some]

theorem assemble?_map_some (groups : List UInt16) :
    assemble? (groups.map some) = exactly? groups := by
  cases groups with
  | nil => rfl
  | cons group rest =>
      have leading := leadingGroups_map_some (group :: rest)
      rw [List.map_cons] at leading ⊢
      simp only [assemble?, leading]

/-! ## Runs of zeros -/

theorem longestZeros_cons (group : UInt16) (groups : List UInt16) :
    longestZeros (group :: groups) =
      if (longestZeros groups).2 ≤ leadingZeros (group :: groups) then
        (0, leadingZeros (group :: groups))
      else ((longestZeros groups).1 + 1, (longestZeros groups).2) := rfl

/-- The run of zeros that is found stands where it is said to. -/
theorem eq_of_longestZeros (groups : List UInt16) :
    groups = groups.take (longestZeros groups).1 ++
      List.replicate (longestZeros groups).2 0 ++
        groups.drop ((longestZeros groups).1 + (longestZeros groups).2) := by
  induction groups with
  | nil => rfl
  | cons group rest inductionHypothesis =>
      -- Either the run at the front is the longest, or the longest one stands in the rest.
      rw [longestZeros_cons]
      by_cases here : (longestZeros rest).2 ≤ leadingZeros (group :: rest)
      · rw [if_pos here]
        have run : (group :: rest).takeWhile (· == 0) =
            List.replicate (leadingZeros (group :: rest)) 0 := by
          rw [List.eq_replicate_iff]
          exact ⟨rfl, fun other member => by simpa using List.mem_takeWhile_imp member⟩
        have behind : (group :: rest).drop (leadingZeros (group :: rest)) =
            (group :: rest).dropWhile (· == 0) := by
          have whole : (group :: rest).takeWhile (· == 0) ++ (group :: rest).dropWhile (· == 0) =
              group :: rest := List.takeWhile_append_dropWhile
          have dropped : ((group :: rest).takeWhile (· == 0) ++
              (group :: rest).dropWhile (· == 0)).drop (leadingZeros (group :: rest)) =
                (group :: rest).dropWhile (· == 0) := List.drop_left
          rw [whole] at dropped
          exact dropped
        rw [List.take_zero, List.nil_append, Nat.zero_add, behind, ← run,
          List.takeWhile_append_dropWhile]
      · rw [if_neg here, List.take_succ_cons, Nat.add_right_comm, List.drop_succ_cons,
          List.cons_append, List.cons_append, ← inductionHypothesis]

/-- The groups on both sides of a run of zeros give all eight groups back. -/
theorem fill?_eq_some {groups : Vector UInt16 8} {high low : List UInt16} {zeros : Nat}
    (whole : groups.toList = high ++ List.replicate zeros 0 ++ low) (positive : 0 < zeros) :
    fill? high low = some groups := by
  have counted := congrArg List.length whole
  simp only [Vector.length_toList, List.length_append, List.length_replicate] at counted
  have bounded : high.length + low.length < 8 := by omega
  have missing : 8 - (high.length + low.length) = zeros := by omega
  unfold fill?
  rw [dif_pos bounded, Option.some.injEq, ← Vector.toList_inj, whole, ← missing]
  rfl

theorem exactly?_toList (groups : Vector UInt16 8) : exactly? groups.toList = some groups := by
  rw [exactly?, dif_pos (by simp), Option.some.injEq, ← Vector.toList_inj]
  rfl

/-! ## Addresses -/

/-- A double colon between joined groups is read as the zeros that are missing. -/
theorem readGroups?_double (high low : List UInt16) :
    readGroups? (joined high ++ ':' :: ':' :: joined low) = fill? high low := by
  obtain ⟨highCells, highPointless⟩ := cells_of_joined high
  obtain ⟨lowCells, lowPointless⟩ := cells_of_joined low
  have split : fields ':' (joined high ++ ':' :: ':' :: joined low) =
      fields ':' (joined high) ++ [] :: fields ':' (joined low) := by
    rw [fields_append_cons, fields, if_pos rfl]
  have cellsRead : (fields ':' (joined high) ++ [] :: fields ':' (joined low)).map readCell? =
      (cellsOf high ++ none :: cellsOf low).map some := by
    rw [List.map_append, List.map_cons, highCells, lowCells, List.map_append, List.map_cons]
    rfl
  have pointless : ∀ text ∈ fields ':' (joined high) ++ [] :: fields ':' (joined low),
      '.' ∉ text := by
    intro text member
    rcases List.mem_append.1 member with inHigh | inLow
    · exact highPointless text inHigh
    · rcases List.mem_cons.1 inLow with rfl | inLow
      · simp
      · exact lowPointless text inLow
  rw [readGroups?, split, readCells?_of_cells cellsRead pointless, Option.bind_some,
    assemble?_double]

theorem readGroups?_joined {groups : List UInt16} (nonempty : groups ≠ []) :
    readGroups? (joined groups) = exactly? groups := by
  obtain ⟨cellsRead, pointless⟩ := cells_of_joined groups
  rw [readGroups?, readCells?_of_cells cellsRead pointless, Option.bind_some, cellsOf,
    if_neg nonempty, assemble?_map_some]

/-- Reading the text of eight groups gives the groups, whether or not a run of zeros is left out. -/
theorem readGroups?_groupsChars (groups : Vector UInt16 8) :
    readGroups? (groupsChars groups.toList) = some groups := by
  by_cases long : 2 ≤ (longestZeros groups.toList).2
  · have written : groupsChars groups.toList =
        joined (groups.toList.take (longestZeros groups.toList).1) ++
          ':' :: ':' :: joined (groups.toList.drop
            ((longestZeros groups.toList).1 + (longestZeros groups.toList).2)) := if_pos long
    rw [written, readGroups?_double]
    exact fill?_eq_some (eq_of_longestZeros groups.toList) (by omega)
  · have written : groupsChars groups.toList = joined groups.toList := if_neg long
    have nonempty : groups.toList ≠ [] := by
      intro empty
      have counted := congrArg List.length empty
      simp at counted
    rw [written, readGroups?_joined nonempty, exactly?_toList]

theorem read?_chars (address : Ipv6) : read? address.chars = some address := by
  obtain ⟨groups, zone⟩ := address
  cases zone with
  | none => exact read?_eq_some_zoneless_iff.2 (readGroups?_groupsChars groups)
  | some zone => exact read?_eq_some_zoned_iff.2 ⟨_, rfl, readGroups?_groupsChars groups⟩

end Ipv6

/-- **Reading the text of an address gives the address.** -/
theorem IpAddress.read?_chars (address : IpAddress) : read? address.chars = some address := by
  cases address with
  | v4 address => exact read?_eq_v4_iff.2 address.read?_chars
  | v6 address => exact read?_eq_v6_iff.2 address.read?_chars

end HostResolver.Address
