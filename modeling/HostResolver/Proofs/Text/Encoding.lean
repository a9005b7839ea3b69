import HostResolver.Text.Utf8

/-!
UTF-8 as the inverse of an encoding.

Owns: the well-formed sequences of bytes and the characters that they write, that they are exactly
the encodings of characters, and that the decoder takes off one encoded character after the other
until it stops at the end, inside a character, or at a fault that no further byte mends.

Does not own: how bytes reach the decoder.
-/

namespace HostResolver.Text.Utf8

/-- The bytes of a text. -/
def encode (text : List Char) : List UInt8 := text.flatMap String.utf8EncodeChar

theorem encode_nil : encode [] = [] := rfl

theorem encode_cons (character : Char) (text : List Char) :
    encode (character :: text) = String.utf8EncodeChar character ++ encode text := by
  rw [encode, List.flatMap_cons]
  rfl

theorem encode_append (first second : List Char) :
    encode (first ++ second) = encode first ++ encode second := List.flatMap_append

/-! ## Well-formed sequences -/

/-- The sequences of bytes that write one character. -/
inductive Writes : List UInt8 → Char → Prop
  | one {first : UInt8} (ascii : first < 0x80) : Writes [first] (Char.ofNat first.toNat)
  | two {first second : UInt8} (low : ¬first < 0xC2) (high : first < 0xE0)
      (continued : continues second = true) : Writes [first, second] (charOfTwo first second)
  | three {first second third : UInt8} (low : ¬first < 0xE0) (high : first < 0xF0)
      (followed : secondOfThree first second = true) (continued : continues third = true) :
      Writes [first, second, third] (charOfThree first second third)
  | four {first second third fourth : UInt8} (low : ¬first < 0xF0) (high : first < 0xF5)
      (followed : secondOfFour first second = true) (thirdContinues : continues third = true)
      (fourthContinues : continues fourth = true) :
      Writes [first, second, third, fourth] (charOfFour first second third fourth)

theorem continues_iff {byte : UInt8} :
    continues byte = true ↔ 128 ≤ byte.toNat ∧ byte.toNat ≤ 191 := by
  simp only [continues, Bool.and_eq_true, decide_eq_true_eq, UInt8.le_iff_toNat_le]
  rfl

theorem secondOfThree_iff {first second : UInt8} :
    secondOfThree first second = true ↔ (128 ≤ second.toNat ∧ second.toNat ≤ 191) ∧
      (first.toNat = 224 → 160 ≤ second.toNat) ∧ (first.toNat = 237 → second.toNat < 160) := by
  simp only [secondOfThree, Bool.and_eq_true, continues_iff, Bool.not_eq_true',
    Bool.and_eq_false_iff, beq_eq_false_iff_ne, decide_eq_false_iff_not, UInt8.lt_iff_toNat_lt,
    UInt8.le_iff_toNat_le, ne_eq, ← UInt8.toNat_inj, UInt8.reduceToNat]
  omega

theorem secondOfFour_iff {first second : UInt8} :
    secondOfFour first second = true ↔ (128 ≤ second.toNat ∧ second.toNat ≤ 191) ∧
      (first.toNat = 240 → 144 ≤ second.toNat) ∧ (first.toNat = 244 → second.toNat < 144) := by
  simp only [secondOfFour, Bool.and_eq_true, continues_iff, Bool.not_eq_true',
    Bool.and_eq_false_iff, beq_eq_false_iff_ne, decide_eq_false_iff_not, UInt8.lt_iff_toNat_lt,
    UInt8.le_iff_toNat_le, ne_eq, ← UInt8.toNat_inj, UInt8.reduceToNat]
  omega

theorem toNat_ofNat_of_isValidChar {value : Nat} (valid : value.isValidChar) :
    (Char.ofNat value).toNat = value := by
  rw [Char.ofNat, dif_pos valid]
  rfl

theorem ofNat_eq_of_toNat {value : Nat} {byte : UInt8} (same : value = byte.toNat) :
    UInt8.ofNat value = byte := by
  rw [same, UInt8.ofNat_toNat]

theorem encodeChar_of_toNat {character : Char} {value : Nat} (number : character.toNat = value) :
    String.utf8EncodeChar character =
      if value ≤ 0x7F then [UInt8.ofNat value]
      else if value ≤ 0x7FF then
        [UInt8.ofNat (value / 64 % 32 + 192), UInt8.ofNat (value % 64 + 128)]
      else if value ≤ 0xFFFF then
        [UInt8.ofNat (value / 4096 % 16 + 224), UInt8.ofNat (value / 64 % 64 + 128),
          UInt8.ofNat (value % 64 + 128)]
      else
        [UInt8.ofNat (value / 262144 % 8 + 240), UInt8.ofNat (value / 4096 % 64 + 128),
          UInt8.ofNat (value / 64 % 64 + 128), UInt8.ofNat (value % 64 + 128)] := by
  subst number
  rfl

/-- A well-formed sequence is the encoding of its character. -/
theorem Writes.encodeChar_eq {bytes : List UInt8} {character : Char}
    (written : Writes bytes character) : String.utf8EncodeChar character = bytes := by
  cases written with
  | @one first ascii =>
      simp only [UInt8.lt_iff_toNat_lt, UInt8.reduceToNat] at ascii
      have number : (Char.ofNat first.toNat).toNat = first.toNat :=
        toNat_ofNat_of_isValidChar (Or.inl (by omega))
      rw [encodeChar_of_toNat number, if_pos (by omega), UInt8.ofNat_toNat]
  | @two first second low high continued =>
      simp only [UInt8.lt_iff_toNat_lt, UInt8.reduceToNat] at low high
      rw [continues_iff] at continued
      have number : (charOfTwo first second).toNat =
          first.toNat % 32 * 64 + second.toNat % 64 :=
        toNat_ofNat_of_isValidChar (Or.inl (by unfold payload; omega))
      rw [encodeChar_of_toNat number, if_neg (by omega), if_pos (by omega)]
      simp only [List.cons.injEq, and_true]
      exact ⟨ofNat_eq_of_toNat (by omega), ofNat_eq_of_toNat (by omega)⟩
  | @three first second third low high followed continued =>
      simp only [UInt8.lt_iff_toNat_lt, UInt8.reduceToNat] at low high
      rw [secondOfThree_iff] at followed
      rw [continues_iff] at continued
      have number : (charOfThree first second third).toNat =
          first.toNat % 16 * 4096 + second.toNat % 64 * 64 + third.toNat % 64 := by
        apply toNat_ofNat_of_isValidChar
        unfold payload Nat.isValidChar
        omega
      rw [encodeChar_of_toNat number, if_neg (by omega), if_neg (by omega), if_pos (by omega)]
      simp only [List.cons.injEq, and_true]
      exact ⟨ofNat_eq_of_toNat (by omega), ofNat_eq_of_toNat (by omega),
        ofNat_eq_of_toNat (by omega)⟩
  | @four first second third fourth low high followed thirdContinues fourthContinues =>
      simp only [UInt8.lt_iff_toNat_lt, UInt8.reduceToNat] at low high
      rw [secondOfFour_iff] at followed
      rw [continues_iff] at thirdContinues fourthContinues
      have number : (charOfFour first second third fourth).toNat =
          first.toNat % 8 * 262144 + second.toNat % 64 * 4096 + third.toNat % 64 * 64 +
            fourth.toNat % 64 := by
        apply toNat_ofNat_of_isValidChar
        unfold payload Nat.isValidChar
        omega
      rw [encodeChar_of_toNat number, if_neg (by omega), if_neg (by omega), if_neg (by omega)]
      simp only [List.cons.injEq, and_true]
      exact ⟨ofNat_eq_of_toNat (by omega), ofNat_eq_of_toNat (by omega),
        ofNat_eq_of_toNat (by omega), ofNat_eq_of_toNat (by omega)⟩

theorem exists_byte {value : Nat} (small : value < 256) :
    ∃ byte : UInt8, UInt8.ofNat value = byte ∧ byte.toNat = value :=
  ⟨UInt8.ofNat value, rfl, UInt8.toNat_ofNat_of_lt small⟩

/-- The encoding of a character is well-formed. -/
theorem writes_encodeChar (character : Char) :
    Writes (String.utf8EncodeChar character) character := by
  have valid : character.toNat.isValidChar := character.valid
  unfold Nat.isValidChar at valid
  -- The number decides how many bytes there are. Their values are named before the bounds are
  -- checked, so that only sums and remainders of the number are left.
  rw [encodeChar_of_toNat rfl]
  by_cases one : character.toNat ≤ 0x7F
  · rw [if_pos one]
    obtain ⟨first, firstByte, firstValue⟩ := exists_byte (show character.toNat < 256 by omega)
    have same : Char.ofNat first.toNat = character := by rw [firstValue, Char.ofNat_toNat]
    rw [firstByte, ← same]
    apply Writes.one
    simp only [UInt8.lt_iff_toNat_lt, UInt8.reduceToNat]
    omega
  rw [if_neg one]
  obtain ⟨last, lastByte, lastValue⟩ :=
    exists_byte (show character.toNat % 64 + 128 < 256 by omega)
  have lastContinues : continues last = true := by
    rw [continues_iff]
    omega
  rw [lastByte]
  by_cases two : character.toNat ≤ 0x7FF
  · rw [if_pos two]
    obtain ⟨first, firstByte, firstValue⟩ :=
      exists_byte (show character.toNat / 64 % 32 + 192 < 256 by omega)
    have number : first.toNat % 32 * 64 + payload last = character.toNat := by
      unfold payload
      omega
    have same : charOfTwo first last = character := by rw [charOfTwo, number, Char.ofNat_toNat]
    rw [firstByte, ← same]
    apply Writes.two _ _ lastContinues
    all_goals
      simp only [UInt8.lt_iff_toNat_lt, UInt8.reduceToNat]
      omega
  rw [if_neg two]
  obtain ⟨middle, middleByte, middleValue⟩ :=
    exists_byte (show character.toNat / 64 % 64 + 128 < 256 by omega)
  have middleContinues : continues middle = true := by
    rw [continues_iff]
    omega
  rw [middleByte]
  by_cases three : character.toNat ≤ 0xFFFF
  · rw [if_pos three]
    obtain ⟨first, firstByte, firstValue⟩ :=
      exists_byte (show character.toNat / 4096 % 16 + 224 < 256 by omega)
    have number : first.toNat % 16 * 4096 + payload middle * 64 + payload last =
        character.toNat := by
      unfold payload
      omega
    have same : charOfThree first middle last = character := by
      rw [charOfThree, number, Char.ofNat_toNat]
    have followed : secondOfThree first middle = true := by
      rw [secondOfThree_iff]
      omega
    rw [firstByte, ← same]
    apply Writes.three _ _ followed lastContinues
    all_goals
      simp only [UInt8.lt_iff_toNat_lt, UInt8.reduceToNat]
      omega
  · rw [if_neg three]
    obtain ⟨first, firstByte, firstValue⟩ :=
      exists_byte (show character.toNat / 262144 % 8 + 240 < 256 by omega)
    obtain ⟨second, secondByte, secondValue⟩ :=
      exists_byte (show character.toNat / 4096 % 64 + 128 < 256 by omega)
    have number : first.toNat % 8 * 262144 + payload second * 4096 + payload middle * 64 +
        payload last = character.toNat := by
      unfold payload
      omega
    have same : charOfFour first second middle last = character := by
      rw [charOfFour, number, Char.ofNat_toNat]
    have followed : secondOfFour first second = true := by
      rw [secondOfFour_iff]
      omega
    rw [firstByte, secondByte, ← same]
    apply Writes.four _ _ followed middleContinues lastContinues
    all_goals
      simp only [UInt8.lt_iff_toNat_lt, UInt8.reduceToNat]
      omega

/-! ## Decoding one character -/

theorem not_lt_of_not_lt {byte low high : UInt8} (above : ¬byte < high)
    (ordered : low.toNat ≤ high.toNat) : ¬byte < low := by
  rw [UInt8.lt_iff_toNat_lt] at above ⊢
  omega

variable {position : Nat} {first : UInt8}

theorem decodeFrom_of_two (low : ¬first < 0xC2) (high : first < 0xE0) (rest : List UInt8) :
    decodeFrom position (first :: rest) =
      match rest with
      | [] => .cutOff position [first]
      | second :: rest =>
        if !continues second then .fault position [first] .invalidContinuation
        else (decodeFrom (position + 2) rest).extend (charOfTwo first second) := by
  have notOne := not_lt_of_not_lt low (show (0x80 : UInt8).toNat ≤ _ by decide)
  rw [decodeFrom.eq_def]
  exact (if_neg notOne).trans ((if_neg low).trans (if_pos high))

theorem decodeFrom_of_three (low : ¬first < 0xE0) (high : first < 0xF0) (rest : List UInt8) :
    decodeFrom position (first :: rest) =
      match rest with
      | [] => .cutOff position [first]
      | second :: rest =>
        if !secondOfThree first second then .fault position [first] .invalidContinuation
        else
          match rest with
          | [] => .cutOff position [first, second]
          | third :: rest =>
            if !continues third then .fault position [first, second] .invalidContinuation
            else (decodeFrom (position + 3) rest).extend (charOfThree first second third) := by
  have notOne := not_lt_of_not_lt low (show (0x80 : UInt8).toNat ≤ _ by decide)
  have started := not_lt_of_not_lt low (show (0xC2 : UInt8).toNat ≤ _ by decide)
  rw [decodeFrom.eq_def]
  exact (if_neg notOne).trans ((if_neg started).trans ((if_neg low).trans (if_pos high)))

theorem decodeFrom_of_four (low : ¬first < 0xF0) (high : first < 0xF5) (rest : List UInt8) :
    decodeFrom position (first :: rest) =
      match rest with
      | [] => .cutOff position [first]
      | second :: rest =>
        if !secondOfFour first second then .fault position [first] .invalidContinuation
        else
          match rest with
          | [] => .cutOff position [first, second]
          | third :: rest =>
            if !continues third then .fault position [first, second] .invalidContinuation
            else
              match rest with
              | [] => .cutOff position [first, second, third]
              | fourth :: rest =>
                if !continues fourth then
                  .fault position [first, second, third] .invalidContinuation
                else
                  (decodeFrom (position + 4) rest).extend
                    (charOfFour first second third fourth) := by
  have notOne := not_lt_of_not_lt low (show (0x80 : UInt8).toNat ≤ _ by decide)
  have started := not_lt_of_not_lt low (show (0xC2 : UInt8).toNat ≤ _ by decide)
  have notTwo := not_lt_of_not_lt low (show (0xE0 : UInt8).toNat ≤ _ by decide)
  rw [decodeFrom.eq_def]
  exact (if_neg notOne).trans
    ((if_neg started).trans ((if_neg notTwo).trans ((if_neg low).trans (if_pos high))))

/-- The decoder takes a well-formed sequence off the front. -/
theorem Writes.decodeFrom_append {bytes : List UInt8} {character : Char}
    (written : Writes bytes character) (position : Nat) (behind : List UInt8) :
    decodeFrom position (bytes ++ behind) =
      (decodeFrom (position + bytes.length) behind).extend character := by
  cases written with
  | one ascii =>
      rw [List.singleton_append, decodeFrom.eq_def]
      simp only [if_pos ascii]
      rfl
  | two low high continued =>
      rw [List.cons_append, decodeFrom_of_two low high]
      simp [continued]
  | three low high followed continued =>
      rw [List.cons_append, decodeFrom_of_three low high]
      simp [followed, continued]
  | four low high followed thirdContinues fourthContinues =>
      rw [List.cons_append, decodeFrom_of_four low high]
      simp [followed, thirdContinues, fourthContinues]

/-- How the decoder stops at bytes that stand at a position: at their end, inside a character that
more bytes would complete, or at a fault that is found whatever follows. -/
inductive Stops (position : Nat) : List UInt8 → Ending → Prop
  | complete : Stops position [] .complete
  | incomplete {bytes more : List UInt8} {character : Char} (begun : bytes ≠ [])
      (unfinished : more ≠ []) (written : Writes (bytes ++ more) character) :
      Stops position bytes (.incomplete position bytes)
  | faulty {bytes covered : List UInt8} {reason : Reason}
      (persists : ∀ more, decodeFrom position (bytes ++ more) = .fault position covered reason) :
      Stops position bytes (.faulty ⟨position, covered, reason⟩)

/-- What the decoder does with bytes: it takes a character off their front, or it stops. -/
def TakesOrStops (position : Nat) (bytes : List UInt8) : Prop :=
  (∃ front behind character, bytes = front ++ behind ∧ Writes front character) ∨
    ∃ ending, decodeFrom position bytes = ⟨[], ending⟩ ∧ Stops position bytes ending

/-- A fault behind some bytes is found whatever follows them. -/
theorem takesOrStops_of_fault (front : List UInt8) {covered : List UInt8} {reason : Reason}
    (persists : ∀ behind, decodeFrom position (front ++ behind) = .fault position covered reason)
    (rest : List UInt8) : TakesOrStops position (front ++ rest) := by
  refine Or.inr ⟨_, persists rest, .faulty fun more => ?_⟩
  rw [List.append_assoc]
  exact persists (rest ++ more)

theorem takesOrStops_of_cut {bytes more : List UInt8} {character : Char} (begun : bytes ≠ [])
    (unfinished : more ≠ []) (written : Writes (bytes ++ more) character)
    (cut : decodeFrom position bytes = .cutOff position bytes) : TakesOrStops position bytes :=
  Or.inr ⟨_, cut, .incomplete begun unfinished written⟩

theorem takesOrStops_none (notOne : ¬first < 0x80) (outside : first < 0xC2 ∨ ¬first < 0xF5)
    (rest : List UInt8) : TakesOrStops position (first :: rest) := by
  have persists (behind : List UInt8) :
      decodeFrom position ([first] ++ behind) = .fault position [first] .invalidStart := by
    rw [List.singleton_append, decodeFrom.eq_def]
    by_cases early : first < 0xC2
    · simp only [if_neg notOne, if_pos early]
    · have late : ¬first < 0xF5 := outside.resolve_left early
      have notTwo := not_lt_of_not_lt late (show (0xE0 : UInt8).toNat ≤ _ by decide)
      have notThree := not_lt_of_not_lt late (show (0xF0 : UInt8).toNat ≤ _ by decide)
      simp only [if_neg notOne, if_neg early, if_neg notTwo, if_neg notThree, if_neg late]
  exact takesOrStops_of_fault [first] persists rest

theorem continues_least : continues 0x80 = true := by decide

theorem takesOrStops_two (low : ¬first < 0xC2) (high : first < 0xE0) (rest : List UInt8) :
    TakesOrStops position (first :: rest) := by
  match rest with
  | [] =>
      -- The least byte that goes on with a character completes this one.
      apply takesOrStops_of_cut (by simp) (by simp) (.two low high continues_least)
      rw [decodeFrom_of_two low high]
  | second :: rest =>
      by_cases continued : continues second = true
      · exact Or.inl ⟨[first, second], rest, _, rfl, .two low high continued⟩
      · have persists (behind : List UInt8) :
            decodeFrom position ([first, second] ++ behind) =
              .fault position [first] .invalidContinuation := by
          rw [List.cons_append, decodeFrom_of_two low high]
          simp [continued]
        exact takesOrStops_of_fault [first, second] persists rest

theorem exists_secondOfThree (first : UInt8) : ∃ second, secondOfThree first second = true := by
  by_cases surrogates : first = 0xED
  · exact ⟨0x80, by rw [surrogates]; decide⟩
  · refine ⟨0xA0, ?_⟩
    simp only [← UInt8.toNat_inj, UInt8.reduceToNat] at surrogates
    rw [secondOfThree_iff]
    simp only [UInt8.reduceToNat]
    omega

theorem exists_secondOfFour (first : UInt8) : ∃ second, secondOfFour first second = true := by
  by_cases last : first = 0xF4
  · exact ⟨0x80, by rw [last]; decide⟩
  · refine ⟨0x90, ?_⟩
    simp only [← UInt8.toNat_inj, UInt8.reduceToNat] at last
    rw [secondOfFour_iff]
    simp only [UInt8.reduceToNat]
    omega

theorem takesOrStops_three (low : ¬first < 0xE0) (high : first < 0xF0) (rest : List UInt8) :
    TakesOrStops position (first :: rest) := by
  match rest with
  | [] =>
      obtain ⟨second, followed⟩ := exists_secondOfThree first
      apply takesOrStops_of_cut (by simp) (by simp) (.three low high followed continues_least)
      rw [decodeFrom_of_three low high]
  | second :: rest =>
      by_cases followed : secondOfThree first second = true
      · match rest with
        | [] =>
            apply takesOrStops_of_cut (by simp) (by simp) (.three low high followed continues_least)
            rw [decodeFrom_of_three low high]
            simp [followed]
        | third :: rest =>
            by_cases continued : continues third = true
            · exact Or.inl
                ⟨[first, second, third], rest, _, rfl, .three low high followed continued⟩
            · have persists (behind : List UInt8) :
                  decodeFrom position ([first, second, third] ++ behind) =
                    .fault position [first, second] .invalidContinuation := by
                rw [List.cons_append, decodeFrom_of_three low high]
                simp [followed, continued]
              exact takesOrStops_of_fault [first, second, third] persists rest
      · have persists (behind : List UInt8) :
            decodeFrom position ([first, second] ++ behind) =
              .fault position [first] .invalidContinuation := by
          rw [List.cons_append, decodeFrom_of_three low high]
          simp [followed]
        exact takesOrStops_of_fault [first, second] persists rest

theorem takesOrStops_four_followed {second : UInt8} (low : ¬first < 0xF0) (high : first < 0xF5)
    (followed : secondOfFour first second = true) (rest : List UInt8) :
    TakesOrStops position (first :: second :: rest) := by
  match rest with
  | [] =>
      apply takesOrStops_of_cut (by simp) (by simp)
        (.four low high followed continues_least continues_least)
      rw [decodeFrom_of_four low high]
      simp [followed]
  | third :: rest =>
      by_cases thirdContinues : continues third = true
      · match rest with
        | [] =>
            apply takesOrStops_of_cut (by simp) (by simp)
              (.four low high followed thirdContinues continues_least)
            rw [decodeFrom_of_four low high]
            simp [followed, thirdContinues]
        | fourth :: rest =>
            by_cases fourthContinues : continues fourth = true
            · exact Or.inl ⟨[first, second, third, fourth], rest, _, rfl,
                .four low high followed thirdContinues fourthContinues⟩
            · have persists (behind : List UInt8) :
                  decodeFrom position ([first, second, third, fourth] ++ behind) =
                    .fault position [first, second, third] .invalidContinuation := by
                rw [List.cons_append, decodeFrom_of_four low high]
                simp [followed, thirdContinues, fourthContinues]
              exact takesOrStops_of_fault [first, second, third, fourth] persists rest
      · have persists (behind : List UInt8) :
            decodeFrom position ([first, second, third] ++ behind) =
              .fault position [first, second] .invalidContinuation := by
          rw [List.cons_append, decodeFrom_of_four low high]
          simp [followed, thirdContinues]
        exact takesOrStops_of_fault [first, second, third] persists rest

theorem takesOrStops_four (low : ¬first < 0xF0) (high : first < 0xF5) (rest : List UInt8) :
    TakesOrStops position (first :: rest) := by
  match rest with
  | [] =>
      obtain ⟨second, followed⟩ := exists_secondOfFour first
      apply takesOrStops_of_cut (by simp) (by simp)
        (.four low high followed continues_least continues_least)
      rw [decodeFrom_of_four low high]
  | second :: rest =>
      by_cases followed : secondOfFour first second = true
      · exact takesOrStops_four_followed low high followed rest
      · have persists (behind : List UInt8) :
            decodeFrom position ([first, second] ++ behind) =
              .fault position [first] .invalidContinuation := by
          rw [List.cons_append, decodeFrom_of_four low high]
          simp [followed]
        exact takesOrStops_of_fault [first, second] persists rest

/-- **One step.** The decoder takes a character off the front of bytes, or it stops there. -/
theorem takesOrStops (position : Nat) (bytes : List UInt8) : TakesOrStops position bytes := by
  cases bytes with
  | nil => exact Or.inr ⟨.complete, rfl, .complete⟩
  | cons first rest =>
      by_cases one : first < 0x80
      · exact Or.inl ⟨[first], rest, _, rfl, .one one⟩
      by_cases early : first < 0xC2
      · exact takesOrStops_none one (Or.inl early) rest
      by_cases two : first < 0xE0
      · exact takesOrStops_two early two rest
      by_cases three : first < 0xF0
      · exact takesOrStops_three two three rest
      by_cases four : first < 0xF5
      · exact takesOrStops_four three four rest
      · exact takesOrStops_none one (Or.inr four) rest

/-! ## Decoding texts -/

/-- Puts a text in front of what is decoded. -/
def Decoded.precede (text : List Char) (decoded : Decoded) : Decoded :=
  ⟨text ++ decoded.text, decoded.ending⟩

theorem decodeFrom_encode_append (position : Nat) (text : List Char) (behind : List UInt8) :
    decodeFrom position (encode text ++ behind) =
      (decodeFrom (position + (encode text).length) behind).precede text := by
  induction text generalizing position with
  | nil => rfl
  | cons character others inductionHypothesis =>
      rw [encode_cons, List.append_assoc,
        (writes_encodeChar character).decodeFrom_append position, inductionHypothesis,
        List.length_append, Nat.add_assoc]
      rfl

/-- The whole of an encoded text is decoded. -/
theorem decode_encode (text : List Char) : decode (encode text) = ⟨text, .complete⟩ := by
  have decoded := decodeFrom_encode_append 0 text []
  rw [List.append_nil] at decoded
  rw [decode, decoded]
  simp [decodeFrom, Decoded.precede]

/-- **A run.** Bytes are the encoding of the text that is decoded from them and the bytes at which
the decoder stops. -/
theorem exists_stops (position : Nat) (bytes : List UInt8) :
    ∃ text left ending, bytes = encode text ++ left ∧
      decodeFrom position bytes = ⟨text, ending⟩ ∧
      Stops (position + (encode text).length) left ending := by
  -- The induction is on the count of bytes, since a character takes off one to four of them.
  induction counted : bytes.length using Nat.strongRecOn generalizing position bytes with
  | _ count inductionHypothesis =>
      rcases takesOrStops position bytes with
        ⟨front, behind, character, rfl, written⟩ | ⟨ending, decoded, stops⟩
      · have nonempty : front ≠ [] := by
          rintro rfl
          cases written
        have shorter : behind.length < count := by
          have positive := List.length_pos_iff.2 nonempty
          rw [List.length_append] at counted
          omega
        obtain ⟨text, left, ending, shape, decoded, stops⟩ :=
          inductionHypothesis behind.length shorter (position + front.length) behind rfl
        refine ⟨character :: text, left, ending, ?_, ?_, ?_⟩
        · rw [encode_cons, written.encodeChar_eq, shape, List.append_assoc]
        · rw [written.decodeFrom_append, decoded]
          rfl
        · rw [encode_cons, written.encodeChar_eq, List.length_append, ← Nat.add_assoc]
          exact stops
      · exact ⟨[], bytes, ending, rfl, decoded, stops⟩

theorem eq_encode_of_complete {bytes : List UInt8} {text : List Char}
    (decoded : decodeFrom position bytes = ⟨text, .complete⟩) : bytes = encode text := by
  obtain ⟨found, left, ending, shape, decodedAgain, stops⟩ := exists_stops position bytes
  rw [decoded, Decoded.mk.injEq] at decodedAgain
  obtain ⟨rfl, rfl⟩ := decodedAgain
  cases stops
  rw [shape, List.append_nil]

/-- What stands behind the encoding of a text in an encoded text is encoded itself. -/
theorem exists_encode_of_append {text front : List Char} {behind : List UInt8}
    (whole : encode text = encode front ++ behind) :
    ∃ later, text = front ++ later ∧ behind = encode later := by
  have decoded := decode_encode text
  rw [whole, decode, decodeFrom_encode_append, Decoded.precede, Decoded.mk.injEq] at decoded
  obtain ⟨sameText, complete⟩ := decoded
  have shape : decodeFrom (0 + (encode front).length) behind =
      ⟨(decodeFrom (0 + (encode front).length) behind).text, .complete⟩ := by
    rw [← complete]
  exact ⟨_, sameText.symm, eq_encode_of_complete shape⟩

/-- Behind a fault no bytes make an encoded text of those in front. -/
theorem encode_ne_of_faulty {bytes : List UInt8} {fault : Fault}
    (stops : Stops position bytes (.faulty fault)) (more : List UInt8) (text : List Char) :
    encode text ≠ bytes ++ more := by
  intro whole
  cases stops with
  | faulty persists =>
      have decoded := decodeFrom_encode_append position text []
      rw [List.append_nil, whole, persists more] at decoded
      simp [Decoded.fault, Decoded.precede, decodeFrom] at decoded

end HostResolver.Text.Utf8
