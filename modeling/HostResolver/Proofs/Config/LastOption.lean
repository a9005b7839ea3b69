import HostResolver.Proofs.Config.MalformedLines
import HostResolver.Proofs.Text.Numerals

/-!
The last value that is set for each option.

Owns: which words set an option, that a list of words leaves in each option the value of the last
word that sets it, that the words of two texts apply in turn, and from these what the lines of a
file and then the environment leave in each option.

Does not own: what is reported of malformed options.
-/

namespace HostResolver.Config

open HostResolver.Document HostResolver.Files HostResolver.Text HostResolver.Text.Utf8

namespace Options

/-! ## Fields -/

/-- The options that words can set. -/
inductive Field where
  | ndots
  | timeout
  | attempts
deriving DecidableEq, Repr

namespace Field

def name : Field → String
  | .ndots => "ndots"
  | .timeout => "timeout"
  | .attempts => "attempts"

def get : Field → Options → Int
  | .ndots, options => options.ndots
  | .timeout, options => options.timeout
  | .attempts, options => options.attempts

def set : Field → Options → Int → Options
  | .ndots, options, value => { options with ndots := value }
  | .timeout, options, value => { options with timeout := value }
  | .attempts, options, value => { options with attempts := value }

/-- The value of a field that nothing sets. -/
def default : Field → Int
  | .ndots => 1
  | .timeout => 5
  | .attempts => 16

theorem get_default (field : Field) : field.get {} = field.default := by
  cases field <;> rfl

theorem get_set_self (field : Field) (options : Options) (value : Int) :
    field.get (field.set options value) = value := by
  cases field <;> rfl

theorem get_set_of_ne {field other : Field} (different : other ≠ field) (options : Options)
    (value : Int) : field.get (other.set options value) = field.get options := by
  cases field <;> cases other <;> first | rfl | exact absurd rfl different

theorem setter?_name (field : Field) : setter? field.name = some field.set := by
  cases field <;> rfl

theorem colon_not_mem_name (field : Field) : ':' ∉ field.name.toList := by
  cases field <;> decide

end Field

/-- The names that can be set are those of the fields. -/
theorem exists_field_of_setter? {name : String} {set : Options → Int → Options}
    (found : setter? name = some set) : ∃ field : Field, field.name = name ∧ field.set = set := by
  unfold setter? at found
  split at found
  · next named => exact ⟨.ndots, named.symm, Option.some.inj found⟩
  · split at found
    · next named => exact ⟨.timeout, named.symm, Option.some.inj found⟩
    · split at found
      · next named => exact ⟨.attempts, named.symm, Option.some.inj found⟩
      · contradiction

/-! ## Words -/

/-- A word sets a field to a value: it is the name of the field, a colon, and what writes the
value. -/
def Sets (field : Field) (word : List Char) (value : Int) : Prop :=
  ∃ written, word = field.name.toList ++ ':' :: written ∧ Numeral.Writes written value

theorem applyWord_of_sets {field : Field} {word : List Char} {value : Int}
    (sets : Sets field word value) (options : Options) :
    options.applyWord word = (field.set options value, []) := by
  obtain ⟨written, rfl, writes⟩ := sets
  have cut : cutAtFirst? ':' (field.name.toList ++ ':' :: written) =
      some (field.name.toList, written) :=
    cutAtFirst?_eq_some_iff.2 ⟨rfl, field.colon_not_mem_name⟩
  simp only [applyWord, cut, String.ofList_toList, Field.setter?_name,
    Numeral.read_eq_ok_iff.2 writes]

/-- A word sets a field, or it changes nothing. -/
theorem sets_or_keeps (word : List Char) :
    (∃ field value, Sets field word value) ∨
      ∀ options : Options, (options.applyWord word).1 = options := by
  cases cut : cutAtFirst? ':' word with
  | none =>
      refine Or.inr fun options => ?_
      simp only [applyWord, cut]
  | some parts =>
      obtain ⟨name, written⟩ := parts
      cases known : setter? (String.ofList name) with
      | none =>
          refine Or.inr fun options => ?_
          simp only [applyWord, cut, known]
      | some set =>
          cases accepted : Numeral.read written with
          | error error =>
              refine Or.inr fun options => ?_
              simp only [applyWord, cut, known, accepted]
          | ok value =>
              obtain ⟨field, named, _⟩ := exists_field_of_setter? known
              obtain ⟨shape, _⟩ := cutAtFirst?_eq_some_iff.1 cut
              refine Or.inl ⟨field, value, written, ?_, Numeral.read_eq_ok_iff.1 accepted⟩
              rw [named, String.toList_ofList, shape]

/-- A word that does not set a field leaves the field as it is. -/
theorem get_applyWord_of_unset {field : Field} {word : List Char}
    (unset : ∀ value, ¬Sets field word value) (options : Options) :
    field.get (options.applyWord word).1 = field.get options := by
  rcases sets_or_keeps word with ⟨other, value, sets⟩ | keeps
  · have different : other ≠ field := by
      rintro rfl
      exact unset value sets
    rw [applyWord_of_sets sets]
    exact Field.get_set_of_ne different options value
  · rw [keeps]

/-! ## Lists of words -/

/-- What words leave in a field: the value of the last word that sets it, or what the field had
before if none does. -/
inductive Leaves (field : Field) (words : List (List Char)) (before : Int) : Int → Prop where
  | last {front behind : List (List Char)} {word : List Char} {value : Int}
      (split : words = front ++ word :: behind) (sets : Sets field word value)
      (unset : ∀ later ∈ behind, ∀ value, ¬Sets field later value) : Leaves field words before value
  | unset (none : ∀ word ∈ words, ∀ value, ¬Sets field word value) :
      Leaves field words before before

theorem applyWords_append (options : Options) (first second : List (List Char)) :
    options.applyWords (first ++ second) =
      (((options.applyWords first).1.applyWords second).1,
        (options.applyWords first).2 ++ ((options.applyWords first).1.applyWords second).2) := by
  induction first generalizing options with
  | nil => rfl
  | cons word others inductionHypothesis =>
      rw [List.cons_append, applyWords, applyWords, inductionHypothesis, List.append_assoc]

/-- One more word in front has a say only if no word behind it sets the field. -/
theorem leaves_cons {field : Field} {word : List Char} {others : List (List Char)}
    {before between after : Int} (set : ∀ value, Sets field word value → between = value)
    (unset : (∀ value, ¬Sets field word value) → between = before)
    (later : Leaves field others between after) : Leaves field (word :: others) before after := by
  cases later with
  | last split sets noneBehind => exact .last (by rw [split, List.cons_append]) sets noneBehind
  | unset none =>
      by_cases here : ∃ value, Sets field word value
      · obtain ⟨value, sets⟩ := here
        rw [set value sets]
        exact .last (List.nil_append _).symm sets none
      · have wordUnset := not_exists.1 here
        rw [unset wordUnset]
        exact .unset (List.forall_mem_cons.2 ⟨wordUnset, none⟩)

/-- **The last word that sets a field wins**, whatever stands between. -/
theorem leaves_applyWords (field : Field) (words : List (List Char)) (options : Options) :
    Leaves field words (field.get options) (field.get (options.applyWords words).1) := by
  induction words generalizing options with
  | nil => exact .unset (by simp)
  | cons word others inductionHypothesis =>
      refine leaves_cons ?_ ?_ (inductionHypothesis (options.applyWord word).1)
      · intro value sets
        rw [applyWord_of_sets sets]
        exact Field.get_set_self field options value
      · intro unset
        exact get_applyWord_of_unset unset options

/-- A word that sets no field can be left out. -/
theorem applyWords_without {word : List Char} (unset : ∀ field value, ¬Sets field word value)
    (options : Options) (front behind : List (List Char)) :
    (options.applyWords (front ++ word :: behind)).1 =
      (options.applyWords (front ++ behind)).1 := by
  have keeps : ((options.applyWords front).1.applyWord word).1 = (options.applyWords front).1 := by
    rcases sets_or_keeps word with ⟨field, value, sets⟩ | keeps
    · exact absurd sets (unset field value)
    · exact keeps _
  rw [applyWords_append, applyWords_append, applyWords, keeps]

/-- Two texts applied in turn are one text with a blank between them. -/
theorem applyText_append (options : Options) {blank : Char} (isBlank : isBlank blank = true)
    (first second : List Char) :
    options.applyText (first ++ blank :: second) =
      (((options.applyText first).1.applyText second).1,
        (options.applyText first).2 ++ ((options.applyText first).1.applyText second).2) := by
  rw [applyText, words_append_blank isBlank, applyWords_append]
  rfl

/-! ## Lines -/

/-- The words behind the label of all `options` lines. -/
def wordsOfLines (lines : List (List Char)) : List (List Char) :=
  (lines.filter fun line => label? line = some "options").flatMap fun line => (words line).tail

theorem labelled?_cases (label : String) (line : List Char) :
    (∃ text, labelled? label line = some text ∧ label? line = some label ∧
        (words line).tail = words text) ∨
      labelled? label line = none ∧ label? line ≠ some label := by
  unfold labelled?
  cases found : firstWord? line with
  | none =>
      refine Or.inr ⟨rfl, ?_⟩
      rw [label?, words_eq_nil_of_firstWord? found]
      exact (Option.some_ne_none label).symm
  | some parts =>
      obtain ⟨word, rest⟩ := parts
      have split := words_eq_of_firstWord? found
      have labelled := label?_of_words split
      dsimp only
      by_cases same : String.ofList word = label
      · refine Or.inl ⟨rest, if_pos same, labelled.trans (congrArg some same), ?_⟩
        rw [split, List.tail_cons]
      · refine Or.inr ⟨if_neg same, ?_⟩
        rw [labelled]
        exact fun equal => same (Option.some.inj equal)

/-- Lines are applied as all their words in a row. -/
theorem applyLines_eq (options : Options) (lines : List (List Char)) :
    options.applyLines lines = options.applyWords (wordsOfLines lines) := by
  induction lines generalizing options with
  | nil => rfl
  | cons line others inductionHypothesis =>
      rcases labelled?_cases "options" line with ⟨text, found, labelled, behind⟩ | ⟨absent, other⟩
      · have wordsHere : wordsOfLines (line :: others) = words text ++ wordsOfLines others := by
          rw [wordsOfLines, List.filter_cons_of_pos (by simpa using labelled), List.flatMap_cons,
            behind]
          rfl
        rw [applyLines, found, wordsHere, applyWords_append]
        simp only [inductionHypothesis]
        rfl
      · have wordsHere : wordsOfLines (line :: others) = wordsOfLines others := by
          rw [wordsOfLines, List.filter_cons_of_neg (by simpa using other)]
          rfl
        rw [applyLines, absent, wordsHere]
        exact inductionHypothesis options

/-- A line with another label, or with none, can be left out. -/
theorem wordsOfLines_without {line : List Char} (other : label? line ≠ some "options")
    (front behind : List (List Char)) :
    wordsOfLines (front ++ line :: behind) = wordsOfLines (front ++ behind) := by
  rw [wordsOfLines, wordsOfLines, List.filter_append, List.filter_append,
    List.filter_cons_of_neg (by simpa using other)]

/-- A line with a label counts, unless the label begins a comment. -/
theorem counts_of_label? {line : List Char} {label : String} (labelled : label? line = some label)
    (noHash : label.toList.head? ≠ some '#') (noSemicolon : label.toList.head? ≠ some ';') :
    counts (trim line) = true := by
  cases start : trimStart line with
  | nil =>
      have noWords : words line = [] := by rw [← words_trimStart, start, words_nil]
      rw [label?, noWords] at labelled
      contradiction
  | cons first rest =>
      have inked : startsWithInk (first :: rest) = true := by
        rw [← start]
        exact startsWithInk_trimStart (by simp [start])
      have ink : isInk first = true := inked
      rw [label?, ← words_trimStart, start, words_of_startsWithInk inked,
        List.takeWhile_cons_of_pos ink, List.head?_cons, Option.map_some, Option.some.injEq]
        at labelled
      rw [← labelled, String.toList_ofList, List.head?_cons] at noHash noSemicolon
      rw [trim, start, trimEnd_cons_of_isInk ink]
      simp [counts, noHash, noSemicolon]

/-- Neither a blank line nor a comment has the label. -/
theorem label?_ne_of_not_counts {line : List Char} (ignored : counts (trim line) = false) :
    label? line ≠ some "options" := by
  intro labelled
  rw [counts_of_label? labelled (by decide) (by decide)] at ignored
  contradiction

/-- The words of the environment. -/
def wordsOfEnvironment (environment : Option String) : List (List Char) :=
  environment.elim [] fun text => words text.toList

theorem ofLines_eq (lines : List (List Char)) (environment : Option String) :
    (Options.ofLines lines environment).1 =
      ((({} : Options).applyWords (wordsOfLines lines)).1.applyWords
        (wordsOfEnvironment environment)).1 := by
  unfold Options.ofLines
  rw [applyLines_eq]
  cases environment <;> rfl

/-- **The last well-formed value wins, for each option.** A file in UTF-8 is read, and each field
has the value of the last word of the environment that sets it; if none does, that of the last word
behind the label of an `options` line that sets it; if none does either, its default. A line with
another label, a blank line and a comment can be left out, and so can a word that sets no field.
Applying two texts in turn is applying both with a space between them. -/
theorem ofFile_lastWins {tree : FileTree} {path : Path} {text : List Char}
    (present : tree.bytes? path = .ok (some (encode text))) (environment : Option String) :
    ∃ options events, Options.ofFile tree path environment = .ok (options, events) ∧
      (∀ field : Field, ∃ fromFile,
        Leaves field (wordsOfLines (lines text)) field.default fromFile ∧
          Leaves field (wordsOfEnvironment environment) fromFile (field.get options)) ∧
      (∀ front line behind, lines text = front ++ line :: behind →
        label? line ≠ some "options" ∨ counts (trim line) = false →
          (Options.ofLines (front ++ behind) environment).1 = options) ∧
      (∀ (before : Options) (front behind : List (List Char)) (word : List Char),
        (∀ field value, ¬Sets field word value) →
          (before.applyWords (front ++ word :: behind)).1 =
            (before.applyWords (front ++ behind)).1) ∧
      ∀ (before : Options) (first second : List Char),
        (before.applyText (first ++ ' ' :: second)).1 =
          ((before.applyText first).1.applyText second).1 := by
  have read : Options.ofFile tree path environment =
      .ok (Options.ofLines (lines text) environment) := by
    rw [Options.ofFile, linesAt_of_encode present]
    rfl
  have settled := ofLines_eq (lines text) environment
  refine ⟨(Options.ofLines (lines text) environment).1,
    (Options.ofLines (lines text) environment).2, read, ?_, ?_, ?_, ?_⟩
  · intro field
    have inFile := leaves_applyWords field (wordsOfLines (lines text)) {}
    have inEnvironment := leaves_applyWords field (wordsOfEnvironment environment)
      (({} : Options).applyWords (wordsOfLines (lines text))).1
    rw [Field.get_default] at inFile
    rw [← settled] at inEnvironment
    exact ⟨_, inFile, inEnvironment⟩
  · intro front line behind split ignored
    have other : label? line ≠ some "options" := ignored.elim id label?_ne_of_not_counts
    rw [settled, ofLines_eq, split, wordsOfLines_without other]
  · intro before front behind word unset
    exact applyWords_without unset before front behind
  · intro before first second
    rw [applyText_append before (by decide)]

/-- What the file `r` of `layeredFile` says: the value of `timeout` is malformed, that of `attempts`
is set twice, and a comment has a say in neither. -/
def layeredText : List Char :=
  "options timeout:x attempts:2\n# options attempts:9\noptions ndots:4 attempts:0_3\n".toList

def layeredFile : FileTree where
  entries := [(["r"], .file (encode layeredText) .full)]

theorem bytes?_layeredFile :
    layeredFile.bytes? ⟨"", ["r"]⟩ = .ok (some (encode layeredText)) :=
  FileTree.bytes?_of_walk (by decide) (by decide) (by decide) rfl rfl rfl

/-- Each field has its value from another layer, and the comment can be left out. -/
theorem ofFile_lastWins_met :
    ∃ options events, Options.ofFile layeredFile ⟨"", ["r"]⟩ (some "ndots:7 rotate") =
        .ok (options, events) ∧
      options = ⟨7, 5, 3⟩ ∧
      (∃ fromFile, Leaves .ndots (wordsOfLines (lines layeredText)) 1 fromFile ∧
        Leaves .ndots (wordsOfEnvironment (some "ndots:7 rotate")) fromFile 7) ∧
      (Options.ofLines ["options timeout:x attempts:2".toList,
        "options ndots:4 attempts:0_3".toList] (some "ndots:7 rotate")).1 = options := by
  obtain ⟨options, events, read, layers, without, _⟩ :=
    ofFile_lastWins bytes?_layeredFile (some "ndots:7 rotate")
  have split : lines layeredText = ["options timeout:x attempts:2".toList] ++
      "# options attempts:9".toList :: ["options ndots:4 attempts:0_3".toList] := by
    decide +kernel
  have uncommented := without _ _ _ split (Or.inr (by decide +kernel))
  have values : options = ⟨7, 5, 3⟩ := by
    rw [← uncommented]
    decide +kernel
  subst values
  exact ⟨_, events, read, rfl, layers .ndots, uncommented⟩

end Options

end HostResolver.Config
