import HostResolver.Proofs.Settings.Precedence
import HostResolver.Proofs.Text.Words

/-!
Settings in normal form.

Owns: that the paths of validated settings are trimmed and not empty, that their order is one of the
three by its own name, and that the check takes such settings as they are.

Does not own: which values are taken.
-/

namespace HostResolver.Settings

open HostResolver.Document HostResolver.Files HostResolver.Servers HostResolver.Text

/-- A text that begins and ends with ink, and so is not empty. -/
structure IsTrimmed (text : String) : Prop where
  front : startsWithInk text.toList = true
  back : startsWithInk text.toList.reverse = true

/-- Settings in the form that the check gives them, and keeps. -/
structure IsNormal (settings : ResolverSettings) : Prop where
  resolvConf : ∀ path, settings.resolvConf = some path → IsTrimmed path
  resolverDir : ∀ path, settings.resolverDir = some path → IsTrimmed path
  addressOrder : settings.addressOrder.name ∈ ["random", "round_robin", "failover"]
  stable : ResolverSettings.validate settings.toEntries = .ok settings

/-- Settings that are taken, from values as they are or from a file and the environment. -/
def IsAccepted (settings : ResolverSettings) : Prop :=
  (∃ values, ResolverSettings.validate values = .ok settings) ∨
    ∃ tree path overrides, ResolverSettings.load tree path overrides = .ok settings

/-! ## Paths -/

theorem IsTrimmed.nonempty {text : String} (isTrimmed : IsTrimmed text) : text.toList ≠ [] := by
  intro empty
  have front := isTrimmed.front
  rw [empty] at front
  exact absurd front (by simp [startsWithInk])

theorem isEmpty_eq_false_of_toList {text : String} (nonempty : text.toList ≠ []) :
    text.isEmpty = false := by
  rw [Bool.eq_false_iff]
  intro empty
  rw [String.isEmpty_iff] at empty
  exact nonempty (by rw [empty]; rfl)

theorem isTrimmed_of_pathOf {text path : String} (found : pathOf text = some path) :
    IsTrimmed path := by
  unfold pathOf at found
  split at found
  · contradiction
  · next shown =>
      have whole : path.toList = trim text.toList := by
        rw [← Option.some.inj found, trimmed, String.toList_ofList]
      have nonempty : trim text.toList ≠ [] := by
        intro empty
        rw [trimmed, empty] at shown
        exact shown rfl
      constructor
      · rw [whole]
        exact startsWithInk_trim nonempty
      · rw [whole]
        exact startsWithInk_reverse_trim nonempty

theorem pathOf_of_isTrimmed {text : String} (isTrimmed : IsTrimmed text) :
    pathOf text = some text := by
  have kept : trimmed text = text := by
    rw [trimmed, trim_of_startsWithInk isTrimmed.front isTrimmed.back, String.ofList_toList]
  rw [pathOf, kept, isEmpty_eq_false_of_toList isTrimmed.nonempty]
  rfl

theorem isTrimmed_of_checkPath {field : Field} {value : Value} {path : String}
    (taken : checkPath field value = .ok (some path)) : IsTrimmed path := by
  have ofText : (checkText field value).map pathOf = .ok (some path) → IsTrimmed path := by
    intro mapped
    cases isText : checkText field value with
    | error complaints =>
        rw [isText] at mapped
        exact nomatch mapped
    | ok text =>
        rw [isText] at mapped
        exact isTrimmed_of_pathOf (Except.ok.inj mapped)
  cases value with
  | null => exact nomatch taken
  | _ => exact ofText taken

theorem checkPath_pathValue {field : Field} {setting : Option String}
    (isTrimmed : ∀ path, setting = some path → IsTrimmed path) :
    checkPath field (ResolverSettings.pathValue setting) = .ok setting := by
  cases setting with
  | none => rfl
  | some path => exact congrArg Except.ok (pathOf_of_isTrimmed (isTrimmed path rfl))

theorem isTrimmed_of_comesOf {field : Field} {default : String} {value : Option Value}
    {setting : Option String} (defaultTrimmed : IsTrimmed default)
    (comesOf : ComesOf (checkPath field) (some default) value setting) :
    ∀ path, setting = some path → IsTrimmed path := by
  rintro path rfl
  cases value with
  | none => exact Option.some.inj comesOf ▸ defaultTrimmed
  | some value => exact isTrimmed_of_checkPath comesOf

/-! ## The mapping for logging -/

theorem hasTextKeys_foldl {named : Entries} (texts : HasTextKeys named) (entries : Entries) :
    HasTextKeys (entries.foldl nameEntry named) := by
  induction entries generalizing named with
  | nil => exact texts
  | cons entry rest inductionHypothesis =>
      rw [List.foldl_cons]
      apply inductionHypothesis
      unfold nameEntry
      cases checkKey entry.1 with
      | error complaint => exact texts
      | ok name => exact hasTextKeys_set texts name entry.2

theorem hasTextKeys_namedEntries (entries : Entries) : HasTextKeys (namedEntries entries) :=
  hasTextKeys_foldl ⟨[], List.nodup_nil, rfl⟩ entries

theorem keyComplaints_of_texts {entries : Entries} {names : List String}
    (keys : entries.map Prod.fst = names.map Value.text) : keyComplaints entries = [] := by
  induction entries generalizing names with
  | nil => rfl
  | cons entry rest inductionHypothesis =>
      obtain ⟨key, value⟩ := entry
      cases names with
      | nil => exact absurd keys (List.cons_ne_nil _ _)
      | cons name others =>
          rw [List.map_cons, List.map_cons, List.cons.injEq] at keys
          obtain ⟨isText, restKeys⟩ := keys
          change key = .text name at isText
          subst isText
          exact inductionHypothesis restKeys

theorem checkMapping_of_texts {entries : Entries} (texts : HasTextKeys entries) :
    checkMapping (.mapping entries) = .ok entries := by
  have sound : (keyComplaints entries).isEmpty = true := by
    obtain ⟨names, _, keys⟩ := texts
    rw [keyComplaints_of_texts keys]
    rfl
  rw [checkMapping_of_sound sound, namedEntries_of_texts texts]

theorem hasTextKeys_of_comesOf {value : Option Value} {logging : Entries}
    (comesOf : ComesOf checkMapping [] value logging) : HasTextKeys logging := by
  obtain ⟨entries, _, taken⟩ := comesOf_checkMapping_iff.1 comesOf
  rw [eq_namedEntries_of_checkMapping taken]
  exact hasTextKeys_namedEntries entries

/-! ## Settings -/

/-- The name of an order is read as that order. -/
theorem checkOrder_name (order : Order) : checkOrder (.text order.name) = .ok order :=
  checkOrder_of_read? (by cases order <;> decide)

theorem validate_toEntries {settings : ResolverSettings}
    (resolvConf : ∀ path, settings.resolvConf = some path → IsTrimmed path)
    (resolverDir : ∀ path, settings.resolverDir = some path → IsTrimmed path)
    (logging : HasTextKeys settings.logging) :
    ResolverSettings.validate settings.toEntries = .ok settings :=
  validate_eq_ok_iff.2 ⟨checkPath_pathValue resolvConf, checkPath_pathValue resolverDir,
    checkOrder_name settings.addressOrder, checkMapping_of_texts logging⟩

theorem isNormal_of_validate {values : Entries} {settings : ResolverSettings}
    (valid : ResolverSettings.validate values = .ok settings) : IsNormal settings := by
  obtain ⟨resolvConf, resolverDir, _, logging⟩ := validate_eq_ok_iff.1 valid
  have primaryTrimmed := isTrimmed_of_comesOf (by constructor <;> decide) resolvConf
  have directoryTrimmed := isTrimmed_of_comesOf (by constructor <;> decide) resolverDir
  refine ⟨primaryTrimmed, directoryTrimmed, ?_, ?_⟩
  · cases settings.addressOrder <;> decide
  · exact validate_toEntries primaryTrimmed directoryTrimmed (hasTextKeys_of_comesOf logging)

theorem exists_of_bind {ε α β : Type} {outcome : Except ε α} {next : α → Except ε β} {result : β}
    (bound : outcome.bind next = .ok result) :
    ∃ value, outcome = .ok value ∧ next value = .ok result := by
  cases outcome with
  | error error => exact nomatch bound
  | ok value => exact ⟨value, rfl, bound⟩

theorem eq_ok_of_mapError {ε δ α : Type} {outcome : Except ε α} {f : ε → δ} {result : α}
    (mapped : outcome.mapError f = .ok result) : outcome = .ok result := by
  cases outcome with
  | error error => exact nomatch mapped
  | ok value => exact congrArg Except.ok (Except.ok.inj mapped)

/-- Settings that are loaded are the check of some values. -/
theorem exists_validate_of_load {tree : FileTree} {path : Option String} {overrides : Overrides}
    {settings : ResolverSettings}
    (loaded : ResolverSettings.load tree path overrides = .ok settings) :
    ∃ values, ResolverSettings.validate values = .ok settings := by
  -- Wherever the values come from, the check of them is the last step.
  have steps : ResolverSettings.load tree path overrides =
      (path.elim (.ok []) (valuesOfFile tree)).bind fun values =>
        (overrides.apply values).bind fun values =>
          (ResolverSettings.validate values).mapError .invalid := by
    cases path <;> rfl
  rw [steps] at loaded
  obtain ⟨_, _, loaded⟩ := exists_of_bind loaded
  obtain ⟨values, _, checked⟩ := exists_of_bind loaded
  exact ⟨values, eq_ok_of_mapError checked⟩

theorem IsAccepted.isNormal {settings : ResolverSettings} (accepted : IsAccepted settings) :
    IsNormal settings := by
  rcases accepted with ⟨values, valid⟩ | ⟨tree, path, overrides, loaded⟩
  · exact isNormal_of_validate valid
  · obtain ⟨values, valid⟩ := exists_validate_of_load loaded
    exact isNormal_of_validate valid

end HostResolver.Settings
