import HostResolver.Proofs.Provider.Refusals
import HostResolver.Proofs.Provider.Starting
import HostResolver.Proofs.Settings.NormalForm

/-!
The start from settings.

Owns: that settings which were taken start a provider unless one of their paths asks for the home
directory of a user whose name holds a NUL character, and that only the files can leave the caller
with its own choice of servers then.

Does not own: the form of the settings.
-/

namespace HostResolver.Provider

open HostResolver.Config HostResolver.Document HostResolver.Files HostResolver.Servers
  HostResolver.Settings HostResolver.Text

/-! ## Paths of settings -/

/-- A path asks for the home directory of a user whose name holds a NUL character. -/
def AsksForNulUser (setting : Option String) : Prop :=
  ∃ text user, setting = some text ∧ homeOwner? text = some user ∧ Char.ofNat 0 ∈ user.toList

theorem expandHome_ne_empty {homes : Homes} {text : String} (nonempty : text.toList ≠ []) :
    (expandHome homes text).toList ≠ [] := by
  unfold expandHome
  split
  · dsimp only
    split
    · exact nonempty
    · split
      · simp
      · next shown =>
          rw [String.toList_ofList]
          exact fun empty => shown (List.isEmpty_iff.2 empty)
  · exact nonempty

theorem nonEmpty?_of_ne {text : String} (nonempty : text.toList ≠ []) :
    nonEmpty? text = some text := by
  rw [nonEmpty?, isEmpty_eq_false_of_toList nonempty]
  rfl

theorem expandSetting_of_text {homes : Homes} {text : String} (nonempty : text.toList ≠ []) :
    expandSetting homes (some text) =
      if (homeOwner? text).any fun user => user.contains (Char.ofNat 0) then
        .error ⟨text, .nulCharacter⟩
      else .ok (some (expandHome homes text)) := by
  unfold expandSetting
  rw [Option.bind_some, nonEmpty?_of_ne nonempty]
  dsimp only
  rw [nonEmpty?_of_ne (expandHome_ne_empty nonempty)]

theorem asksForNulUser_iff {text : String} :
    AsksForNulUser (some text) ↔
      ((homeOwner? text).any fun user => user.contains (Char.ofNat 0)) = true := by
  rw [Option.any_eq_true]
  simp only [String.contains_char_eq, decide_eq_true_eq]
  constructor
  · rintro ⟨other, user, same, owner, member⟩
    rw [← Option.some.inj same] at owner
    exact ⟨user, owner, member⟩
  · rintro ⟨user, owner, member⟩
    exact ⟨text, user, rfl, owner, member⟩

/-- **A trimmed path is expanded unless it asks for a user that cannot be looked up.** -/
theorem expandSetting_cases {setting : Option String}
    (isTrimmed : ∀ path, setting = some path → IsTrimmed path) (homes : Homes) :
    (AsksForNulUser setting ∧
        ∃ text, expandSetting homes setting = .error ⟨text, .nulCharacter⟩) ∨
      (¬AsksForNulUser setting ∧
        expandSetting homes setting = .ok (setting.map (expandHome homes))) := by
  cases setting with
  | none =>
      refine Or.inr ⟨?_, rfl⟩
      rintro ⟨text, _, absent, _⟩
      exact nomatch absent
  | some text =>
      rw [expandSetting_of_text (isTrimmed text rfl).nonempty]
      by_cases asks : AsksForNulUser (some text)
      · exact Or.inl ⟨asks, text, if_pos (asksForNulUser_iff.1 asks)⟩
      · exact Or.inr ⟨asks, if_neg (mt asksForNulUser_iff.2 asks)⟩

/-! ## Starts -/

/-- The path that a setting stands for. -/
def settingPath (homes : Homes) (setting : Option String) : Option Path :=
  (setting.map (expandHome homes)).map Path.ofText

/-- The files at the paths of a primary file and a directory name no server, each way in which they
can fail to. -/
inductive NamesNoServer (tree : FileTree) (primary directory : Option Path) (order : Value)
    (environmentOptions : Option String) : Prop where
  | refused {error : ConfigError}
      (built : (ServerProvider.ofPaths tree primary directory order environmentOptions).1 =
        .error error)
      (fileError : IsFileError tree (IsLookedAt primary directory) error)
  | noFiles (noPrimary : primary = none)
      (noOverrides : ServerProvider.overrideFiles tree directory = .ok [])
  | noLine {files : List Path} (listed : ServerProvider.overrideFiles tree directory = .ok files)
      (without : ∀ path ∈ files ++ primary.toList, ¬HasServerLine tree path)

theorem startSilently_eq_noop_iff (tree : FileTree) (primary directory : Option String)
    (order : Value) (environmentOptions : Option String) (shuffles : Nat → Shuffle) :
    (startSilently tree primary directory order environmentOptions shuffles).1 = .noop ↔
      (∃ error, (ServerProvider.ofPaths tree (primary.map Path.ofText)
          (directory.map Path.ofText) order environmentOptions).1 = .error error) ∨
        ∃ files, ServerProvider.overrideFiles tree (directory.map Path.ofText) = .ok files ∧
          ∀ path ∈ files ++ (primary.map Path.ofText).toList, ¬HasServerLine tree path := by
  rw [startSilently_eq]
  cases result : (ServerProvider.ofPaths tree (primary.map Path.ofText) (directory.map Path.ofText)
      order environmentOptions).1 with
  | error error => exact iff_of_true rfl (Or.inl ⟨error, rfl⟩)
  | ok provider =>
      obtain ⟨known, without⟩ := mayOverride_of_ofPaths result shuffles
      rw [← without, ← known]
      cases asked : (Session.start.mayOverride shuffles provider).1 with
      | true => simp [asked]
      | false => simp [asked]

theorem namesNoServer_iff {tree : FileTree} {primary directory : Option Path} {order : Order}
    {environmentOptions : Option String} :
    NamesNoServer tree primary directory (.text order.name) environmentOptions ↔
      (∃ error, (ServerProvider.ofPaths tree primary directory (.text order.name)
          environmentOptions).1 = .error error) ∨
        ∃ files, ServerProvider.overrideFiles tree directory = .ok files ∧
          ∀ path ∈ files ++ primary.toList, ¬HasServerLine tree path := by
  constructor
  · intro names
    cases names with
    | refused built fileError => exact Or.inl ⟨_, built⟩
    | noFiles noPrimary noOverrides =>
        refine Or.inr ⟨[], noOverrides, fun path member => ?_⟩
        rw [noPrimary] at member
        exact absurd member List.not_mem_nil
    | noLine listed without => exact Or.inr ⟨_, listed, without⟩
  · rintro (⟨error, built⟩ | ⟨files, listed, without⟩)
    · rcases causes_of_ofPaths built with ⟨_, noPrimary, noOverrides⟩ | ⟨unread, _⟩ | fileError
      · exact .noFiles noPrimary noOverrides
      · exact absurd ((ofValue?_name order).symm.trans unread) (Option.some_ne_none order)
      · exact .refused built fileError
    · exact .noLine listed without

/-- A start from settings fails for a home directory that cannot be looked up, or it is a start from
the paths that the settings stand for. -/
theorem startFromSettings_cases {settings : ResolverSettings} (normal : IsNormal settings)
    (tree : FileTree) (homes : Homes) (environmentOptions : Option String)
    (shuffles : Nat → Shuffle) :
    ((AsksForNulUser settings.resolvConf ∨ AsksForNulUser settings.resolverDir) ∧
        ∃ error, startFromSettings tree homes settings environmentOptions shuffles =
          .error error) ∨
      (¬(AsksForNulUser settings.resolvConf ∨ AsksForNulUser settings.resolverDir) ∧
        startFromSettings tree homes settings environmentOptions shuffles =
          .ok (startSilently tree (settings.resolvConf.map (expandHome homes))
            (settings.resolverDir.map (expandHome homes)) (.text settings.addressOrder.name)
            environmentOptions shuffles)) := by
  unfold startFromSettings
  rcases expandSetting_cases normal.resolvConf homes with
    ⟨asks, text, primary⟩ | ⟨primaryAsksNot, primary⟩
  · rw [primary]
    exact Or.inl ⟨Or.inl asks, _, rfl⟩
  rcases expandSetting_cases normal.resolverDir homes with
    ⟨asks, text, directory⟩ | ⟨directoryAsksNot, directory⟩
  · rw [primary, directory]
    exact Or.inl ⟨Or.inr asks, _, rfl⟩
  rw [primary, directory]
  exact Or.inr ⟨fun asks => asks.elim primaryAsksNot directoryAsksNot, rfl⟩

theorem startFromSettings_error_iff {settings : ResolverSettings} (normal : IsNormal settings)
    (tree : FileTree) (homes : Homes) (environmentOptions : Option String)
    (shuffles : Nat → Shuffle) :
    (∃ error, startFromSettings tree homes settings environmentOptions shuffles = .error error) ↔
      AsksForNulUser settings.resolvConf ∨ AsksForNulUser settings.resolverDir := by
  rcases startFromSettings_cases normal tree homes environmentOptions shuffles with
    ⟨asks, fails⟩ | ⟨asksNot, starts⟩
  · exact iff_of_true fails asks
  · rw [starts]
    exact iff_of_false (fun ⟨_, impossible⟩ => nomatch impossible) asksNot

theorem startFromSettings_noop_iff {settings : ResolverSettings} (normal : IsNormal settings)
    {tree : FileTree} {homes : Homes} {environmentOptions : Option String}
    {shuffles : Nat → Shuffle} {started : Started} {events : List Event}
    (isStarted : startFromSettings tree homes settings environmentOptions shuffles =
      .ok (started, events)) :
    started = .noop ↔
      NamesNoServer tree (settingPath homes settings.resolvConf)
        (settingPath homes settings.resolverDir) (.text settings.addressOrder.name)
        environmentOptions := by
  rcases startFromSettings_cases normal tree homes environmentOptions shuffles with
    ⟨_, _, fails⟩ | ⟨_, starts⟩
  · exact nomatch fails.symm.trans isStarted
  · have outcome := congrArg Prod.fst (Except.ok.inj (starts.symm.trans isStarted))
    dsimp only at outcome
    rw [← outcome, startSilently_eq_noop_iff]
    exact namesNoServer_iff.symm

/-- The user who asks is at home in `/home/u`. -/
def homes (user : String) : Option String := if user.isEmpty then some "/home/u" else none

end HostResolver.Provider
