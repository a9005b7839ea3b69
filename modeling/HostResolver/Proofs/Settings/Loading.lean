import HostResolver.Proofs.Config.Parsing
import HostResolver.Proofs.Document.Equality
import HostResolver.Proofs.Settings.Collecting

/-!
Loading of settings.

Owns: the root of the settings document, the loading as the collecting of values and their check,
and the settings in terms of the value that counts for each of them.

Does not own: which values count, and what a check takes.
-/

namespace HostResolver.Settings

open HostResolver.Config HostResolver.Document HostResolver.Document.Yaml HostResolver.Files
  HostResolver.Servers HostResolver.Text

/-! ## The document -/

/-- The root of the settings document, null if there is no file. -/
def rootAt (tree : FileTree) : Option String → Except SettingsError Value
  | none => .ok .null
  | some path =>
    match tree.read path with
    | .error error => .error (.unreadable error)
    | .ok bytes =>
      match (Reading.ofBytes bytes).fault with
      | some fault => .error (.undecodable fault)
      | none => (Yaml.read (withLineFeeds (Reading.ofBytes bytes).text)).mapError .notDocument

theorem valuesOfFile_of_rootAt {tree : FileTree} {path : String} {root : Value}
    (isRoot : rootAt tree (some path) = .ok root) :
    valuesOfFile tree path = valuesOfDocument root := by
  unfold rootAt at isRoot
  unfold valuesOfFile
  cases opened : tree.read path with
  | error error => simp only [opened, reduceCtorEq] at isRoot
  | ok bytes =>
      simp only [opened] at isRoot
      cases faulty : (Reading.ofBytes bytes).fault with
      | some fault => simp only [faulty, reduceCtorEq] at isRoot
      | none =>
          simp only [faulty] at isRoot ⊢
          cases found : Yaml.read (withLineFeeds (Reading.ofBytes bytes).text) with
          | error error =>
              rw [found] at isRoot
              exact absurd isRoot (by simp [Except.mapError])
          | ok value =>
              rw [found] at isRoot
              rw [show value = root from Except.ok.inj isRoot]

theorem load_of_rootAt {tree : FileTree} {path : Option String} {root : Value}
    (isRoot : rootAt tree path = .ok root) (overrides : Overrides) :
    ResolverSettings.load tree path overrides =
      (collected root overrides).bind fun values =>
        (ResolverSettings.validate values).mapError .invalid := by
  unfold ResolverSettings.load collected
  cases path with
  | none =>
      rw [← Except.ok.inj isRoot]
      rfl
  | some path =>
      simp only [valuesOfFile_of_rootAt isRoot]
      cases valuesOfDocument root <;> rfl

/-! ## The check -/

/-- A setting is what the check of the value that counts for it gives, or its default if there is no
such value. -/
def ComesOf {α : Type} (check : Value → Checked α) (default : α) (value : Option Value)
    (result : α) : Prop :=
  match value with
  | none => result = default
  | some value => check value = .ok result

theorem checkField_eq_ok_iff {α : Type} {entries : Entries} {field : Field} {default result : α}
    {check : Value → Checked α} :
    checkField entries field default check = .ok result ↔
      ComesOf check default (entries.get? field.name) result := by
  unfold checkField ComesOf
  cases entries.get? field.name with
  | none => exact ⟨fun same => (Except.ok.inj same).symm, fun same => congrArg Except.ok same.symm⟩
  | some value => exact Iff.rfl

theorem validate_eq_ok_iff {values : Entries} {settings : ResolverSettings} :
    ResolverSettings.validate values = .ok settings ↔
      ComesOf (checkPath .resolvConf) (some "/etc/resolv.conf")
          (values.get? Field.resolvConf.name) settings.resolvConf ∧
        ComesOf (checkPath .resolverDir) (some "/etc/resolver")
          (values.get? Field.resolverDir.name) settings.resolverDir ∧
        ComesOf checkOrder .random (values.get? Field.addressOrder.name) settings.addressOrder ∧
        ComesOf checkMapping [] (values.get? Field.logging.name) settings.logging := by
  simp only [← checkField_eq_ok_iff]
  unfold ResolverSettings.validate
  dsimp only
  -- One complaint is enough for a refusal, whichever setting it is about.
  cases checkField values .resolvConf (some "/etc/resolv.conf") (checkPath .resolvConf) with
  | error complaints => simp only [reduceCtorEq, false_and]
  | ok resolvConf =>
      cases checkField values .resolverDir (some "/etc/resolver") (checkPath .resolverDir) with
      | error complaints => simp only [reduceCtorEq, false_and, and_false]
      | ok resolverDir =>
          cases checkField values .addressOrder .random checkOrder with
          | error complaints => simp only [reduceCtorEq, false_and, and_false]
          | ok addressOrder =>
              cases checkField values .logging [] checkMapping with
              | error complaints => simp only [reduceCtorEq, and_false]
              | ok logging =>
                  constructor
                  · intro valid
                    rw [← Except.ok.inj valid]
                    exact ⟨rfl, rfl, rfl, rfl⟩
                  · rintro ⟨first, second, third, fourth⟩
                    rw [Except.ok.inj first, Except.ok.inj second, Except.ok.inj third,
                      Except.ok.inj fourth]

theorem checkOrder_of_read? {text : String} {order : Order}
    (isRead : Order.read? text = some order) : checkOrder (.text text) = .ok order := by
  unfold checkOrder
  simp only [checkText, isRead]

theorem checkOrder_of_unread {text : String} (isRead : Order.read? text = none) :
    checkOrder (.text text) = .error [.unknownOrder] := by
  unfold checkOrder
  simp only [checkText, isRead]

theorem comesOf_checkMapping_iff {value : Option Value} {result : Entries} :
    ComesOf checkMapping [] value result ↔
      ∃ entries, mapping? (value.getD (.mapping [])) = some entries ∧
        checkMapping (.mapping entries) = .ok result := by
  cases value with
  | none =>
      constructor
      · exact fun isDefault => ⟨[], rfl, congrArg Except.ok (Eq.symm isDefault)⟩
      · rintro ⟨entries, isEmpty, taken⟩
        rw [← Option.some.inj isEmpty] at taken
        exact (Except.ok.inj taken).symm
  | some value =>
      cases value with
      | mapping found =>
          constructor
          · exact fun taken => ⟨found, rfl, taken⟩
          · rintro ⟨entries, same, taken⟩
            rwa [← Option.some.inj same] at taken
      | _ => exact iff_of_false (fun taken => nomatch taken) fun ⟨_, absent, _⟩ => nomatch absent

/-- The setting for logging is what the check gives for the mapping that counts, with the level of
the environment in it. -/
theorem comesOf_logging_iff {overrides : Overrides} {top entries values result : Entries}
    (collects : Collects overrides top entries values) :
    ComesOf checkMapping [] (values.get? Field.logging.name) result ↔
      ∃ logging, loggingOf? top entries = some logging ∧
        checkMapping (.mapping (withLevel overrides.level? logging)) = .ok result := by
  rw [comesOf_checkMapping_iff]
  cases isSet : overrides.level? with
  | none =>
      rw [show values.get? Field.logging.name = _ from collects.logging isSet, mapping?_getD]
      exact Iff.rfl
  | some level =>
      obtain ⟨logging, isLogging, found⟩ := collects.levelled level isSet
      rw [show values.get? Field.logging.name = _ from found]
      constructor
      · rintro ⟨levelled, same, taken⟩
        rw [← Option.some.inj same] at taken
        exact ⟨logging, isLogging, taken⟩
      · rintro ⟨other, isOther, taken⟩
        rw [← Option.some.inj (isLogging.symm.trans isOther)] at taken
        exact ⟨_, rfl, taken⟩

/-! ### Documents of one file -/

/-- The file `settings` with an ASCII text. -/
def documentTree (text : String) : FileTree where
  entries := [(["settings"], .file (asciiBytes text) .full)]

theorem read_documentTree (text : String) :
    (documentTree text).read "settings" = .ok (asciiBytes text) := by
  have located : (documentTree text).locate "settings" = .ok ["settings"] :=
    (FileTree.locate_of_short (by decide) (by decide) (by decide)).trans rfl
  exact FileTree.read_of_status (FileTree.status_of_locate located rfl)

theorem rootAt_documentTree {text : String} {root : Value}
    (sound : (Reading.ofBytes (asciiBytes text)).fault = none)
    (isRead : Yaml.read (withLineFeeds (Reading.ofBytes (asciiBytes text)).text) = .ok root) :
    rootAt (documentTree text) (some "settings") = .ok root := by
  simp only [rootAt, read_documentTree, sound, isRead]
  rfl

/-- An environment that sets the level and nothing else. -/
def debugEnvironment (name : String) : Option String :=
  [("UNIXRESOLVER_LOG_LEVEL", "debug")].lookup name

end HostResolver.Settings
