/-
Which settings a run has.

Each of the two names comes from an option, from the settings file or, if neither gives it, from the
default, in this order. The reader of settings files fills in the defaults at once; what a file
gives itself is read as `Given`, whose names may be absent, and completing it with the defaults fits
the reader of settings.

A settings file has to be valid on its own, before options come in the place of its names. So a run
has the merged settings just if these are valid and those of the file are, and a name of the file
that an option replaces makes a difference only by being invalid.
-/
import ProviderGen.Proofs.Preparation
import ProviderGen.Proofs.Reading
import ProviderGen.Proofs.RecordMaps

set_option autoImplicit false

namespace ProviderGen

/-- What is read from a document when the decoder is followed by a map. -/
theorem Reading.decode_map {α β : Type} {f : α → β} {decode : Decoder α} {decode' : Decoder β}
    (h : ∀ setting depth node, f <$> decode setting depth node = decode' setting depth node)
    (reading : Reading) : reading.decode decode' = f <$> reading.decode decode := by
  unfold Reading.decode
  rw [← h, StateT.run_map, map_bind, bind_map_left]
  refine bind_congr fun result => ?_
  dsimp only
  split
  · rfl
  · rfl

namespace Config

/-! ## Valid names -/

/-- The rule for names, `[a-z][a-z0-9_]*`. -/
def NameRule (s : String) : Prop :=
  ∃ first rest, s.toList = first :: rest ∧ ('a' ≤ first ∧ first ≤ 'z') ∧
    ∀ c ∈ rest, ('a' ≤ c ∧ c ≤ 'z') ∨ ('0' ≤ c ∧ c ≤ '9') ∨ c = '_'

/-- Both names follow the rule. -/
structure Valid (config : Config) : Prop where
  providerName : NameRule config.providerName
  packageName : NameRule config.packageName

theorem isName_iff {s : String} : isName s = true ↔ NameRule s := by
  unfold isName NameRule
  cases s.toList with
  | nil => simp
  | cons first rest =>
    simp [isNameChar, Text.isAsciiLower, Text.isAsciiDigit, or_assoc]

theorem checkName_eq_ok_iff {key value : String} :
    checkName key value = .ok () ↔ NameRule value := by
  rw [← isName_iff]
  unfold checkName
  split
  · next h => exact ⟨fun _ => h, fun _ => rfl⟩
  · next h => exact ⟨nofun, fun hname => absurd hname h⟩

theorem validate_eq_ok_iff {config : Config} : config.validate = .ok () ↔ config.Valid := by
  unfold validate
  rw [bind_eq_ok_iff]
  constructor
  · rintro ⟨⟨⟩, hprovider, hpackage⟩
    exact ⟨checkName_eq_ok_iff.mp hprovider, checkName_eq_ok_iff.mp hpackage⟩
  · intro h
    exact ⟨(), checkName_eq_ok_iff.mpr h.providerName, checkName_eq_ok_iff.mpr h.packageName⟩

/-- The check, which can be run, decides the rule. -/
instance (config : Config) : Decidable config.Valid :=
  decidable_of_iff (config.validate.toOption = some ())
    (toOption_eq_some_iff.trans validate_eq_ok_iff)

theorem default_valid : Valid {} := by decide

/-! ## What a file gives -/

/-- The names that a settings file gives. -/
structure Given where
  providerName : Option String := none
  packageName : Option String := none
  deriving DecidableEq

namespace Given

/-- The names that stand in a file. -/
def decoder : Decoder Given :=
  Decoder.record
    [Decoder.defaulted "provider_name" Decoder.text fun v g => { g with providerName := some v },
     Decoder.defaulted "package_name" Decoder.text fun v g => { g with packageName := some v }] {}

/-- The names of a file with the defaults for those that it lacks. -/
def complete (given : Given) : Config where
  providerName := given.providerName.getD "provider"
  packageName := given.packageName.getD "provider"

/-- The settings of a file are what it gives, completed. -/
theorem decode_decoder (reading : Reading) :
    reading.decode Config.decoder = complete <$> reading.decode decoder := by
  apply reading.decode_map
  intro setting depth node
  refine Decoder.record_fits (.cons ?_ (.cons ?_ .nil)) ({} : Given) setting depth node
  · apply Decoder.defaulted_fits
    intro value given
    rfl
  · apply Decoder.defaulted_fits
    intro value given
    rfl

end Given

theorem ofYaml_of_given {text : String} {given : Given}
    (h : (Yaml.read text).decode Given.decoder = .ok given) :
    ofYaml text = given.complete.validate.map fun _ => given.complete := by
  unfold ofYaml
  rw [Given.decode_decoder, h]
  rfl

end Config

namespace CommandLine

/-- The names that the settings file of a run gives; without a file none are given. -/
def Gives (tree : FileTree) (path? : Option String) (given : Config.Given) : Prop :=
  match path? with
  | none => given = {}
  | some path => ∃ bytes text, tree.read path = .ok bytes ∧ Text.decodeUtf8 bytes = .ok text ∧
      (Yaml.read text).decode Config.Given.decoder = .ok given

/-- The merged settings: each name as the option says, else as the file says, else the default. -/
def GenerateOptions.merged (options : GenerateOptions) (given : Config.Given) : Config where
  providerName := (options.providerName <|> given.providerName).getD "provider"
  packageName := (options.packageName <|> given.packageName).getD "provider"

variable {tree : FileTree} {options : GenerateOptions} {given : Config.Given}

theorem override_complete :
    given.complete.override options.providerName options.packageName = options.merged given := by
  unfold Config.override Config.Given.complete GenerateOptions.merged
  cases options.providerName <;> cases options.packageName <;> rfl

/-- The merged settings do not depend on what the options replace. -/
theorem merged_congr {other : Config.Given}
    (hprovider : options.providerName = none → other.providerName = given.providerName)
    (hpackage : options.packageName = none → other.packageName = given.packageName) :
    options.merged other = options.merged given := by
  have hor {a b c : Option String} (h : a = none → b = c) : (a <|> b) = (a <|> c) := by
    cases a with
    | none => exact h rfl
    | some name => rfl
  unfold GenerateOptions.merged
  rw [hor hprovider, hor hpackage]

/-! ## Settling the settings -/

theorem run_readConfig {path text : String} {bytes : ByteArray}
    (hread : tree.read path = .ok bytes) (htext : Text.decodeUtf8 bytes = .ok text) :
    ((readConfig FileTree.files path).run tree).1 = Config.ofYaml text := by
  have hfound := FileTree.readText_eq_ok_iff.mpr ⟨bytes, hread, htext⟩
  unfold readConfig
  rw [(FileTree.looks_readText path).run_bind, hfound]
  rfl

/-- A value that stands only if a check has no failure. -/
theorem ends_checked {α : Type} (headline : String) (outcome : Except Failure Unit) (value : α)
    (tree : FileTree) :
    Ends (do
      demand headline outcome
      return value) tree
      ((outcome.map fun _ => value).mapError (Report.ofFailure headline)) tree := by
  cases outcome with
  | ok _ => exact (ends_pure () tree).bind (ends_pure value tree)
  | error failure => exact (ends_throw _ tree).bind_error _

/-- With a file that is valid, the settings are the merged ones if these are valid. -/
theorem resolveConfig_of_valid (h : Gives tree options.config given)
    (hvalid : given.complete.Valid) :
    Ends (resolveConfig FileTree.files options) tree
      (((options.merged given).validate.map fun _ => options.merged given).mapError
        (Report.ofFailure "Invalid generator config")) tree := by
  have hrest := ends_checked "Invalid generator config" (options.merged given).validate
    (options.merged given) tree
  rw [← override_complete] at hrest ⊢
  unfold resolveConfig
  cases hpath : options.config with
  | none =>
    -- nothing is given, so what there is to complete are the defaults
    rw [hpath] at h
    cases h
    exact (ends_pure ({} : Config) tree).bind hrest
  | some path =>
    rw [hpath] at h
    obtain ⟨bytes, text, hread, htext, hgiven⟩ := h
    have hfound := ends_look (looks_readConfig path) tree
    rw [run_readConfig hread htext, Config.ofYaml_of_given hgiven,
      Config.validate_eq_ok_iff.mpr hvalid] at hfound
    exact hfound.bind ((ends_pure given.complete tree).bind hrest)

/-- With a file that is not valid there are no settings, whatever the options say. -/
theorem resolveConfig_of_invalid (h : Gives tree options.config given)
    (hinvalid : ¬ given.complete.Valid) :
    ∃ path failure, options.config = some path ∧
      Ends (resolveConfig FileTree.files options) tree
        (.error (.ofFailure ("Failed to load config " ++ path) failure)) tree := by
  cases hpath : options.config with
  | none =>
    rw [hpath] at h
    cases h
    exact absurd Config.default_valid hinvalid
  | some path =>
    rw [hpath] at h
    obtain ⟨bytes, text, hread, htext, hgiven⟩ := h
    have hfound := ends_look (looks_readConfig path) tree
    rw [run_readConfig hread htext, Config.ofYaml_of_given hgiven] at hfound
    cases hchecked : given.complete.validate with
    | ok _ => exact absurd (Config.validate_eq_ok_iff.mp hchecked) hinvalid
    | error failure =>
      rw [hchecked] at hfound
      refine ⟨path, failure, rfl, ?_⟩
      unfold resolveConfig
      rw [hpath]
      exact (hfound.bind (ends_demand _ _ tree)).bind_error _

/-- **Options come before the file, and the file before the defaults.** A run with a settings file
that can be read has the merged settings just if these are valid and the file is valid on its own.
Two valid files that agree on the names which no option gives come to the same. -/
theorem resolveConfig_merged (tree : FileTree) (options : GenerateOptions) (given : Config.Given)
    (h : Gives tree options.config given) :
    ∃ outcome, Ends (resolveConfig FileTree.files options) tree outcome tree ∧
      (∀ config, outcome = .ok config ↔
        config = options.merged given ∧ config.Valid ∧ given.complete.Valid) ∧
      (given.complete.Valid → ∀ (tree' : FileTree) (given' : Config.Given),
        Gives tree' options.config given' → given'.complete.Valid →
        (options.providerName = none → given'.providerName = given.providerName) →
        (options.packageName = none → given'.packageName = given.packageName) →
        Ends (resolveConfig FileTree.files options) tree' outcome tree') := by
  by_cases hvalid : given.complete.Valid
  · refine ⟨_, resolveConfig_of_valid h hvalid, ?_, ?_⟩
    · intro config
      cases hchecked : (options.merged given).validate with
      | ok _ =>
        have hmerged := Config.validate_eq_ok_iff.mp hchecked
        constructor
        · rintro ⟨⟩
          exact ⟨rfl, hmerged, hvalid⟩
        · rintro ⟨rfl, -, -⟩
          rfl
      | error failure =>
        refine ⟨nofun, ?_⟩
        rintro ⟨rfl, hmerged, -⟩
        rw [Config.validate_eq_ok_iff.mpr hmerged] at hchecked
        cases hchecked
    · intro _ tree' given' h' hvalid' hprovider hpackage
      rw [← merged_congr hprovider hpackage]
      exact resolveConfig_of_valid h' hvalid'
  · obtain ⟨path, failure, -, hends⟩ := resolveConfig_of_invalid h hvalid
    refine ⟨_, hends, fun config => ⟨nofun, fun hall => ?_⟩, fun hall => absurd hall hvalid⟩
    exact absurd hall.2.2 hvalid

/-! ### A file with a name that is replaced -/

/-- A disk with a settings file. -/
def settingsTree (contents : ByteArray) : FileTree where
  workingDirectory := ["work".toList]
  entries :=
    [(["work".toList], .directory), (["work".toList, "codegen.yaml".toList], .file contents)]

def settingsOptions (providerName packageName : Option String) : GenerateOptions where
  spec := "api.json"
  output := "generated"
  docs := "docs"
  providerName := providerName
  packageName := packageName
  config := some "codegen.yaml"
  templates := none
  keepGoing := false

theorem settingsTree_gives {text : String} {given : Config.Given}
    (h : ((Yaml.read text).decode Config.Given.decoder).toOption = some given) :
    Gives (settingsTree text.toUTF8) (some "codegen.yaml") given := by
  have hread (contents : ByteArray) :
      (settingsTree contents).read "codegen.yaml" = .ok contents := rfl
  exact ⟨text.toUTF8, text, hread _, Text.decodeUtf8_toUTF8 text, toOption_eq_some_iff.mp h⟩

/-- A package of the file that an option replaces may as well be absent. -/
theorem resolveConfig_merged_replaced :
    Ends (resolveConfig FileTree.files (settingsOptions none (some "internal")))
        (settingsTree "provider_name: acme\npackage_name: acmeprovider\n".toUTF8)
        (.ok ⟨"acme", "internal"⟩)
        (settingsTree "provider_name: acme\npackage_name: acmeprovider\n".toUTF8) ∧
      Ends (resolveConfig FileTree.files (settingsOptions none (some "internal")))
        (settingsTree "provider_name: acme\n".toUTF8) (.ok ⟨"acme", "internal"⟩)
        (settingsTree "provider_name: acme\n".toUTF8) := by
  have hboth : Gives (settingsTree "provider_name: acme\npackage_name: acmeprovider\n".toUTF8)
      (some "codegen.yaml") ⟨some "acme", some "acmeprovider"⟩ :=
    settingsTree_gives (by decide +kernel)
  have hone : Gives (settingsTree "provider_name: acme\n".toUTF8) (some "codegen.yaml")
      ⟨some "acme", none⟩ :=
    settingsTree_gives (by decide +kernel)
  obtain ⟨outcome, hends, hok, hsame⟩ :=
    resolveConfig_merged _ (settingsOptions none (some "internal")) _ hboth
  have hresult : outcome = .ok ⟨"acme", "internal"⟩ :=
    (hok _).mpr ⟨rfl, by decide, by decide⟩
  subst hresult
  refine ⟨hends, hsame (by decide) _ _ hone (by decide) ?_ nofun⟩
  exact fun _ => rfl

/-- A provider of the file that breaks the rule is not made good by an option in its place, where
one that follows the rule makes no difference. -/
theorem resolveConfig_bad_file :
    Gives (settingsTree "provider_name: BAD\n".toUTF8)
        (settingsOptions (some "over") (some "internal")).config ⟨some "BAD", none⟩ ∧
      ((settingsOptions (some "over") (some "internal")).merged ⟨some "BAD", none⟩).Valid ∧
      (∀ config, ¬ Ends
        (resolveConfig FileTree.files (settingsOptions (some "over") (some "internal")))
        (settingsTree "provider_name: BAD\n".toUTF8) (.ok config)
        (settingsTree "provider_name: BAD\n".toUTF8)) ∧
      Ends (resolveConfig FileTree.files (settingsOptions (some "over") (some "internal")))
        (settingsTree "provider_name: acme\n".toUTF8) (.ok ⟨"over", "internal"⟩)
        (settingsTree "provider_name: acme\n".toUTF8) := by
  have hgives : Gives (settingsTree "provider_name: BAD\n".toUTF8)
      (settingsOptions (some "over") (some "internal")).config ⟨some "BAD", none⟩ :=
    settingsTree_gives (by decide +kernel)
  have hother : Gives (settingsTree "provider_name: acme\n".toUTF8)
      (settingsOptions (some "over") (some "internal")).config ⟨some "acme", none⟩ :=
    settingsTree_gives (by decide +kernel)
  refine ⟨hgives, by decide, ?_,
    resolveConfig_of_valid hother (by decide)⟩
  intro config hends
  have hinvalid : ¬ Config.Valid (Config.Given.complete ⟨some "BAD", none⟩) := by
    rw [← Config.validate_eq_ok_iff, ← toOption_eq_some_iff]
    decide
  obtain ⟨path, failure, -, hfails⟩ := resolveConfig_of_invalid hgives hinvalid
  cases hends.unique hfails

end CommandLine

end ProviderGen
