import Findings.Proofs.Json.Printed
import Findings.Proofs.Lint.Joined
import Findings.Proofs.Path.Joined
import Findings.Proofs.Sarif.Run

/-!
Contract: logs in which every surrogate pair is joined.

Owns:
- `Log.IsJoined`, that no text of a log holds an unjoined surrogate pair, part by part;
- `ofReport_isJoined`: the log of a joined report is joined, if what the options put into it is.

The texts of a log come from the report, from the paths of its files, or are made of ASCII.
-/

set_option autoImplicit false

namespace Findings.Sarif

open Findings.Lint Findings.FirstAppearance

/-! ## Joined logs -/

structure Fingerprints.IsJoined (prints : Fingerprints) : Prop where
  message : prints.message.IsJoined
  artifactUri : prints.artifactUri.IsJoined
  ruleId : ∀ ruleId ∈ prints.ruleId, ruleId.IsJoined

structure Finding.IsJoined (finding : Finding) : Prop where
  text : finding.text.IsJoined
  uri : finding.location.uri.IsJoined
  snippet : ∀ region ∈ finding.location.region, ∀ snippet ∈ region.snippet, snippet.IsJoined
  fingerprints : ∀ prints ∈ finding.fingerprints, prints.IsJoined

structure Result.IsJoined (result : Result) : Prop where
  finding : result.finding.IsJoined
  ruleId : result.ruleId.IsJoined
  suppressions : ∀ suppressions ∈ result.suppressions, ∀ suppression ∈ suppressions,
    suppression.justification.IsJoined

structure RuleDescriptor.IsJoined (rule : RuleDescriptor) : Prop where
  id : rule.id.IsJoined
  name : rule.name.IsJoined
  helpUri : ∀ helpUri ∈ rule.helpUri, helpUri.IsJoined
  description : rule.description.IsJoined
  category : rule.category.IsJoined

structure Driver.IsJoined (driver : Driver) : Prop where
  name : driver.name.IsJoined
  version : ∀ version ∈ driver.version, version.IsJoined
  informationUri : driver.informationUri.IsJoined
  rules : ∀ rule ∈ driver.rules, rule.IsJoined

/-- No text of a log holds an unjoined surrogate pair. -/
structure Log.IsJoined (log : Log) : Prop where
  driver : log.driver.IsJoined
  artifacts : ∀ artifact ∈ log.artifacts, artifact.uri.IsJoined
  results : ∀ result ∈ log.results, result.IsJoined
  notifications : ∀ notification ∈ log.notifications, notification.IsJoined

/-- What the options put into a log holds no unjoined surrogate pair. -/
structure Options.IsJoined (options : Options) : Prop where
  toolName : options.toolName.IsJoined
  toolVersion : ∀ version ∈ options.toolVersion, version.IsJoined
  informationUri : options.informationUri.IsJoined

/-! ## Texts of ASCII -/

theorem isJoined_of_fingerprint {text print : Text} (made : fingerprint text = .ok print) :
    print.IsJoined := by
  obtain ⟨bytes, _, isPrint⟩ := bind_eq_ok_iff.1 made
  cases isPrint
  refine Text.IsSurrogateFree.isJoined fun c member => ?_
  obtain ⟨byte, _, inByte⟩ := List.mem_flatMap.1 member
  exact (Text.isPrinted_hexadecimal 2 byte.toNat).isSurrogateFree c inByte

theorem isSurrogateFree_capitalized {word : Text} (free : word.IsSurrogateFree) :
    (capitalized word).IsSurrogateFree := by
  have upper : ∀ c : CodePoint, c.isSurrogate = false → c.toUpper.isSurrogate = false := by
    intro c isFree
    unfold CodePoint.toUpper
    split
    · rename_i small
      have range := CodePoint.within_eq_true_iff.1 small
      exact CodePoint.within_eq_false_iff.2 (.inl (by simp only; omega))
    · exact isFree
  have lower : ∀ c : CodePoint, c.isSurrogate = false → c.toLower.isSurrogate = false := by
    intro c isFree
    unfold CodePoint.toLower
    split
    · rename_i large
      have range := CodePoint.within_eq_true_iff.1 large
      exact CodePoint.within_eq_false_iff.2 (.inl (by simp only; omega))
    · exact isFree
  cases word with
  | nil => exact free
  | cons first rest =>
      refine List.forall_mem_cons.2 ⟨upper first (free first (List.mem_cons_self ..)), ?_⟩
      intro c member
      obtain ⟨source, isSource, equal⟩ := List.mem_map.1 member
      rw [← equal]
      exact lower source (free source (List.mem_cons_of_mem _ isSource))

/-- The readable name of a rule is made of letters and digits. -/
theorem isSurrogateFree_displayName (ruleId : Text) : (displayName ruleId).IsSurrogateFree := by
  have blanked : (blankSeparators ruleId).IsSurrogateFree := by
    intro c member
    obtain ⟨source, _, equal⟩ := List.mem_map.1 member
    rw [← equal]
    split
    · rename_i alphanumeric
      simp only [CodePoint.isAlphanumeric, Bool.or_eq_true] at alphanumeric
      rcases alphanumeric with (digit | large) | small
      · have range := CodePoint.within_eq_true_iff.1 digit
        exact CodePoint.within_eq_false_iff.2 (.inl (by omega))
      · have range := CodePoint.within_eq_true_iff.1 large
        exact CodePoint.within_eq_false_iff.2 (.inl (by omega))
      · have range := CodePoint.within_eq_true_iff.1 small
        exact CodePoint.within_eq_false_iff.2 (.inl (by omega))
    · exact CodePoint.isSurrogate_ofChar ' '
  intro c member
  obtain ⟨word, isWord, inWord⟩ := List.mem_flatMap.1 member
  have inside := Text.infix_of_mem_splitOn (List.mem_filter.1 isWord).1
  exact isSurrogateFree_capitalized (fun other inPart => blanked other (inside.subset inPart)) c
    inWord

/-! ## Parts of a log -/

theorem isJoined_fingerprintsOf {options : Options} {message : Message} {uri : Text}
    {made : Option Fingerprints} (isMade : Draft.fingerprintsOf options message uri = .ok made) :
    ∀ prints ∈ made, prints.IsJoined := by
  unfold Draft.fingerprintsOf at isMade
  split at isMade
  · obtain ⟨ofMessage, isOfMessage, isMade⟩ := bind_eq_ok_iff.1 isMade
    obtain ⟨ofUri, isOfUri, isMade⟩ := bind_eq_ok_iff.1 isMade
    cases isMade
    intro prints isPrints
    cases isPrints
    exact {
      message := isJoined_of_fingerprint isOfMessage
      artifactUri := isJoined_of_fingerprint isOfUri
      ruleId := fun ruleId isRuleId => by cases isRuleId }
  · cases isMade
    exact fun prints isPrints => by cases isPrints

theorem isJoined_withRuleFingerprint {ruleId : Text} {before made : Option Fingerprints}
    (joined : ∀ prints ∈ before, prints.IsJoined)
    (isMade : Draft.withRuleFingerprint ruleId before = .ok made) :
    ∀ prints ∈ made, prints.IsJoined := by
  cases before with
  | none =>
      cases isMade
      exact joined
  | some prints =>
      obtain ⟨ofRule, isOfRule, isMade⟩ := bind_eq_ok_iff.1 isMade
      cases isMade
      intro extended isExtended
      cases isExtended
      exact {
        message := (joined prints rfl).message
        artifactUri := (joined prints rfl).artifactUri
        ruleId := fun ruleId isRuleId => by
          cases isRuleId
          exact isJoined_of_fingerprint isOfRule }

theorem isJoined_findingOf {uri : Text} (uriJoined : uri.IsJoined) (index : Nat)
    {made : Option Fingerprints} (printsJoined : ∀ prints ∈ made, prints.IsJoined)
    {message : Message} (joined : message.IsJoined) :
    (findingOf uri index made message).IsJoined where
  text := joined.text
  uri := uriJoined
  snippet := by
    have snippetJoined : ∀ snippet ∈ snippetOf message, snippet.IsJoined :=
      fun snippet isSnippet => joined.source snippet (Option.filter_eq_some_iff.1 isSnippet).1
    intro region isRegion
    unfold findingOf regionOf at isRegion
    simp only at isRegion
    split at isRegion
    · cases isRegion
      exact snippetJoined
    · obtain ⟨snippet, isSnippet, equal⟩ := Option.map_eq_some_iff.1 isRegion
      rw [← equal]
      intro other isOther
      cases isOther
      exact snippetJoined snippet isSnippet
  fingerprints := printsJoined

theorem isJoined_getD {text : Option Text} (joined : ∀ value ∈ text, value.IsJoined) {other : Text}
    (otherJoined : other.IsJoined) : (text.getD other).IsJoined := by
  cases text with
  | none => exact otherJoined
  | some value => exact joined value rfl

theorem isJoined_suppressionOf {message : Message} (joined : message.IsJoined) :
    ∀ suppression ∈ message.suppressions.getD [],
      (suppressionOf suppression).justification.IsJoined := by
  intro suppression isSuppression
  cases told : message.suppressions with
  | none =>
      rw [told] at isSuppression
      cases isSuppression
  | some suppressions =>
      rw [told] at isSuppression
      exact isJoined_getD
        (joined.suppressions suppressions told suppression isSuppression).justification
        Text.isJoined_nil

/-- The texts in an entry hold no unjoined surrogate pair. -/
def Entry.IsJoined : Entry → Prop
  | .result reported => reported.IsJoined
  | .notification finding => finding.IsJoined

theorem isJoined_entryOf {options : Options} {tables : Tables} {emission : Emission} {entry : Entry}
    (pathJoined : emission.file.path.IsJoined) (joined : emission.message.IsJoined)
    (made : entryOf options tables emission = .ok entry) : entry.IsJoined := by
  have uriJoined : (emission.uri options).IsJoined := isJoined_relativeUri pathJoined _
  rcases entryAt_cases made with
    ⟨_, prints, isPrints, isEntry⟩ | ⟨ruleId, prints, named, isPrints, isEntry⟩
  · rw [isEntry]
    exact isJoined_findingOf uriJoined _ (isJoined_fingerprintsOf isPrints) joined
  · obtain ⟨before, isBefore, isPrints⟩ := bind_eq_ok_iff.1 isPrints
    rw [isEntry]
    exact {
      finding := isJoined_findingOf uriJoined _
        (isJoined_withRuleFingerprint (isJoined_fingerprintsOf isBefore) isPrints) joined
      ruleId := joined.ruleId ruleId ((properRuleId_eq_some_iff _ _).1 named).1
      suppressions := by
        intro suppressions isMerged suppression isSuppression
        split at isMerged
        · cases isMerged
          obtain ⟨source, isSource, equal⟩ := List.mem_map.1 isSuppression
          rw [← equal]
          exact isJoined_suppressionOf joined source isSource
        · cases isMerged }

/-! ## Rules -/

theorem isJoined_descriptorOf {ruleId : Text} (idJoined : ruleId.IsJoined) {known : RuleMeta}
    (joined : known.IsJoined) : (descriptorOf ruleId known).IsJoined := by
  unfold descriptorOf
  split
  · exact {
      id := idJoined
      name := Text.isJoined_ofString _
      helpUri := fun helpUri isHelpUri => by cases isHelpUri
      description := Text.isJoined_ofString _
      category := Text.isJoined_ofString _ }
  · rename_i docs isDocs
    have docsJoined := joined.docs docs isDocs
    exact {
      id := idJoined
      name := (isSurrogateFree_displayName ruleId).isJoined
      helpUri := fun helpUri isHelpUri =>
        docsJoined.url helpUri (Option.filter_eq_some_iff.1 isHelpUri).1
      description := isJoined_getD docsJoined.description Text.isJoined_nil
      category := isJoined_getD (fun category isCategory =>
        docsJoined.category category (Option.filter_eq_some_iff.1 isCategory).1)
        (Text.isJoined_ofString _) }

theorem isJoined_meta? {rules : RuleTable}
    (joined : ∀ entry ∈ rules, ∀ known ∈ entry.2, known.IsJoined) (ruleId : Text) :
    ∀ known ∈ rules.meta? ruleId, known.IsJoined := by
  intro known isKnown
  cases found : Entries.find? ruleId rules with
  | none =>
      rw [RuleTable.meta?, found] at isKnown
      cases isKnown
  | some listed =>
      rw [RuleTable.meta?, found] at isKnown
      exact joined _ (Entries.mem_of_find? found) known isKnown

theorem isJoined_describe {rules : RuleTable}
    (joined : ∀ entry ∈ rules, ∀ known ∈ entry.2, known.IsJoined) {ruleId : Text}
    (idJoined : ruleId.IsJoined) : (describe rules ruleId).IsJoined := by
  refine isJoined_descriptorOf idJoined ?_
  cases known : rules.meta? ruleId with
  | none =>
      exact {
        docs := fun docs isDocs => by cases isDocs
        kind := fun kind isKind => by cases isKind }
  | some described => exact isJoined_meta? joined ruleId described known

theorem ruleId_of_listedRule? {options : Options} {rules : RuleTable} {emission : Emission}
    {ruleId : Text} (listed : emission.listedRule? options rules = some ruleId) :
    emission.message.ruleId = some ruleId := by
  unfold Emission.listedRule? at listed
  split at listed
  · exact ((properRuleId_eq_some_iff _ _).1 (Option.filter_eq_some_iff.1 listed).1).1
  · cases listed

/-! ## The log of a report -/

theorem mem_takenMessages {options : Options} {file : FileResult} {message : Message}
    (taken : message ∈ takenMessages options file) :
    message ∈ file.messages ∨ message ∈ file.suppressedMessages := by
  unfold takenMessages at taken
  rcases List.mem_append.1 taken with isMessage | isSuppressed
  · exact .inl isMessage
  · split at isSuppressed
    · cases isSuppressed
    · exact .inr isSuppressed

theorem isJoined_emissions {options : Options} {files : List FileResult}
    (joined : ∀ file ∈ files, file.IsJoined) :
    ∀ emission ∈ emissions options files,
      emission.file.path.IsJoined ∧ emission.message.IsJoined := by
  intro emission isEmitted
  obtain ⟨file, isFile, inFile⟩ := List.mem_flatMap.1 isEmitted
  obtain ⟨message, isTaken, equal⟩ := List.mem_map.1 inFile
  have fileJoined := joined file isFile
  rw [← equal]
  refine ⟨fileJoined.path, ?_⟩
  rcases mem_takenMessages isTaken with isMessage | isSuppressed
  · exact fileJoined.messages message isMessage
  · exact fileJoined.suppressedMessages message isSuppressed

/-- **The log of a joined report is joined**, if what the options put into it is. -/
theorem isJoined_ofReport {options : Options} (optionsJoined : options.IsJoined) {report : Report}
    (joined : report.IsJoined) {log : Log} (built : Log.ofReport options report = .ok log) :
    log.IsJoined := by
  obtain ⟨entries, made, isLog⟩ := ofResults_eq_ok_iff.1 built
  have emissionsJoined : ∀ emission ∈ emissions options report.results,
      emission.file.path.IsJoined ∧ emission.message.IsJoined := isJoined_emissions joined.results
  have entriesJoined : ∀ entry ∈ entries, entry.IsJoined := by
    intro entry isEntry
    obtain ⟨emission, isEmitted, isMade⟩ := exists_of_forall₂_right made isEntry
    obtain ⟨pathJoined, messageJoined⟩ := emissionsJoined emission isEmitted
    exact isJoined_entryOf pathJoined messageJoined isMade
  rw [← isLog]
  refine {
    driver := {
      name := optionsJoined.toolName
      version := optionsJoined.toolVersion
      informationUri := optionsJoined.informationUri
      rules := ?rules }
    artifacts := ?artifacts
    results := ?results
    notifications := ?notifications }
  case rules =>
    intro rule isRule
    obtain ⟨ruleId, isListed, equal⟩ := List.mem_map.1 isRule
    obtain ⟨emission, isEmitted, isRuleId⟩ := List.mem_filterMap.1 (List.mem_eraseDups.1 isListed)
    rw [← equal]
    exact isJoined_describe joined.rules
      ((emissionsJoined emission isEmitted).2.ruleId ruleId (ruleId_of_listedRule? isRuleId))
  case artifacts =>
    intro artifact isArtifact
    obtain ⟨uri, isListed, equal⟩ := List.mem_map.1 isArtifact
    obtain ⟨emission, isEmitted, isUri⟩ := List.mem_map.1 (List.mem_eraseDups.1 isListed)
    rw [← equal, ← isUri]
    exact isJoined_relativeUri (emissionsJoined emission isEmitted).1 _
  case results =>
    intro result isResult
    exact entriesJoined (.result result) (mem_filterMap_result?.1 isResult)
  case notifications =>
    intro notification isNotification
    exact entriesJoined (.notification notification)
      (mem_filterMap_notification?.1 isNotification)

end Findings.Sarif
