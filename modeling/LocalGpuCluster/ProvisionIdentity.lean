/-
This file proves when every host that `render_provisioning` does not withhold has files of its own.
The kickstarts are keyed by the name of the host and the boot configurations by its MAC address, and
nothing looks for two hosts that share one: the later host then overwrites the files of the earlier
one without a finding.
-/

import LocalGpuCluster.ProvisionHost

namespace LocalGpuCluster

namespace VcfSpec

/-! ### What every host is given -/

/-- A value that must be a public key can be written, and holds no private key. -/
def publicKeyReadable (runtime : Runtime) (value : Value) : Prop :=
  value.isAbsent = false → value.tooLong = false ∧
    holdsPrivateKey (Text.strip CodePoint.isSpace (runtime.toBuiltins.str value)) = false

/-- What is written for every host can be written. -/
structure SiteWritable (runtime : Runtime) (inventory : Mapping) : Prop where
  subdomain : ((inventory.get "dns").asMapping.getOr "subdomain" (.str [])).tooLong = false
  nameservers : ∀ value ∈ ((inventory.get "dns").asMapping.get "nameservers").asSequence,
    value.tooLong = false
  ntp : ∀ value ∈ ((inventory.get "ntp").asMapping.get "servers").asSequence, value.tooLong = false
  hostWorkarounds : ∀ value ∈
    ((inventory.get "provisioning").asMapping.get "hostWorkarounds").asSequence,
    value.tooLong = false
  sshPublicKey : publicKeyReadable runtime
    ((inventory.get "provisioning").asMapping.get "sshPublicKey")
  vlan : ∀ vlan ∈ taggedVlan inventory, Scalar.tooLong (.int vlan) = false

theorem returns_sshPublicKeyOf {runtime : Runtime} {prov : Mapping} :
    (sshPublicKeyOf runtime prov).Returns ↔ publicKeyReadable runtime (prov.get "sshPublicKey") := by
  unfold sshPublicKeyOf publicKeyReadable
  dsimp only
  cases absent : (prov.get "sshPublicKey").isAbsent with
  | true => exact iff_of_true ⟨_, rfl⟩ fun isFalse => by cases isFalse
  | false =>
    rw [if_neg Bool.false_ne_true, Runtime.returns_bind_str, forall_prop_of_true rfl]
    refine and_congr_right fun _ => ?_
    generalize Text.strip CodePoint.isSpace (runtime.toBuiltins.str (prov.get "sshPublicKey")) = key
    cases holdsPrivateKey key with
    | true => exact iff_of_false (fun ⟨_, same⟩ => by cases same) (by decide)
    | false =>
      rw [if_neg Bool.false_ne_true]
      split <;> exact iff_of_true ⟨_, rfl⟩ rfl

theorem returns_vlanOption {runtime : Runtime} {option : String} {vlan : Option ℤ} :
    (vlanOption runtime option vlan).Returns ↔ ∀ tag ∈ vlan, Scalar.tooLong (.int tag) = false := by
  cases vlan with
  | none => exact iff_of_true ⟨_, rfl⟩ fun _ member => by cases member
  | some vlan =>
    unfold vlanOption
    rw [Runtime.returns_bind_str]
    constructor
    · rintro ⟨short, _⟩ _ ⟨rfl⟩
      exact short
    · exact fun short => ⟨short vlan rfl, _, rfl⟩

theorem returns_siteOf {runtime : Runtime} {inventory : Mapping} {esxBootCfg : Option Text}
    {checked : Checked} :
    (siteOf runtime inventory esxBootCfg checked).Returns ↔ SiteWritable runtime inventory := by
  unfold siteOf
  rw [Runtime.returns_bind_str, Runtime.returns_bind_strs, Runtime.returns_bind_strs,
    Runtime.returns_bind_strs, Run.returns_bind]
  constructor
  · rintro ⟨subdomain, nameservers, ntp, hostWorkarounds, key, isKey, rest⟩
    obtain ⟨vlanOpt, isVlanOpt, _⟩ := Run.returns_bind.mp rest
    exact ⟨subdomain, nameservers, ntp, hostWorkarounds, returns_sshPublicKeyOf.mp ⟨key, isKey⟩,
      returns_vlanOption.mp ⟨vlanOpt, isVlanOpt⟩⟩
  · rintro ⟨subdomain, nameservers, ntp, hostWorkarounds, sshPublicKey, vlan⟩
    obtain ⟨key, isKey⟩ := returns_sshPublicKeyOf.mpr sshPublicKey
    obtain ⟨vlanOpt, isVlanOpt⟩ := returns_vlanOption.mpr vlan
    obtain ⟨vlanBoot, isVlanBoot⟩ := returns_vlanOption.mpr vlan
    exact ⟨subdomain, nameservers, ntp, hostWorkarounds, key, isKey,
      Run.returns_bind.mpr ⟨vlanOpt, isVlanOpt, Run.returns_bind.mpr ⟨vlanBoot, isVlanBoot, _, rfl⟩⟩⟩

/-- What every host is given is read off the inventory, and no finding about it withholds a host. -/
theorem siteOf_eq_ok {runtime : Runtime} {inventory : Mapping} {esxBootCfg : Option Text}
    {checked : Checked} {site : Site} {findings : List Finding}
    (made : siteOf runtime inventory esxBootCfg checked = .ok (site, findings)) :
    SiteReads runtime inventory site ∧ ∀ finding ∈ findings, isWithholding finding = false := by
  unfold siteOf at made
  obtain ⟨subdomain, _, made⟩ := Run.bind_eq_ok.mp made
  obtain ⟨nameservers, _, made⟩ := Run.bind_eq_ok.mp made
  obtain ⟨ntp, _, made⟩ := Run.bind_eq_ok.mp made
  obtain ⟨hostWorkarounds, isHostWorkarounds, made⟩ := Run.bind_eq_ok.mp made
  obtain ⟨key, _, made⟩ := Run.bind_eq_ok.mp made
  obtain ⟨vlanOpt, _, made⟩ := Run.bind_eq_ok.mp made
  obtain ⟨vlanBoot, _, made⟩ := Run.bind_eq_ok.mp made
  cases made
  refine ⟨⟨rfl, rfl, (Runtime.strs_eq_ok.mp isHostWorkarounds).2.symm⟩, fun finding member => ?_⟩
  obtain aboutKey | aboutBootCfg := List.mem_append.mp member
  · split at aboutKey
    · rw [List.mem_singleton.mp aboutKey]
      show withholdingCodes.contains (text "VCF-PROV-SSH-KEY-NOT-PUBLIC") = false
      decide
    · exact absurd aboutKey List.not_mem_nil
  · split at aboutBootCfg
    · rw [List.mem_singleton.mp aboutBootCfg]
      show withholdingCodes.contains (text "VCF-PROV-NO-ESX-BOOT-CFG") = false
      decide
    · exact absurd aboutBootCfg List.not_mem_nil

/-! ### The loop -/

theorem returns_provisionHosts {runtime : Runtime} {inventory : Mapping} {site : Site}
    (reads : SiteReads runtime inventory site) {esxBootCfg : Option Text} {start : ℕ}
    {hosts : List Value} {rendered : Rendered} :
    (provisionHosts runtime site esxBootCfg start hosts rendered).Returns ↔
      ∀ host ∈ hosts, HostWritable runtime host.asMapping inventory := by
  induction hosts generalizing start rendered with
  | nil => exact iff_of_true ⟨_, rfl⟩ fun _ member => absurd member List.not_mem_nil
  | cons host rest inductionHypothesis =>
    unfold provisionHosts
    rw [Run.returns_bind, List.forall_mem_cons]
    constructor
    · rintro ⟨result, made, further⟩
      exact ⟨(returns_provisionHost reads).mp ⟨result, made⟩, inductionHypothesis.mp further⟩
    · rintro ⟨writable, further⟩
      obtain ⟨result, made⟩ := (returns_provisionHost reads).mpr writable
      exact ⟨result, made, inductionHypothesis.mpr further⟩

/-- Each host is looked at once, and its result added. -/
theorem provisionHosts_results {runtime : Runtime} {site : Site} {esxBootCfg : Option Text}
    {start : ℕ} {hosts : List Value} {rendered final : Rendered}
    (made : provisionHosts runtime site esxBootCfg start hosts rendered = .ok final) :
    ∃ results, List.Forall₂ (fun entry result =>
        provisionHost runtime site esxBootCfg entry.2 entry.1 = .ok result)
      (hosts.zipIdx start) results ∧ results.foldl Rendered.add rendered = final := by
  induction hosts generalizing start rendered with
  | nil => exact ⟨[], .nil, Except.ok.inj made⟩
  | cons host rest inductionHypothesis =>
    unfold provisionHosts at made
    obtain ⟨result, isResult, made⟩ := Run.bind_eq_ok.mp made
    obtain ⟨results, each, same⟩ := inductionHypothesis made
    exact ⟨result :: results, .cons isResult each, same⟩

/-- The kickstart a result adds. -/
def HostResult.kickstarts (result : HostResult) : List (Text × Text) :=
  result.artifacts.toList.map fun files => (files.kickstartName, files.kickstart)

/-- The boot configuration a result adds. -/
def HostResult.bootConfigs (result : HostResult) : List (Text × Text) :=
  result.artifacts.toList.filterMap fun files => files.bootConfig

/-- The results of all hosts are added in their order. -/
theorem foldl_add (results : List HostResult) (rendered : Rendered) :
    results.foldl Rendered.add rendered =
      { findings := rendered.findings ++ results.flatMap HostResult.findings
        kickstarts := Dictionary.fill rendered.kickstarts (results.flatMap HostResult.kickstarts)
        bootConfigs := Dictionary.fill rendered.bootConfigs
          (results.flatMap HostResult.bootConfigs) } := by
  induction results generalizing rendered with
  | nil => simp [Dictionary.fill]
  | cons result rest inductionHypothesis =>
    rw [List.foldl_cons, inductionHypothesis]
    simp only [Rendered.add, List.flatMap_cons, Dictionary.fill, List.foldl_append,
      List.append_assoc, HostResult.kickstarts, HostResult.bootConfigs]

/-! ### Hosts and their files -/

/-- The hosts of an inventory with their indices. -/
abbrev Entry := Value × ℕ

/-- Nothing withholds the host of an entry. -/
def Entry.installable (runtime : Runtime) (entry : Entry) : Bool :=
  VcfSpec.installable runtime entry.1.asMapping

abbrev Outcomes (runtime : Runtime) : List Entry → List HostResult → Prop :=
  List.Forall₂ fun entry result => HostOutcome runtime entry.2 entry.1.asMapping result

/-- The hosts that are not withheld give the keys of the kickstarts. -/
theorem keys_kickstarts {runtime : Runtime} {entries : List Entry} {results : List HostResult}
    (outcomes : Outcomes runtime entries results) :
    (results.flatMap HostResult.kickstarts).map Prod.fst =
      (entries.filter (Entry.installable runtime)).map fun entry =>
        kickstartName (hostName runtime entry.1.asMapping) := by
  induction outcomes with
  | nil => rfl
  | @cons entry result entries results outcome _ inductionHypothesis =>
    rw [List.flatMap_cons, List.map_append, inductionHypothesis, List.filter_cons]
    cases included : entry.installable runtime with
    | true =>
      obtain ⟨_, kickstart, bootConfig, files, _⟩ := outcome.emitted included
      rw [HostResult.kickstarts, files]
      rfl
    | false =>
      rw [HostResult.kickstarts, (outcome.withheld included).1]
      rfl

theorem keys_bootConfigs {runtime : Runtime} {entries : List Entry} {results : List HostResult}
    (outcomes : Outcomes runtime entries results) :
    (results.flatMap HostResult.bootConfigs).map Prod.fst =
      (entries.filter (Entry.installable runtime)).map fun entry =>
        bootConfigPath (hostMac runtime entry.1.asMapping) := by
  induction outcomes with
  | nil => rfl
  | @cons entry result entries results outcome _ inductionHypothesis =>
    rw [List.flatMap_cons, List.map_append, inductionHypothesis, List.filter_cons]
    cases included : entry.installable runtime with
    | true =>
      obtain ⟨_, kickstart, bootConfig, files, _⟩ := outcome.emitted included
      rw [HostResult.bootConfigs, files]
      rfl
    | false =>
      rw [HostResult.bootConfigs, (outcome.withheld included).1]
      rfl

/-- A host that is not withheld adds files that carry its name and addresses. -/
theorem files_of_installable {runtime : Runtime} {entries : List Entry} {results : List HostResult}
    (outcomes : Outcomes runtime entries results) {entry : Entry} (member : entry ∈ entries)
    (included : entry.installable runtime = true) :
    ∃ kickstart bootConfig,
      (kickstartName (hostName runtime entry.1.asMapping), kickstart) ∈
        results.flatMap HostResult.kickstarts ∧
      (bootConfigPath (hostMac runtime entry.1.asMapping), bootConfig) ∈
        results.flatMap HostResult.bootConfigs ∧
      Carries runtime entry.1.asMapping kickstart bootConfig := by
  obtain ⟨result, inResults, outcome⟩ := Matching.exists_right outcomes member
  obtain ⟨_, kickstart, bootConfig, files, carries⟩ := outcome.emitted included
  exact ⟨kickstart, bootConfig,
    List.mem_flatMap.mpr ⟨result, inResults, by rw [HostResult.kickstarts, files]; simp⟩,
    List.mem_flatMap.mpr ⟨result, inResults, by rw [HostResult.bootConfigs, files]; simp⟩, carries⟩

/-! ### Hosts and their findings -/

/-- The findings withhold the host with the index. -/
def isWithheld (findings : List Finding) (index : ℕ) : Bool :=
  findings.any fun finding => isWithholding finding && isAbout index finding

/-- A finding is about one host. -/
theorem isAbout_unique {first second : ℕ} {finding : Finding} (aboutFirst : isAbout first finding = true)
    (aboutSecond : isAbout second finding = true) : first = second := by
  have ending {index : ℕ} (about : isAbout index finding = true) :
      ∃ rest, finding.path = text "/hosts/" ++ (decimal (index : ℕ) ++ rest) ∧
        (rest = [] ∨ ∃ more, rest = slash :: more) := by
    unfold isAbout at about
    obtain same | below := (Bool.or_eq_true ..).mp about
    · exact ⟨[], by rw [List.append_nil]; exact of_decide_eq_true same, Or.inl rfl⟩
    · obtain ⟨more, same⟩ := List.isPrefixOf_iff_prefix.mp below
      refine ⟨slash :: more, ?_, Or.inr ⟨more, rfl⟩⟩
      rw [← same, hostPath, List.append_assoc, List.append_assoc]
      rfl
  have noSlash (index : ℕ) : slash ∉ decimal (index : ℕ) := fun member =>
    absurd (isDigit_of_mem_decimal member).1 (by decide)
  obtain ⟨restFirst, pathFirst, endFirst⟩ := ending aboutFirst
  obtain ⟨restSecond, pathSecond, endSecond⟩ := ending aboutSecond
  have same := List.append_cancel_left (pathFirst.symm.trans pathSecond)
  exact decimal_natCast_injective (append_slash_inj (noSlash _) (noSlash _) endFirst endSecond same).1

theorem entry_eq_of_index {hosts : List Value} {first second : Entry} (inFirst : first ∈ hosts.zipIdx)
    (inSecond : second ∈ hosts.zipIdx) (same : first.2 = second.2) : first = second := by
  have atFirst : hosts[first.2]? = some first.1 := List.mem_zipIdx_iff_getElem?.mp inFirst
  have atSecond : hosts[second.2]? = some second.1 := List.mem_zipIdx_iff_getElem?.mp inSecond
  exact Prod.ext (Option.some.inj (atFirst.symm.trans (same ▸ atSecond))) same

/-- The findings withhold exactly the hosts that are not installable. -/
theorem isWithheld_eq {runtime : Runtime} {hosts : List Value} {results : List HostResult}
    {earlier : List Finding} (outcomes : Outcomes runtime hosts.zipIdx results)
    (harmless : ∀ finding ∈ earlier, isWithholding finding = false) {entry : Entry}
    (member : entry ∈ hosts.zipIdx) :
    isWithheld (earlier ++ results.flatMap HostResult.findings) entry.2 =
      !entry.installable runtime := by
  cases included : entry.installable runtime with
  | false =>
    obtain ⟨result, inResults, outcome⟩ := Matching.exists_right outcomes member
    obtain ⟨_, finding, made, withholds⟩ := outcome.withheld included
    refine List.any_eq_true.mpr ⟨finding,
      List.mem_append_right _ (List.mem_flatMap.mpr ⟨result, inResults, made⟩), ?_⟩
    rw [withholds, outcome.about finding made]
    rfl
  | true =>
    refine List.any_eq_false.mpr fun finding made both => ?_
    obtain ⟨withholds, about⟩ := (Bool.and_eq_true ..).mp both
    obtain inEarlier | inResults := List.mem_append.mp made
    · rw [harmless finding inEarlier] at withholds
      cases withholds
    · obtain ⟨result, isResult, inResult⟩ := List.mem_flatMap.mp inResults
      obtain ⟨other, inEntries, outcome⟩ := Matching.exists_left outcomes isResult
      have indices := isAbout_unique (outcome.about finding inResult) about
      rw [entry_eq_of_index inEntries member indices] at outcome
      rw [(outcome.emitted included).1 finding inResult] at withholds
      cases withholds

/-! ### One host, one artifact -/

def hostsOf (inventory : Mapping) : List Value := (inventory.get "hosts").asSequence

/-- The hosts that no finding withholds. -/
def emittedEntries (hosts : List Value) (findings : List Finding) : List Entry :=
  hosts.zipIdx.filter fun entry => !isWithheld findings entry.2

/-- Every host is withheld by a finding at its path or has a kickstart and a boot configuration of its
own, which carry its name and addresses; there are no other files. -/
def OneArtifactEach (runtime : Runtime) (hosts : List Value) (artifacts : ProvisioningArtifacts) :
    Prop :=
  ∃ kickstartKey bootConfigKey : ℕ → Text,
    (∀ entry ∈ emittedEntries hosts artifacts.findings, ∃ kickstart bootConfig,
      artifacts.kickstarts.lookup (kickstartKey entry.2) = some kickstart ∧
      artifacts.bootConfigs.lookup (bootConfigKey entry.2) = some bootConfig ∧
      Carries runtime entry.1.asMapping kickstart bootConfig) ∧
    ((emittedEntries hosts artifacts.findings).map fun entry => kickstartKey entry.2).Nodup ∧
    ((emittedEntries hosts artifacts.findings).map fun entry => bootConfigKey entry.2).Nodup ∧
    artifacts.kickstarts.length = (emittedEntries hosts artifacts.findings).length ∧
    artifacts.bootConfigs.length = (emittedEntries hosts artifacts.findings).length

/-- The hosts that nothing withholds, read off the inventory. -/
def installableHosts (runtime : Runtime) (inventory : Mapping) : List Mapping :=
  ((hostsOf inventory).map Value.asMapping).filter (installable runtime)

theorem installableHosts_eq (runtime : Runtime) (inventory : Mapping) :
    installableHosts runtime inventory =
      ((hostsOf inventory).zipIdx.filter (Entry.installable runtime)).map fun entry =>
        entry.1.asMapping := by
  have indexed : (hostsOf inventory).map Value.asMapping =
      (hostsOf inventory).zipIdx.map fun entry => entry.1.asMapping := by
    conv_lhs => rw [← List.zipIdx_map_fst 0 (hostsOf inventory), List.map_map]
    rfl
  rw [installableHosts, indexed, List.filter_map]
  rfl

theorem kickstartName_injective : Function.Injective kickstartName := by
  intro first second same
  exact List.append_cancel_left (List.append_cancel_right same)

theorem bootConfigPath_injective :
    Function.Injective fun address => text "01-" ++ address ++ text "/boot.cfg" := by
  intro first second same
  exact List.append_cancel_left (List.append_cancel_right same)

/-- The key that a host gives to an entry of the document. -/
def keyAt (inventory : Mapping) (key : Mapping → Text) (index : ℕ) : Text :=
  (((hostsOf inventory)[index]?).map fun host => key host.asMapping).getD []

theorem keyAt_eq {inventory : Mapping} {key : Mapping → Text} {entry : Entry}
    (member : entry ∈ (hostsOf inventory).zipIdx) :
    keyAt inventory key entry.2 = key entry.1.asMapping := by
  have found : (hostsOf inventory)[entry.2]? = some entry.1 := List.mem_zipIdx_iff_getElem?.mp member
  rw [keyAt, found]
  rfl

/-- The call returns when everything that it writes can be written. -/
theorem returns_renderProvisioning {runtime : Runtime} {inventory : Mapping} {esxBootCfg : Option Text}
    {checked : Checked} (passes : documentChecks runtime inventory = .ok (.inr checked)) :
    (renderProvisioning runtime inventory esxBootCfg).Returns ↔
      SiteWritable runtime inventory ∧
        ∀ host ∈ hostsOf inventory, HostWritable runtime host.asMapping inventory := by
  rw [renderProvisioning_of_passes passes, renderChecked, Run.returns_bind]
  constructor
  · rintro ⟨⟨site, findings⟩, isSite, further⟩
    obtain ⟨rendered, isRendered, _⟩ := Run.returns_bind.mp further
    exact ⟨returns_siteOf.mp ⟨_, isSite⟩,
      (returns_provisionHosts (siteOf_eq_ok isSite).1).mp ⟨rendered, isRendered⟩⟩
  · rintro ⟨siteWritable, writable⟩
    obtain ⟨⟨site, findings⟩, isSite⟩ := returns_siteOf.mpr siteWritable
    obtain ⟨rendered, isRendered⟩ :=
      (returns_provisionHosts (siteOf_eq_ok isSite).1).mpr writable
    exact ⟨_, isSite, Run.returns_bind.mpr ⟨rendered, isRendered, _, rfl⟩⟩

/-- The document is rendered host by host, after what every host is given. -/
theorem renderProvisioning_results {runtime : Runtime} {inventory : Mapping}
    {esxBootCfg : Option Text} {checked : Checked}
    (passes : documentChecks runtime inventory = .ok (.inr checked)) {artifacts : ProvisioningArtifacts}
    (made : renderProvisioning runtime inventory esxBootCfg = .ok artifacts) :
    ∃ site findings results, siteOf runtime inventory esxBootCfg checked = .ok (site, findings) ∧
      List.Forall₂ (fun entry result =>
          provisionHost runtime site esxBootCfg entry.2 entry.1 = .ok result)
        (hostsOf inventory).zipIdx results ∧
      artifacts.kickstarts = Dictionary.fill [] (results.flatMap HostResult.kickstarts) ∧
      artifacts.bootConfigs = Dictionary.fill [] (results.flatMap HostResult.bootConfigs) ∧
      artifacts.findings = findings ++ results.flatMap HostResult.findings := by
  rw [renderProvisioning_of_passes passes, renderChecked] at made
  obtain ⟨⟨site, findings⟩, isSite, made⟩ := Run.bind_eq_ok.mp made
  obtain ⟨rendered, isRendered, made⟩ := Run.bind_eq_ok.mp made
  obtain ⟨results, each, same⟩ := provisionHosts_results isRendered
  cases made
  rw [foldl_add] at same
  subst same
  exact ⟨site, findings, results, isSite, each, rfl, rfl, rfl⟩

/-- The files are those of the hosts that are not withheld, filled into the dictionaries in order. -/
theorem renderProvisioning_eq_ok {runtime : Runtime} {inventory : Mapping} {isoBootCfg : Text}
    {checked : Checked} (passes : documentChecks runtime inventory = .ok (.inr checked))
    {artifacts : ProvisioningArtifacts}
    (made : renderProvisioning runtime inventory (some isoBootCfg) = .ok artifacts) :
    ∃ results, Outcomes runtime (hostsOf inventory).zipIdx results ∧
      artifacts.kickstarts = Dictionary.fill [] (results.flatMap HostResult.kickstarts) ∧
      artifacts.bootConfigs = Dictionary.fill [] (results.flatMap HostResult.bootConfigs) ∧
      emittedEntries (hostsOf inventory) artifacts.findings =
        (hostsOf inventory).zipIdx.filter (Entry.installable runtime) := by
  obtain ⟨site, findings, results, isSite, each, kickstarts, bootConfigs, all⟩ :=
    renderProvisioning_results passes made
  have outcomes : Outcomes runtime (hostsOf inventory).zipIdx results :=
    each.imp fun _ _ => provisionHost_outcome
  refine ⟨results, outcomes, kickstarts, bootConfigs, List.filter_congr fun entry member => ?_⟩
  rw [all, isWithheld_eq outcomes (siteOf_eq_ok isSite).2 member, Bool.not_not]

/-- Filled dictionaries keep the files of all hosts exactly when the hosts differ in what the files
are keyed by. -/
theorem oneArtifactEach_of_outcomes {runtime : Runtime} {inventory : Mapping}
    {artifacts : ProvisioningArtifacts} {results : List HostResult}
    (outcomes : Outcomes runtime (hostsOf inventory).zipIdx results)
    (kickstarts : artifacts.kickstarts = Dictionary.fill [] (results.flatMap HostResult.kickstarts))
    (bootConfigs : artifacts.bootConfigs = Dictionary.fill [] (results.flatMap HostResult.bootConfigs))
    (emitted : emittedEntries (hostsOf inventory) artifacts.findings =
      (hostsOf inventory).zipIdx.filter (Entry.installable runtime)) :
    OneArtifactEach runtime (hostsOf inventory) artifacts ↔
      ((installableHosts runtime inventory).map (hostName runtime)).Nodup ∧
      ((installableHosts runtime inventory).map fun host => dashed (hostMac runtime host)).Nodup := by
  have kickstartKeys := keys_kickstarts outcomes
  have bootConfigKeys := keys_bootConfigs outcomes
  have kickstartCount := congrArg List.length kickstartKeys
  have bootConfigCount := congrArg List.length bootConfigKeys
  simp only [List.length_map] at kickstartCount bootConfigCount
  have names : ((results.flatMap HostResult.kickstarts).map Prod.fst).Nodup ↔
      ((installableHosts runtime inventory).map (hostName runtime)).Nodup := by
    have keys : (results.flatMap HostResult.kickstarts).map Prod.fst =
        ((installableHosts runtime inventory).map (hostName runtime)).map kickstartName := by
      rw [kickstartKeys, installableHosts_eq, List.map_map, List.map_map]
      rfl
    rw [keys, List.nodup_map_iff kickstartName_injective]
  have addresses : ((results.flatMap HostResult.bootConfigs).map Prod.fst).Nodup ↔
      ((installableHosts runtime inventory).map fun host => dashed (hostMac runtime host)).Nodup := by
    have keys : (results.flatMap HostResult.bootConfigs).map Prod.fst =
        ((installableHosts runtime inventory).map fun host => dashed (hostMac runtime host)).map
          fun address => text "01-" ++ address ++ text "/boot.cfg" := by
      rw [bootConfigKeys, installableHosts_eq, List.map_map, List.map_map]
      rfl
    rw [keys, List.nodup_map_iff bootConfigPath_injective]
  rw [← names, ← addresses]
  unfold OneArtifactEach
  rw [emitted, kickstarts, bootConfigs]
  constructor
  · rintro ⟨_, _, _, _, _, allKickstarts, allBootConfigs⟩
    exact ⟨(Dictionary.length_fill_eq_iff _).mp (allKickstarts.trans kickstartCount.symm),
      (Dictionary.length_fill_eq_iff _).mp (allBootConfigs.trans bootConfigCount.symm)⟩
  · rintro ⟨distinctKickstarts, distinctBootConfigs⟩
    rw [Dictionary.fill_of_nodup distinctKickstarts, Dictionary.fill_of_nodup distinctBootConfigs,
      List.nil_append, List.nil_append]
    refine ⟨keyAt inventory fun host => kickstartName (hostName runtime host),
      keyAt inventory fun host => bootConfigPath (hostMac runtime host), fun entry member => ?_, ?_, ?_,
      kickstartCount, bootConfigCount⟩
    · obtain ⟨inHosts, included⟩ := List.mem_filter.mp member
      rw [keyAt_eq inHosts, keyAt_eq inHosts]
      obtain ⟨kickstart, bootConfig, hasKickstart, hasBootConfig, carries⟩ :=
        files_of_installable outcomes inHosts included
      exact ⟨kickstart, bootConfig, Dictionary.lookup_of_mem distinctKickstarts hasKickstart,
        Dictionary.lookup_of_mem distinctBootConfigs hasBootConfig, carries⟩
    · rw [List.map_congr_left fun entry member => keyAt_eq (List.mem_of_mem_filter member),
        ← kickstartKeys]
      exact distinctKickstarts
    · rw [List.map_congr_left fun entry member => keyAt_eq (List.mem_of_mem_filter member),
        ← bootConfigKeys]
      exact distinctBootConfigs

/-- Every host has files of its own exactly when everything can be written, and the hosts that are
not withheld differ in their names and in their MAC addresses. -/
theorem oneArtifactEach_iff {runtime : Runtime} {inventory : Mapping} {isoBootCfg : Text}
    {checked : Checked} (passes : documentChecks runtime inventory = .ok (.inr checked)) :
    (∃ artifacts, renderProvisioning runtime inventory (some isoBootCfg) = .ok artifacts ∧
      OneArtifactEach runtime (hostsOf inventory) artifacts) ↔
    SiteWritable runtime inventory ∧
    (∀ host ∈ hostsOf inventory, HostWritable runtime host.asMapping inventory) ∧
    ((installableHosts runtime inventory).map (hostName runtime)).Nodup ∧
    ((installableHosts runtime inventory).map fun host => dashed (hostMac runtime host)).Nodup := by
  have returned : (renderProvisioning runtime inventory (some isoBootCfg)).Returns ↔
      SiteWritable runtime inventory ∧
        ∀ host ∈ hostsOf inventory, HostWritable runtime host.asMapping inventory :=
    returns_renderProvisioning passes
  rw [← and_assoc, ← returned, Run.Returns, ← exists_and_right]
  refine exists_congr fun artifacts => and_congr_right fun made => ?_
  obtain ⟨results, outcomes, kickstarts, bootConfigs, emitted⟩ := renderProvisioning_eq_ok passes made
  exact oneArtifactEach_of_outcomes outcomes kickstarts bootConfigs emitted

/-! ### Two hosts of one name -/

def labHost (name mac : String) : Value :=
  mapping [("name", .str (text name)), ("provisioningMac", .str (text mac)),
    ("bootDisk", .str (text "t10.NVMe")), ("mgmtIp", .str (text "10.0.0.2"))]

def labInventory (hosts : List Value) : Mapping :=
  (mapping [("provisioning", mapping [("bootServerUrl", .str (text "http://boot"))]),
    ("networks", mapping [("management", mapping [("subnet", .str (text "10.0.0.0/24")),
      ("gateway", .str (text "10.0.0.1"))])]),
    ("credentials", mapping [("esxRootHash", .str (text "$\x7bhash\x7d"))]),
    ("hosts", .list hosts)]).asMapping

/-- The inventory passes the checks of the whole document. -/
def passesChecks (runtime : Runtime) (inventory : Mapping) : Bool :=
  match documentChecks runtime inventory with
  | .ok (.inr _) => true
  | _ => false

theorem passes_of_passesChecks {runtime : Runtime} {inventory : Mapping}
    (passed : passesChecks runtime inventory = true) :
    ∃ checked, documentChecks runtime inventory = .ok (.inr checked) := by
  unfold passesChecks at passed
  split at passed
  · exact ⟨_, by assumption⟩
  · cases passed

/-- Two hosts with one name and different MAC addresses pass every check, and one kickstart is made. -/
theorem kickstart_overwritten :
    ∃ checked, documentChecks .simple (labInventory [labHost "esx01" "00:00:00:00:00:01",
        labHost "esx01" "00:00:00:00:00:02"]) = .ok (.inr checked) ∧
      ¬∃ artifacts, renderProvisioning .simple (labInventory [labHost "esx01" "00:00:00:00:00:01",
          labHost "esx01" "00:00:00:00:00:02"]) (some (text "modules=/b.b00")) = .ok artifacts ∧
        OneArtifactEach .simple [labHost "esx01" "00:00:00:00:00:01",
          labHost "esx01" "00:00:00:00:00:02"] artifacts := by
  obtain ⟨checked, passes⟩ : ∃ checked, documentChecks .simple (labInventory
      [labHost "esx01" "00:00:00:00:00:01", labHost "esx01" "00:00:00:00:00:02"]) =
        .ok (.inr checked) := passes_of_passesChecks (by decide)
  refine ⟨checked, passes, ?_⟩
  rintro ⟨artifacts, made, own⟩
  obtain ⟨results, outcomes, kickstarts, bootConfigs, emitted⟩ := renderProvisioning_eq_ok passes made
  have names := ((oneArtifactEach_of_outcomes outcomes kickstarts bootConfigs emitted).mp own).1
  exact absurd names (by decide)

/-- Two hosts with different names and MAC addresses have files of their own. -/
theorem two_hosts_provisioned :
    ∃ artifacts, renderProvisioning .simple (labInventory [labHost "esx01" "00:00:00:00:00:01",
        labHost "esx02" "00:00:00:00:00:02"]) (some (text "modules=/b.b00")) = .ok artifacts ∧
      OneArtifactEach .simple (hostsOf (labInventory [labHost "esx01" "00:00:00:00:00:01",
        labHost "esx02" "00:00:00:00:00:02"])) artifacts := by
  obtain ⟨checked, passes⟩ : ∃ checked, documentChecks .simple (labInventory
      [labHost "esx01" "00:00:00:00:00:01", labHost "esx02" "00:00:00:00:00:02"]) =
        .ok (.inr checked) := passes_of_passesChecks (by decide)
  refine (oneArtifactEach_iff passes).mpr ⟨?_, ?_, by decide, by decide⟩
  · exact {
      subdomain := by decide
      nameservers := by decide
      ntp := by decide
      hostWorkarounds := by decide
      sshPublicKey := fun present => absurd present (by decide)
      vlan := fun _ member => absurd member (by
        rw [show taggedVlan _ = none by decide]
        exact Option.not_mem_none _) }
  · have tiering : TieringComputes .simple [] :=
      ⟨_, rfl, fun positive => absurd (by decide) positive⟩
    show ∀ host ∈ [labHost "esx01" "00:00:00:00:00:01", labHost "esx02" "00:00:00:00:00:02"], _
    rw [List.forall_mem_cons, List.forall_mem_singleton]
    constructor <;> exact {
      mac := by decide
      bootDisk := by decide
      name := by decide
      devices := fun _ _ _ =>
        { vsanDevice := by decide
          memoryTieringDevice := by decide
          apart := fun _ => ⟨tiering, fun _ =>
            ⟨by decide +kernel, by decide +kernel, by decide +kernel, by decide +kernel⟩,
            by decide⟩ } }

end VcfSpec

end LocalGpuCluster
