/-
This file settles when `run_probes` returns. The answers of the resolver can be followed without what
is reported of them, and all that may raise on the way is the writing of an address that is refused and
of a reverse record. The reader is asked at the end, and what it yields is consumed with only
`TypeError` caught.
-/

import LocalGpuCluster.Interaction
import LocalGpuCluster.Probes

namespace LocalGpuCluster

namespace VcfSpec

open Interaction

/-! ### What is written -/

/-- What a probe writes into its findings that may raise. -/
inductive Mention where
  /-- The address of a host that is refused. -/
  | refused (mgmtIp : Value)
  /-- A reverse record, compared with the names it may give. -/
  | compared (fqdn : Text) (canonical reverse : Answer)

/-- Writing it does not raise. A record that gives one of the names is not reported. -/
def Mention.Writable (runtime : Runtime) (config : ProbeConfig) : Mention → Prop
  | .refused mgmtIp => mgmtIp.tooLong = false
  | .compared _ _ .none => True
  | .compared fqdn canonical reverse =>
      ∃ written, reverse.str = .ok written ∧
        (dnsName runtime written ∈ acceptedNames runtime config fqdn canonical ∨
          ∃ formatted, reverse.format = .ok formatted)

section Visits

variable {World : Type} (runtime : Runtime) (config : ProbeConfig) (seams : Seams World)

/-- What the resolver answers to a query, and the session after it. -/
def ask (query : Query) (session : Session World) : Answer × Session World :=
  ((seams.resolve query session.world).1.getD .none,
    ⟨(seams.resolve query session.world).2, session.touches ++ [.lookup query]⟩)

/-- The session after a connection. -/
def connected (host : Text) (session : Session World) : Session World :=
  ⟨(seams.connect host esxPort session.world).2, session.touches ++ [.connect host esxPort]⟩

/-- The canonical name in a forward answer. -/
def Answer.canonical : Answer → Answer
  | .pair canonical _ _ => canonical
  | _ => .none

/-- The canonical name of a host, if it may be looked up. -/
def visitForward (fqdn : Text) (session : Session World) : Answer × Session World :=
  if config.permitsName runtime fqdn then
    ((ask seams ⟨fqdn, false, true⟩ session).1.canonical, (ask seams ⟨fqdn, false, true⟩ session).2)
  else (.none, session)

def visitHost (subdomain : Value) (host : Mapping) (session : Session World) :
    List Mention × Session World :=
  if !config.permits (mgmtIpOf host) then ([.refused (mgmtIpOf host)], session)
  else
    match hostFqdn host subdomain with
    | none => ([], session)
    | some fqdn =>
        let forward := visitForward runtime config seams fqdn session
        let reverse := ask seams ⟨probeIpOf host, true, false⟩ forward.2
        ([.compared fqdn forward.1 reverse.1], connected seams (probeIpOf host) reverse.2)

def visitAppliance (appliance : Appliance) (session : Session World) : List Mention × Session World :=
  if !config.permitsName runtime appliance.fqdn then ([], session)
  else
    let forward := ask seams ⟨appliance.fqdn, false, true⟩ session
    match forward.1 with
    | .pair canonical (.text resolved) _ =>
        if Text.strip CodePoint.isSpace resolved = [] then ([], forward.2)
        else if !config.permits (.str resolved) then ([], forward.2)
        else
          let reverse := ask seams ⟨resolved, true, false⟩ forward.2
          ([.compared appliance.fqdn canonical reverse.1], reverse.2)
    | _ => ([], forward.2)

/-- The answers to the lookups of a document, in their order. -/
def visitHosts (inventory : Mapping) (session : Session World) : List Mention × Session World :=
  visits (fun entry => visitHost runtime config seams (subdomainOf inventory) entry.2)
    (probedHosts inventory) session

def visitAppliances (inventory : Mapping) (session : Session World) : List Mention × Session World :=
  visits (visitAppliance runtime config seams)
    (applianceTargets inventory (subdomainOf inventory)) session

/-! ### Hosts and appliances -/

variable {runtime config seams}

theorem ends_uncaught {Result : Type} {result : Except Exn Result} {session : Session World} :
    Ends (uncaught result : Probe World Result) session (∃ value, result = .ok value) session := by
  cases result with
  | ok value => exact (ends_pure value).congr (iff_of_true trivial ⟨value, rfl⟩)
  | error exn => exact (ends_throw _).congr (iff_of_false not_false fun ⟨_, same⟩ => by cases same)

/-- A reverse record is reported or not. -/
theorem reverseFindings_ok_iff {path ip fqdn : Text} {canonical reverse : Answer}
    (isRecord : reverse ≠ .none) :
    (∃ findings, reverseFindings runtime config path ip fqdn canonical reverse = .ok findings) ↔
      (Mention.compared fqdn canonical reverse).Writable runtime config := by
  have unfolded : (Mention.compared fqdn canonical reverse).Writable runtime config ↔
      ∃ written, reverse.str = .ok written ∧
        (dnsName runtime written ∈ acceptedNames runtime config fqdn canonical ∨
          ∃ formatted, reverse.format = .ok formatted) := by
    cases reverse with
    | none => exact absurd rfl isRecord
    | text content => rfl
    | pair first second writes => rfl
    | other writes => rfl
  rw [unfolded]
  unfold reverseFindings roundTrip
  cases reverse.str with
  | error exn => exact iff_of_false (fun ⟨_, same⟩ => by cases same) fun ⟨_, same, _⟩ => by cases same
  | ok written =>
    have only : (∃ found, Except.ok written = (Except.ok found : Except Exn Text) ∧
        (dnsName runtime found ∈ acceptedNames runtime config fqdn canonical ∨
          ∃ formatted, reverse.format = .ok formatted)) ↔
        (dnsName runtime written ∈ acceptedNames runtime config fqdn canonical ∨
          ∃ formatted, reverse.format = .ok formatted) :=
      ⟨fun ⟨_, same, holds⟩ => Except.ok.inj same ▸ holds, fun holds => ⟨written, rfl, holds⟩⟩
    rw [only, ← List.contains_iff_mem]
    show (∃ findings, (if (acceptedNames runtime config fqdn canonical).contains
      (dnsName runtime written) = true then _ else _) = Except.ok findings) ↔ _
    split
    · rename_i accepted
      exact iff_of_true ⟨[], rfl⟩ (.inl accepted)
    · rename_i refused
      rw [or_iff_right refused]
      cases reverse.format with
      | error exn =>
        exact iff_of_false (fun ⟨_, same⟩ => by cases same) fun ⟨_, same⟩ => by cases same
      | ok formatted => exact iff_of_true ⟨_, rfl⟩ ⟨formatted, rfl⟩

theorem lookup_eq (query : Query) (session : Session World) :
    lookup seams query session = (.ok (ask seams query session).1, (ask seams query session).2) :=
  rfl

/-- A forward lookup never fails. -/
theorem probeForward_eq (path fqdn probeIp : Text) (session : Session World) : ∃ findings,
    probeForward runtime config seams path fqdn probeIp session =
      (.ok ((visitForward runtime config seams fqdn session).1, findings),
        (visitForward runtime config seams fqdn session).2) := by
  unfold probeForward visitForward
  cases config.permitsName runtime fqdn with
  | false => exact ⟨_, rfl⟩
  | true =>
    rw [if_neg (by decide), if_pos rfl, run_bind, lookup_eq]
    generalize ask seams ⟨fqdn, false, true⟩ session = asked
    obtain ⟨answer, after⟩ := asked
    cases answer <;> exact ⟨_, rfl⟩

theorem ends_probeReverse {path fqdn probeIp : Text} {canonical : Answer} (session : Session World) :
    Ends (probeReverse runtime config seams path fqdn probeIp canonical) session
      ((Mention.compared fqdn canonical (ask seams ⟨probeIp, true, false⟩ session).1).Writable runtime
        config) (ask seams ⟨probeIp, true, false⟩ session).2 := by
  refine ends_bind_ok (lookup_eq _ session) ?_
  generalize ask seams ⟨probeIp, true, false⟩ session = asked
  obtain ⟨answer, after⟩ := asked
  cases answer with
  | none => exact ends_pure _
  | text content => exact ends_uncaught.congr (reverseFindings_ok_iff Answer.noConfusion)
  | pair first second writes => exact ends_uncaught.congr (reverseFindings_ok_iff Answer.noConfusion)
  | other writes => exact ends_uncaught.congr (reverseFindings_ok_iff Answer.noConfusion)

theorem ends_probeConnect {path probeIp : Text} (session : Session World) :
    Ends (probeConnect seams path probeIp) session True (connected seams probeIp session) := by
  refine ends_bind_ok rfl ?_
  obtain _ | _ | _ := (seams.connect probeIp esxPort session.world).1 <;> exact ends_pure _

theorem ends_probeHost {subdomain : Value} {path : Text} {host : Mapping} (session : Session World) :
    Ends (probeHost runtime config seams subdomain path host) session
      (∀ mention ∈ (visitHost runtime config seams subdomain host session).1,
        mention.Writable runtime config)
      (visitHost runtime config seams subdomain host session).2 := by
  unfold probeHost visitHost
  split
  · have written : Ends (formatValue runtime (mgmtIpOf host) : Probe World Text) session
        ((mgmtIpOf host).tooLong = false) session := by
      unfold formatValue
      cases (mgmtIpOf host).tooLong with
      | false => exact (ends_pure _).congr (iff_of_true trivial rfl)
      | true => exact (ends_throw _).congr (iff_of_false not_false (by decide))
    refine (ends_bind written fun target _ => ends_pure _).congr ?_
    rw [and_true, List.forall_mem_singleton]
    rfl
  · cases hostFqdn host subdomain with
    | none => exact (ends_pure _).congr (iff_of_true trivial fun _ member => by cases member)
    | some fqdn =>
      obtain ⟨findings, forward⟩ : ∃ findings,
          probeForward runtime config seams path fqdn (probeIpOf host) session = _ :=
        probeForward_eq path fqdn (probeIpOf host) session
      refine (ends_bind_ok forward (ends_bind (ends_probeReverse _) fun _ _ =>
        ends_bind (ends_probeConnect _) fun _ _ => ends_pure _)).congr ?_
      rw [and_true, and_true]
      exact List.forall_mem_singleton.symm

theorem ends_probeApplianceReverse {appliance : Appliance} {canonical : Answer} {resolved : Text}
    (session : Session World) :
    Ends (probeApplianceReverse runtime config seams appliance canonical resolved) session
      ((Mention.compared appliance.fqdn canonical
        (ask seams ⟨resolved, true, false⟩ session).1).Writable runtime config)
      (ask seams ⟨resolved, true, false⟩ session).2 := by
  refine ends_bind_ok (lookup_eq _ session) ?_
  generalize ask seams ⟨resolved, true, false⟩ session = asked
  obtain ⟨answer, after⟩ := asked
  cases answer with
  | none => exact ends_pure _
  | text content => exact ends_uncaught.congr (reverseFindings_ok_iff Answer.noConfusion)
  | pair first second writes => exact ends_uncaught.congr (reverseFindings_ok_iff Answer.noConfusion)
  | other writes => exact ends_uncaught.congr (reverseFindings_ok_iff Answer.noConfusion)

theorem ends_probeAppliance {appliance : Appliance} (session : Session World) :
    Ends (probeAppliance runtime config seams appliance) session
      (∀ mention ∈ (visitAppliance runtime config seams appliance session).1,
        mention.Writable runtime config)
      (visitAppliance runtime config seams appliance session).2 := by
  have nothing {findings : List Finding} {after : Session World} :
      Ends (pure findings : Probe World (List Finding)) after
        (∀ mention ∈ ([] : List Mention), mention.Writable runtime config) after :=
    (ends_pure _).congr (iff_of_true trivial fun _ member => by cases member)
  unfold probeAppliance visitAppliance
  dsimp only
  split
  · exact nothing
  · refine ends_bind_ok (lookup_eq _ session) ?_
    generalize ask seams ⟨appliance.fqdn, false, true⟩ session = asked
    obtain ⟨answer, after⟩ := asked
    cases answer with
    | none => exact nothing
    | text content => exact nothing
    | other writes => exact nothing
    | pair canonical resolved writes =>
      cases resolved with
      | none => exact nothing
      | pair first second writes => exact nothing
      | other writes => exact nothing
      | text resolved =>
        dsimp only
        split
        · exact nothing
        · split
          · exact nothing
          · exact (ends_probeApplianceReverse after).congr List.forall_mem_singleton.symm

/-! ### Documents -/

/-- Both kinds of targets, one after the other. -/
def visitDocument (runtime : Runtime) (config : ProbeConfig) (seams : Seams World)
    (inventory : Mapping) (session : Session World) : List Mention × Session World :=
  let hosts := visitHosts runtime config seams inventory session
  let appliances := visitAppliances runtime config seams inventory hosts.2
  (hosts.1 ++ appliances.1, appliances.2)

/-- Something is looked up. -/
def asks (runtime : Runtime) (config : ProbeConfig) (inventory : Mapping) : Bool :=
  (probedHosts inventory).any (fun entry => config.permits (mgmtIpOf entry.2) &&
    (hostFqdn entry.2 (subdomainOf inventory)).isSome) ||
  (applianceTargets inventory (subdomainOf inventory)).any fun appliance =>
    config.permitsName runtime appliance.fqdn

theorem lookedUp_append (first second : List Touch) :
    lookedUp (first ++ second) = (lookedUp first || lookedUp second) :=
  List.any_append

theorem lookedUp_visitHost {subdomain : Value} {host : Mapping} (session : Session World) :
    lookedUp (visitHost runtime config seams subdomain host session).2.touches =
      (lookedUp session.touches ||
        (config.permits (mgmtIpOf host) && (hostFqdn host subdomain).isSome)) := by
  unfold visitHost
  cases config.permits (mgmtIpOf host) with
  | false => exact (Bool.or_false _).symm
  | true =>
    rw [if_neg (by decide)]
    cases hostFqdn host subdomain with
    | none => exact (Bool.or_false _).symm
    | some fqdn =>
      show lookedUp ((_ ++ [_]) ++ [_]) = (_ || (true && true))
      rw [lookedUp_append, lookedUp_append, Bool.and_true, Bool.or_true]
      show (_ || true || false) = true
      rw [Bool.or_true, Bool.true_or]

theorem lookedUp_visitAppliance {appliance : Appliance} (session : Session World) :
    lookedUp (visitAppliance runtime config seams appliance session).2.touches =
      (lookedUp session.touches || config.permitsName runtime appliance.fqdn) := by
  have asked (query : Query) (session : Session World) :
      lookedUp (ask seams query session).2.touches = true := by
    show lookedUp (_ ++ [_]) = true
    rw [lookedUp_append]
    exact Bool.or_true _
  unfold visitAppliance
  cases config.permitsName runtime appliance.fqdn with
  | false => exact (Bool.or_false _).symm
  | true =>
    rw [if_neg (by decide), Bool.or_true]
    dsimp only
    split
    · split
      · exact asked _ _
      · split
        · exact asked _ _
        · exact asked _ _
    · exact asked _ _

theorem lookedUp_visitHosts {inventory : Mapping} (session : Session World) :
    lookedUp (visitHosts runtime config seams inventory session).2.touches =
      (lookedUp session.touches || (probedHosts inventory).any fun entry =>
        config.permits (mgmtIpOf entry.2) && (hostFqdn entry.2 (subdomainOf inventory)).isSome) :=
  visits_any (fun session : Session World => lookedUp session.touches) _ session
    fun _ => lookedUp_visitHost

theorem lookedUp_visitAppliances {inventory : Mapping} (session : Session World) :
    lookedUp (visitAppliances runtime config seams inventory session).2.touches =
      (lookedUp session.touches || (applianceTargets inventory (subdomainOf inventory)).any
        fun appliance => config.permitsName runtime appliance.fqdn) :=
  visits_any (fun session : Session World => lookedUp session.touches) _ session
    fun _ => lookedUp_visitAppliance

theorem lookedUp_visitDocument {inventory : Mapping} (session : Session World) :
    lookedUp (visitDocument runtime config seams inventory session).2.touches =
      (lookedUp session.touches || asks runtime config inventory) := by
  unfold visitDocument
  rw [lookedUp_visitAppliances, lookedUp_visitHosts, Bool.or_assoc]
  rfl

/-- Its iteration ends, or raises a `TypeError`. -/
def Reading.Consumable : Reading → Prop
  | .iterates _ _ (.raises exn) => exn.isTypeError = true
  | .iterates _ _ .never => False
  | _ => True

theorem vantageFindings_ok_iff (declared : List Text) (reading : Reading) :
    (∃ findings, vantageFindings declared reading = .ok findings) ↔ reading.Consumable := by
  cases reading with
  | raises exn => exact iff_of_true ⟨_, rfl⟩ trivial
  | refused typeName => exact iff_of_true ⟨_, rfl⟩ trivial
  | iterates typeName items ending =>
    cases ending with
    | never => exact iff_of_false (fun ⟨_, same⟩ => by cases same) not_false
    | stops =>
      refine iff_of_true ?_ trivial
      show ∃ findings, (if items.reduceOption = [] || _ then _ else _) = Except.ok findings
      split
      · exact ⟨_, rfl⟩
      · exact ⟨_, rfl⟩
    | raises exn =>
      obtain ⟨name, isTypeError⟩ := exn
      cases isTypeError with
      | false => exact iff_of_false (fun ⟨_, same⟩ => by cases same) Bool.false_ne_true
      | true => exact iff_of_true ⟨_, rfl⟩ rfl

theorem ends_probeVantage (inventory : Mapping) (session : Session World) :
    ∃ final, Ends (probeVantage seams inventory) session
      (lookedUp session.touches = true → declaredServers inventory ≠ [] →
        (seams.read session.world).1.Consumable) final := by
  have here : (get : Probe World (Session World)) session = (.ok session, session) := rfl
  by_cases asked : lookedUp session.touches = true
  · by_cases declared : declaredServers inventory = []
    · refine ⟨session, ends_bind_ok here ?_⟩
      rw [if_pos asked]
      unfold resolverVantagePoint
      dsimp only
      rw [if_pos declared]
      exact (ends_pure _).congr (iff_of_true trivial fun _ some => absurd declared some)
    · refine ⟨{ session with world := (seams.read session.world).2 }, ends_bind_ok here ?_⟩
      rw [if_pos asked]
      unfold resolverVantagePoint
      dsimp only
      rw [if_neg declared]
      refine ends_bind_ok rfl ?_
      have consumable := vantageFindings_ok_iff (declaredServers inventory)
        (seams.read session.world).1
      cases isFindings : vantageFindings (declaredServers inventory) (seams.read session.world).1 with
      | ok findings =>
        refine (ends_pure _).congr (iff_of_true trivial fun _ _ => ?_)
        exact consumable.mp ⟨findings, isFindings⟩
      | error stop =>
        refine (ends_throw _).congr (iff_of_false not_false fun fine => ?_)
        obtain ⟨_, same⟩ := consumable.mpr (fine asked declared)
        rw [isFindings] at same
        cases same
  · refine ⟨session, ends_bind_ok here ?_⟩
    rw [if_neg asked]
    exact (ends_pure _).congr (iff_of_true trivial fun did => absurd did asked)

/-- When `run_probes` returns: all that it writes can be written, and what the reader yields can be
consumed. -/
structure Harmless (runtime : Runtime) (config : ProbeConfig) (seams : Seams World)
    (inventory : Mapping) (world : World) : Prop where
  /-- Binding the arguments of a call raises at most a `TypeError`. -/
  binds : ∀ exn, seams.check ≠ .error exn
  writable : seams.check = .ok none →
    ∀ mention ∈ (visitDocument runtime config seams inventory ⟨world, []⟩).1,
      mention.Writable runtime config
  consumable : seams.check = .ok none → asks runtime config inventory = true →
    declaredServers inventory ≠ [] →
      (seams.read (visitDocument runtime config seams inventory ⟨world, []⟩).2.world).1.Consumable

theorem ends_probeHosts (inventory : Mapping) (session : Session World) :
    Ends (probeHosts runtime config seams inventory) session
      (∀ mention ∈ (visitHosts runtime config seams inventory session).1,
        mention.Writable runtime config) (visitHosts runtime config seams inventory session).2 :=
  ends_mapM (probedHosts inventory) session fun _ session => ends_probeHost session

theorem ends_probeAppliances (inventory : Mapping) (session : Session World) :
    Ends (probeAppliances runtime config seams inventory) session
      (∀ mention ∈ (visitAppliances runtime config seams inventory session).1,
        mention.Writable runtime config)
      (visitAppliances runtime config seams inventory session).2 :=
  ends_mapM (applianceTargets inventory (subdomainOf inventory)) session
    fun _ session => ends_probeAppliance session

theorem ends_probeDocument (runtime : Runtime) (config : ProbeConfig) (seams : Seams World)
    (inventory : Mapping) (world : World) :
    ∃ final, Ends (probeDocument runtime config seams inventory) ⟨world, []⟩
      ((∀ mention ∈ (visitDocument runtime config seams inventory ⟨world, []⟩).1,
          mention.Writable runtime config) ∧
        (asks runtime config inventory = true → declaredServers inventory ≠ [] →
          (seams.read (visitDocument runtime config seams inventory
            ⟨world, []⟩).2.world).1.Consumable)) final := by
  obtain ⟨final, vantage⟩ := ends_probeVantage inventory
    (visitDocument runtime config seams inventory ⟨world, []⟩).2
  have probed : Ends (probeHosts runtime config seams inventory) ⟨world, []⟩ _ _ :=
    ends_probeHosts inventory ⟨world, []⟩
  have ended := ends_bind probed
    fun hosts _ => ends_bind (ends_probeAppliances inventory _) fun appliances _ =>
      ends_bind vantage fun found _ => ends_pure ((hosts.map Prod.snd).flatten ++
        appliances.flatten ++ found ++
        if hosts ≠ [] ∧ hosts.all fun host => !host.1 then [nothingPermitted hosts.length] else [])
  refine ⟨final, ended.congr ?_⟩
  rw [lookedUp_visitDocument, and_true, ← and_assoc, ← List.forall_mem_append]
  exact Iff.rfl

theorem runProbes_returns_iff (runtime : Runtime) (config : ProbeConfig) (seams : Seams World)
    (inventory : Mapping) (world : World) :
    (∃ findings session, runProbes runtime config seams inventory ⟨world, []⟩ =
      (.ok findings, session)) ↔ Harmless runtime config seams inventory world := by
  unfold runProbes
  cases isChecked : seams.check with
  | error exn =>
    refine iff_of_false (fun ⟨_, _, same⟩ => by cases same) fun harmless => ?_
    exact harmless.binds exn isChecked
  | ok unusable =>
    cases unusable with
    | some finding =>
      refine iff_of_true ⟨[finding], _, rfl⟩ ⟨fun exn same => ?_, fun same => ?_, fun same => ?_⟩
      · rw [isChecked] at same
        cases same
      · rw [isChecked] at same
        cases same
      · rw [isChecked] at same
        cases same
    | none =>
      obtain ⟨final, ended⟩ := ends_probeDocument runtime config seams inventory world
      have returns : (∃ findings session, probeDocument runtime config seams inventory ⟨world, []⟩ =
          (.ok findings, session)) ↔ Harmless runtime config seams inventory world := by
        rw [ended.returns_iff]
        refine ⟨fun fine => ⟨fun exn same => ?_, fun _ => fine.1, fun _ => fine.2⟩,
          fun harmless => ⟨harmless.writable isChecked, harmless.consumable isChecked⟩⟩
        rw [isChecked] at same
        cases same
      exact returns

end Visits

/-! ### A generator that raises -/

def exampleProbeConfig : ProbeConfig := ⟨[text "10.0.0.0/8"], [text "lab.test"]⟩

/-- One host, and a name server. -/
def exampleProbed : Mapping :=
  [(.str (text "dns"), mapping [("subdomain", .str (text "lab.test")),
      ("nameservers", .list [.str (text "10.0.0.2")])]),
    (.str (text "hosts"), .list [mapping [("name", .str (text "esx01")),
      ("mgmtIp", .str (text "10.0.0.5"))]])]

/-- Every lookup fails. The reader is a generator that yields an address and raises after it. -/
def generatorSeams : Seams Unit where
  resolver := ⟨true, text "function", .binds⟩
  connector := ⟨true, text "function", .binds⟩
  reader := ⟨true, text "function", .binds⟩
  resolve _ world := (none, world)
  connect _ _ world := (some false, world)
  read world := (.iterates (text "generator") [some (text "10.0.0.1")]
    (.raises ⟨text "OSError", false⟩), world)

theorem generator_escapes : ¬∃ findings session,
    runProbes .simple exampleProbeConfig generatorSeams exampleProbed ⟨(), []⟩ =
      (.ok findings, session) := by
  rintro ⟨findings, session, returns⟩
  have raises : (runProbes .simple exampleProbeConfig generatorSeams exampleProbed
      ⟨(), []⟩).1.isOk = false := by decide
  rw [returns] at raises
  cases raises

end VcfSpec

end LocalGpuCluster
