/-
This file says what each of the shared functions may do, given what happened before: which VM a stop or
a start is about, that a VM is powered off only where it has no VMware Tools or where its grace is over,
and that all the rest changes no power.
-/

import Mathlib.Data.List.Forall2
import LocalGpuCluster.Dictionary
import LocalGpuCluster.VcfLabCommon

namespace LocalGpuCluster

namespace VcfLab

open Interaction

variable {site : Site} {fine : List Event → Event → Prop} {pre : List Event → Prop}

theorem quietly_isPlain : Quietly fun _ event => event.isPlain = true := fun _ _ => id

/-! ### To stop a VM -/

/-- A guest of this name was asked to shut down, and the stopwatch started after that. -/
def Requested (site : Site) (name : String) (started : ℕ) (log : List Event) : Prop :=
  ∃ earlier vm later, log = earlier ++ .stopVMGuest vm :: later ∧ vm.name = name ∧
    started = site.clock (earlier ++ [.stopVMGuest vm])

/-- The grace is over since a guest of this name was asked to shut down. -/
def Overdue (site : Site) (name : String) (graceSeconds : ℕ) (log : List Event) : Prop :=
  ∃ started, Requested site name started log ∧ graceSeconds * 1000 ≤ site.clock log - started

/-- What `Stop-LabVM` may do for a name, where it is not a trial. -/
inductive LabStop (site : Site) (name : String) (graceSeconds : ℕ) (allowHardStop whatIfMode : Bool)
    (before : List Event) : Event → Prop where
  | quiet {event : Event} (isPlain : event.isPlain = true) :
      LabStop site name graceSeconds allowHardStop whatIfMode before event
  | guest {vm : Vm} (real : whatIfMode = false) (isName : vm.name = name) (isOn : vm.isOn = true)
      (seen : Seen .target .vCenter vm before) :
      LabStop site name graceSeconds allowHardStop whatIfMode before (.stopVMGuest vm)
  | withoutTools {vm : Vm} (real : whatIfMode = false) (isName : vm.name = name)
      (isOn : vm.isOn = true) (seen : Seen .target .vCenter vm before)
      (noTools : .readTools vm false ∈ before) :
      LabStop site name graceSeconds allowHardStop whatIfMode before (.stopVM vm)
  | overdue {vm : Vm} (real : whatIfMode = false) (isName : vm.name = name)
      (seen : Seen .again .vCenter vm before) (allowed : allowHardStop = true)
      (isOver : Overdue site name graceSeconds before) :
      LabStop site name graceSeconds allowHardStop whatIfMode before (.stopVM vm)

section LabStop

variable {name : String} {graceSeconds : ℕ} {allowHardStop : Bool}

end LabStop

/-- What `Stop-HostVM` may do for a name, where it is not a trial. -/
inductive HostStop (name : String) (noHardStop : Bool) : Event → Prop where
  | quiet {event : Event} (isPlain : event.isPlain = true) : HostStop name noHardStop event
  | guest {vm : Vm} (isName : vm.name = name) : HostStop name noHardStop (.stopVMGuest vm)
  | hard {vm : Vm} (isName : vm.name = name) (allowed : noHardStop = false) :
      HostStop name noHardStop (.stopVM vm)

section HostStop

variable {name : String} {noHardStop : Bool}

theorem quietly_hostStop : Quietly fun _ event => HostStop name noHardStop event := fun _ _ => .quiet

theorem quiet_waitHostOff {server : Server} {graceSeconds started : ℕ} (rounds : ℕ) :
    Quiet (site.waitHostOff server name graceSeconds started rounds) := by
  induction rounds with
  | zero => exact traced_throw
  | succ rounds inductionHypothesis =>
    refine traced_bind traced_elapsed fun elapsed => ?_
    split
    · exact traced_pure fun _ _ => trivial
    · refine traced_bind ((traced_findVM quietly_isPlain stable_true (by rfl)).imp (fun _ _ => trivial)
        fun _ _ => id) fun found => ?_
      split
      · exact traced_pure fun _ _ => trivial
      · exact traced_bind ((traced_sleep quietly_isPlain stable_true).imp (fun _ _ => trivial)
          fun _ _ => id) fun _ => inductionHypothesis

theorem traced_stopStillOn {server : Server} :
    Traced (fun _ event => HostStop name noHardStop event) (fun _ => True)
      (site.stopStillOn server name noHardStop) fun _ _ => True := by
  refine traced_bind (traced_findVM quietly_hostStop stable_true (by rfl)) fun now => ?_
  cases now with
  | none => exact traced_pure fun _ _ => trivial
  | some vm =>
    dsimp only
    split
    · exact traced_pure fun _ _ => trivial
    · cases isAllowed : noHardStop with
      | true => exact traced_pure fun _ _ => trivial
      | false =>
        refine traced_bind (traced_call fun log holds => .hard (holds.2 vm rfl).1 rfl) fun _ => ?_
        refine traced_bind ((traced_sleep quietly_hostStop stable_true).imp (fun _ _ => trivial)
          fun _ _ => id) fun _ => ?_
        exact traced_bind (traced_findVM quietly_hostStop stable_true (by rfl)) fun after =>
          traced_pure fun _ _ => trivial

theorem traced_stopHostVM {hostIp : String} {graceSeconds : ℕ} {whatIfMode : Bool} (rounds : ℕ) :
    Traced (fun _ event => HostStop name noHardStop event) (fun _ => True)
      (site.stopHostVM rounds hostIp name graceSeconds noHardStop whatIfMode) fun _ _ => True := by
  refine traced_attempt stable_true ?_ (traced_pure fun _ _ => trivial)
  refine traced_bind (traced_connectVIServer quietly_hostStop stable_true (by rfl)) fun _ => ?_
  refine traced_bind (traced_findVM quietly_hostStop stable_true (by rfl)) fun found => ?_
  cases found with
  | none => exact traced_pure fun _ _ => trivial
  | some vm =>
    dsimp only
    split
    · exact traced_pure fun _ _ => trivial
    · split
      · exact traced_pure fun _ _ => trivial
      · refine traced_bind ((traced_toolsOk quietly_hostStop (stable_const (vm.name = name))).imp
          (fun _ holds => (holds.2 vm rfl).1) fun _ _ => id) fun toolsOk => ?_
        split
        · refine traced_bind (traced_call fun _ holds => .guest holds.1) fun _ => ?_
          refine traced_bind traced_observe fun started => ?_
          refine traced_bind (((quiet_waitHostOff rounds).traced quietly_hostStop stable_true).imp
            (fun _ _ => trivial) fun _ _ => id) fun off => ?_
          split
          · exact traced_pure fun _ _ => trivial
          · exact traced_stopStillOn
        · exact traced_stopStillOn.imp (fun _ _ => trivial) fun _ _ => id

end HostStop

/-! ### To start a VM -/

theorem quiet_issue {event : Event} (isPlain : event.isPlain = true) :
    Quiet (issue event : Script Unit) := by
  have traced : Traced (fun _ event => event.isPlain = true) (fun _ => True)
      (issue event : Script Unit) _ := traced_issue fun _ _ => isPlain
  exact traced.imp (fun _ => id) fun _ _ _ => trivial

theorem quiet_sleep {seconds : ℕ} : Quiet (Site.sleep seconds) :=
  traced_sleep quietly_isPlain stable_true

theorem quiet_connect {look : Look} {server : Server} (notCheck : look.isCheck = false) :
    Quiet (site.connectVIServer look server) :=
  traced_connectVIServer quietly_isPlain stable_true notCheck

theorem quiet_getVMs {errorAction : ErrorAction} {look : Look} {server : Server} {wanted : Vm → Bool}
    (notCheck : look.isCheck = false) :
    Quiet (site.getVMs errorAction look server wanted) :=
  (traced_getVMs_stable quietly_isPlain stable_true notCheck).imp (fun _ => id) fun _ _ _ => trivial

theorem quiet_findVM {look : Look} {server : Server} {name : String}
    (notCheck : look.isCheck = false) : Quiet (site.findVM look server name) :=
  (traced_findVM quietly_isPlain stable_true notCheck).imp (fun _ => id) fun _ _ _ => trivial

theorem quiet_getVM {look : Look} {server : Server} {name : String}
    (notCheck : look.isCheck = false) : Quiet (site.getVM look server name) :=
  (traced_getVM quietly_isPlain stable_true notCheck).imp (fun _ => id) fun _ _ _ => trivial

theorem quiet_pure {Result : Type} {result : Result} : Quiet (pure result) :=
  traced_pure fun _ _ => trivial

theorem quiet_observe {Result : Type} {reading : List Event → Result} :
    Quiet (observe reading : Script Result) :=
  traced_observe.imp (fun _ => id) fun _ _ _ => trivial

theorem quiet_endIf {halt : Halt} {condition : Prop} [Decidable condition] :
    Quiet (endIf halt condition) :=
  traced_endIf.imp (fun _ => id) fun _ _ _ => trivial

theorem quiet_attempt {Result : Type} {program handler : Script Result} (first : Quiet program)
    (second : Quiet handler) : Quiet (attempt program handler) :=
  traced_attempt stable_true first second

theorem quiet_mapM {Item Result : Type} {items : List Item} {body : Item → Script Result}
    (each : ∀ item ∈ items, Quiet (body item)) : Quiet (items.mapM body) :=
  traced_mapM_keep each

theorem quiet_getHostInventoryDrift {hosts : List EsxHost} :
    Quiet (site.getHostInventoryDrift hosts) :=
  traced_bind (quiet_getVMs (by rfl)) fun _ => quiet_mapM fun _ _ => quiet_attempt
    (traced_bind (quiet_connect (by rfl)) fun _ => traced_bind (quiet_getVMs (by rfl)) fun _ =>
      quiet_pure) quiet_pure

theorem quiet_waitSync {hosts : List EsxHost} {started : ℕ} (rounds : ℕ) :
    Quiet (site.waitSync hosts started rounds) := by
  induction rounds with
  | zero => exact traced_throw
  | succ rounds inductionHypothesis =>
    refine traced_bind quiet_observe fun elapsed => ?_
    split
    · exact quiet_pure
    · refine traced_bind quiet_sleep fun _ => ?_
      split
      · exact quiet_pure
      · refine traced_bind quiet_getHostInventoryDrift fun drifts => ?_
        split
        · exact quiet_pure
        · exact inductionHypothesis

theorem quiet_repairHostVpxa {config : Config} {hostName : String} (rounds : ℕ) :
    Quiet (site.repairHostVpxa config rounds hostName) := by
  refine traced_bind quiet_observe fun known => ?_
  split
  · exact quiet_pure
  · refine traced_bind (quiet_attempt (quiet_call rfl) quiet_pure) fun _ => ?_
    exact traced_bind quiet_observe fun _ => quiet_waitSync rounds

theorem quiet_confirmHostInventorySync {config : Config} {reportOnly : Bool} (rounds : ℕ) :
    Quiet (site.confirmHostInventorySync config rounds reportOnly) := by
  refine traced_bind quiet_getHostInventoryDrift fun drifts => ?_
  dsimp only
  split
  · exact quiet_pure
  · split
    · exact quiet_pure
    · exact traced_bind (quiet_mapM fun _ _ => quiet_repairHostVpxa rounds) fun _ => quiet_pure

/-- What `Start-LabVM` and `Start-HostVM` may do for a name, where it is not a trial. -/
inductive VmStart (role : Role) (name : String) (whatIfMode : Bool) : Event → Prop where
  | plain {event : Event} (isPlain : event.isPlain = true) : VmStart role name whatIfMode event
  | start {vm : Vm} (real : whatIfMode = false) (isName : vm.name = name) :
      VmStart role name whatIfMode (.startVM role vm)

section VmStart

variable {role : Role} {name : String}

theorem quietly_vmStart {whatIfMode : Bool} :
    Quietly fun _ event => VmStart role name whatIfMode event := fun _ _ => .plain

theorem traced_startHostVM {hostIp : String} {whatIfMode : Bool} :
    Traced (fun _ event => VmStart role name whatIfMode event) (fun _ => True)
      (site.startHostVM role hostIp name whatIfMode) fun _ _ => True := by
  refine traced_attempt stable_true ?_ (traced_pure fun _ _ => trivial)
  refine traced_bind (traced_connectVIServer quietly_vmStart stable_true (by rfl)) fun _ => ?_
  refine traced_bind (traced_findVM quietly_vmStart stable_true (by rfl)) fun found => ?_
  cases found with
  | none => exact traced_pure fun _ _ => trivial
  | some vm =>
    dsimp only
    split
    · exact traced_pure fun _ _ => trivial
    · cases whatIfMode with
      | true => exact traced_pure fun _ _ => trivial
      | false => exact traced_bind (traced_call fun _ holds => .start rfl (holds.2 vm rfl).1) fun _ =>
          traced_pure fun _ _ => trivial

theorem traced_startOnItsHost {hostName : String} :
    Traced (fun _ event => VmStart role name false event) (fun _ => True)
      (site.startOnItsHost role hostName name) fun _ _ => True := by
  refine traced_bind (traced_connectVIServer quietly_vmStart stable_true (by rfl)) fun _ => ?_
  refine traced_bind (traced_getVM quietly_vmStart stable_true (by rfl)) fun vm => ?_
  split
  · exact traced_pure fun _ _ => trivial
  · exact traced_bind (traced_call fun _ holds => .start rfl holds.2.1) fun _ =>
      traced_pure fun _ _ => trivial

theorem traced_startLabVM {config : Config} {server : Server} {repairInventory whatIfMode : Bool}
    (rounds : ℕ) :
    Traced (fun _ event => VmStart role name whatIfMode event) (fun _ => True)
      (site.startLabVM config rounds role server name repairInventory whatIfMode)
      fun _ _ => True := by
  refine traced_bind (traced_findVM quietly_vmStart stable_true (by rfl)) fun found => ?_
  cases found with
  | none => exact traced_pure fun _ _ => trivial
  | some vm =>
    refine traced_assume (fun _ holds => (holds.2 vm rfl).1) fun isName => ?_
    refine Traced.imp ?_ (fun _ _ => trivial) fun _ _ => id
    dsimp only
    split
    · exact traced_pure fun _ _ => trivial
    · cases whatIfMode with
      | true => exact traced_pure fun _ _ => trivial
      | false =>
        refine traced_bind (?_ : Traced _ _ _ fun _ _ => True) fun issued => ?_
        · exact traced_attempt stable_true (traced_bind (traced_call fun _ _ =>
            .start rfl isName) fun _ => traced_pure fun _ _ => trivial)
            (traced_pure fun _ _ => trivial)
        split
        · exact traced_pure fun _ _ => trivial
        · split
          · exact traced_pure fun _ _ => trivial
          · next hostName _ =>
            refine traced_bind (traced_attempt stable_true traced_startOnItsHost
              (traced_pure fun _ _ => trivial)) fun started => ?_
            split
            · exact traced_pure fun _ _ => trivial
            · split
              · exact traced_pure fun _ _ => trivial
              · exact traced_bind ((quiet_repairHostVpxa rounds).traced quietly_vmStart stable_true)
                  fun _ => traced_pure fun _ _ => trivial

end VmStart

/-! ### Gates -/

theorem quiet_probe {gate : Gate} : Quiet (site.probe gate) :=
  traced_bind quiet_observe fun _ => traced_bind (quiet_issue rfl) fun _ => quiet_pure

theorem quiet_guestUp {server : Server} {name : String} : Quiet (site.guestUp server name) :=
  quiet_attempt (traced_bind (quiet_getVM (by rfl)) fun _ => quiet_pure) quiet_pure

theorem quiet_pollGate {test : Script Bool} (isQuiet : Quiet test)
    {timeoutSeconds pollSeconds started : ℕ} (rounds : ℕ) :
    Quiet (site.pollGate test timeoutSeconds pollSeconds started rounds) := by
  induction rounds with
  | zero => exact traced_throw
  | succ rounds inductionHypothesis =>
    refine traced_bind quiet_observe fun elapsed => ?_
    split
    · exact quiet_pure
    · refine traced_bind (quiet_attempt isQuiet quiet_pure) fun ok => ?_
      split
      · exact quiet_pure
      · exact traced_bind quiet_sleep fun _ => inductionHypothesis

/-- A gate that was waited for is remembered with its outcome. -/
theorem traced_waitGate {test : Script Bool} (isQuiet : Quiet test) {gate : Gate}
    {timeoutSeconds : ℕ} (rounds : ℕ) :
    Traced (fun _ event => event.isPlain = true) (fun _ => True)
      (site.waitGate rounds gate timeoutSeconds test) fun passed log => .gated gate passed ∈ log := by
  refine traced_bind quiet_observe fun started => ?_
  refine traced_bind (quiet_pollGate isQuiet rounds) fun passed => ?_
  refine traced_bind (traced_issue fun _ _ => rfl) fun _ => traced_pure ?_
  rintro _ ⟨before, _, rfl⟩
  exact List.mem_append_right _ List.mem_cons_self

/-! ### The checks that keep the modes apart -/

/-- Whether a query of such a check had no answer. -/
def Event.isFailedCheck : Event → Bool
  | .connected look _ made => look.isCheck && !made
  | .looked look _ seen => look.isCheck && seen.isNone
  | _ => false

theorem Event.isFailedCheck_of_isPlain {event : Event} (isPlain : event.isPlain = true) :
    event.isFailedCheck = false := by
  have notCheck := (Bool.not_eq_true' _).mp ((Bool.and_eq_true _ _).mp isPlain).2
  cases event with
  | connected look server made =>
    show (look.isCheck && !made) = false
    rw [show look.isCheck = false from notCheck, Bool.false_and]
  | looked look server seen =>
    show (look.isCheck && seen.isNone) = false
    rw [show look.isCheck = false from notCheck, Bool.false_and]
  | _ => rfl

/-- A query for a worker that fails without a word, so that it seems to list nothing. -/
def FailedSilently (site : Site) (before : List Event) (event : Event) : Prop :=
  (∃ name server, event = .looked (.worker name) server none) ∧ site.outcome before = .failed

/-- No query of a check failed, but for those that failed without a word. -/
def ChecksPassed (site : Site) (log : List Event) : Prop :=
  EachFine (fun before event => event.isFailedCheck = true → FailedSilently site before event) [] log

theorem ChecksPassed.append {log : List Event} {event : Event} (passed : ChecksPassed site log)
    (isFine : event.isFailedCheck = true → FailedSilently site log event) :
    ChecksPassed site (log ++ [event]) :=
  eachFine_append passed (eachFine_singleton isFine)

/-- The host said what it ran, and no VCF component but an allowed one was on. -/
def RanNoVcf (config : Config) (allow : List String) (host : EsxHost) (log : List Event) : Prop :=
  ∃ vms, .looked .running (.host host.ip) (some vms) ∈ log ∧
    ∀ vm ∈ vms, vm.isOn = true → config.isVcfName vm.name = true → vm.name ∈ allow

/-- The host of a worker was asked for it, and if it answered, the worker was not on. -/
def SeemedOff (site : Site) (worker : HostVm) (log : List Event) : Prop :=
  ∃ earlier seen later,
    log = earlier ++ .looked (.worker worker.vmName) (.host worker.hostIp) seen :: later ∧
    (∀ vm, (seen.getD []).head? = some vm → vm.isOn = false) ∧
    (seen = none → site.outcome earlier = .failed)

theorem stable_ranNoVcf (config : Config) (allow : List String) (host : EsxHost) :
    Stable (RanNoVcf config allow host) :=
  stable_exists fun _ => (stable_mem _).and (stable_const _)

theorem stable_seemedOff (site : Site) (worker : HostVm) : Stable (SeemedOff site worker) := by
  rintro _ added ⟨earlier, seen, later, rfl, off, failed⟩
  exact ⟨earlier, seen, later ++ added, by rw [List.append_assoc, List.cons_append], off, failed⟩

theorem checkOf_clear {Found : Type} {answers : List (Except String (List Found))}
    (reached : (checkOf answers).unreachable = []) (clear : (checkOf answers).running = [])
    {answer : Except String (List Found)} (member : answer ∈ answers) : answer = .ok [] := by
  cases answer with
  | error place =>
    have isPlace : place ∈ (checkOf answers).unreachable :=
      List.mem_filterMap.mpr ⟨.error place, member, rfl⟩
    rw [reached] at isPlace
    exact absurd isPlace List.not_mem_nil
  | ok found =>
    have isFound : found ∈ answers.filterMap fun answer => answer.toOption :=
      List.mem_filterMap.mpr ⟨.ok found, member, rfl⟩
    rw [List.flatten_eq_nil_iff.mp clear found isFound]

/-- A loop over hosts that could look everywhere and found nothing. -/
theorem traced_check {Found Item : Type} {items : List Item}
    {body : Item → Script (Except String (List Found))} {good : Item → List Event → Prop}
    (stable : ∀ item, Stable (good item))
    (each : ∀ item ∈ items, Traced fine (fun _ => True) (body item) fun answer log =>
      answer = .ok [] → good item log)
    (keeps : ∀ item ∈ items, Traced fine (ChecksPassed site) (body item) fun answer log =>
      (∃ place, answer = .error place) ∨ ChecksPassed site log) :
    Traced fine (ChecksPassed site) (do
      let answers ← items.mapM body
      return checkOf answers) fun check log =>
        (check.unreachable = [] → ChecksPassed site log) ∧
        (check.unreachable = [] → check.running = [] → ∀ item ∈ items, good item log) := by
  have answered := traced_mapM (fun item answer => stable_imp fun _ : answer = .ok [] => stable item)
    fun item member => (each item member).imp (fun _ => id) fun _ _ holds => ⟨trivial, holds⟩
  have passes := traced_mapM_unless keeps fun item member => (each item member).imp (fun _ => id)
    fun _ _ _ => trivial
  refine traced_bind ((answered.imp (fun _ _ => trivial) fun _ _ => id).and passes) fun answers =>
    traced_pure ?_
  rintro log ⟨⟨_, all⟩, kept⟩
  refine ⟨fun reached => kept.resolve_left ?_, fun reached clear item member => ?_⟩
  · rintro ⟨answer, member, place, rfl⟩
    have isPlace : place ∈ (checkOf answers).unreachable :=
      List.mem_filterMap.mpr ⟨.error place, member, rfl⟩
    rw [reached] at isPlace
    exact List.not_mem_nil isPlace
  · obtain ⟨answer, isAnswer, isGood⟩ := Matching.exists_right all member
    exact isGood (checkOf_clear reached clear isAnswer)

/-- A rule that lets the scripts do all that changes no power. -/
def Widely (fine : List Event → Event → Prop) : Prop :=
  ∀ log event, event.isQuiet = true → fine log event

theorem traced_vcfOnHost (quiet : Widely fine) {config : Config} {allow : List String}
    {host : EsxHost} :
    Traced fine (fun _ => True) (site.vcfOnHost config allow host) fun answer log =>
      answer = .ok [] → RanNoVcf config allow host log := by
  refine traced_attempt_anew ?_ (traced_pure fun _ _ same => by cases same)
  refine traced_bind (traced_connect fun log _ => quiet log _ rfl) fun _ => ?_
  refine traced_bind (traced_look fun log _ => quiet log _ rfl) fun vms => traced_pure ?_
  rintro _ ⟨_, before, seen, _, rfl, _, answered, _⟩ none
  injection none with none
  refine ⟨vms, answered rfl ▸ List.mem_append_right _ List.mem_cons_self, fun vm isVm isOn isVcf => ?_⟩
  by_contra other
  refine List.filter_eq_nil_iff.mp (List.map_eq_nil_iff.mp none) vm isVm ?_
  have notAllowed : allow.contains vm.name = false := by
    rw [← Bool.not_eq_true, List.contains_iff_mem]
    exact other
  rw [isOn, notAllowed, isVcf]
  rfl

theorem keeps_vcfOnHost (quiet : Widely fine) {config : Config} {allow : List String}
    {host : EsxHost} :
    Traced fine (ChecksPassed site) (site.vcfOnHost config allow host) fun answer log =>
      (∃ place, answer = .error place) ∨ ChecksPassed site log := by
  refine traced_attempt_anew ?_ (traced_pure fun _ _ => .inl ⟨_, rfl⟩)
  refine traced_bind (traced_connect fun log _ => quiet log _ rfl) fun _ => ?_
  refine traced_bind (traced_look fun log _ => quiet log _ rfl) fun vms => traced_pure ?_
  rintro _ ⟨_, _, seen, ⟨before, passed, rfl⟩, rfl, _, answered, _⟩
  refine .inr ((passed.append fun isFailed => ?_).append fun isFailed => ?_)
  · cases isFailed
  · rw [answered rfl] at isFailed
    cases isFailed

theorem traced_getRunningVcfOnHosts (quiet : Widely fine) {config : Config} {allow : List String} :
    Traced fine (ChecksPassed site) (site.getRunningVcfOnHosts config allow) fun check log =>
      (check.unreachable = [] → ChecksPassed site log) ∧
      (check.unreachable = [] → check.running = [] →
        ∀ host ∈ config.hosts, RanNoVcf config allow host log) :=
  traced_check (fun host => stable_ranNoVcf config allow host) (fun _ _ => traced_vcfOnHost quiet)
    fun _ _ => keeps_vcfOnHost quiet

theorem traced_workerRuns (quiet : Widely fine) {worker : HostVm} :
    Traced fine (fun _ => True) (site.workerRuns worker) fun answer log =>
      answer = .ok [] → SeemedOff site worker log := by
  refine traced_attempt_anew ?_ (traced_pure fun _ _ same => by cases same)
  refine traced_bind (traced_connect fun log _ => quiet log _ rfl) fun _ => ?_
  refine traced_bind (traced_find fun log _ => quiet log _ rfl) fun found => traced_pure ?_
  rintro _ ⟨before, seen, _, rfl, isFound, failed⟩ none
  injection none with none
  refine ⟨before, seen, [], rfl, fun vm isVm => ?_, failed⟩
  rw [← isFound] at isVm
  rw [isVm] at none
  refine eq_false_of_ne_true fun isOn => ?_
  rw [Option.any_some, isOn] at none
  exact absurd none (List.cons_ne_nil _ _)

theorem keeps_workerRuns (quiet : Widely fine) {worker : HostVm} :
    Traced fine (ChecksPassed site) (site.workerRuns worker) fun answer log =>
      (∃ place, answer = .error place) ∨ ChecksPassed site log := by
  refine traced_attempt_anew ?_ (traced_pure fun _ _ => .inl ⟨_, rfl⟩)
  refine traced_bind (traced_connect fun log _ => quiet log _ rfl) fun _ => ?_
  refine traced_bind (traced_find fun log _ => quiet log _ rfl) fun found => traced_pure ?_
  rintro _ ⟨_, seen, ⟨before, passed, rfl⟩, rfl, _, failed⟩
  refine .inr ((passed.append fun isFailed => ?_).append fun isFailed => ?_)
  · cases isFailed
  · cases seen with
    | some _ => cases isFailed
    | none => exact ⟨⟨_, _, rfl⟩, failed rfl⟩

theorem getOwnedHostVms_names {config : Config} {owned : List Owned} {vms : List HostVm}
    (found : config.getOwnedHostVms owned = some vms) :
    ∀ vm ∈ vms, vm.vmName ∈ owned.map (·.vmName) := by
  intro vm member
  unfold Config.getOwnedHostVms at found
  induction owned generalizing vms with
  | nil =>
    rw [List.mapM_nil] at found
    injection found with found
    rw [← found] at member
    exact absurd member List.not_mem_nil
  | cons entry rest inductionHypothesis =>
    rw [List.mapM_cons] at found
    obtain ⟨first, isFirst, found⟩ := Option.bind_eq_some_iff.mp found
    obtain ⟨others, areOthers, found⟩ := Option.bind_eq_some_iff.mp found
    injection found with found
    rw [← found] at member
    rw [List.map_cons]
    rcases List.mem_cons.mp member with rfl | isOther
    · split at isFirst
      · injection isFirst with isFirst
        rw [← isFirst]
        exact List.mem_cons_self
      · cases isFirst
    · exact List.mem_cons_of_mem _ (inductionHypothesis areOthers isOther)

theorem traced_ownedHostVms {config : Config} {owned : List Owned} :
    Traced fine pre (Site.ownedHostVms config owned) fun vms log =>
      pre log ∧ config.getOwnedHostVms owned = some vms := by
  unfold Site.ownedHostVms
  split
  · next found => exact traced_pure fun _ isPre => ⟨isPre, found⟩
  · exact traced_throw

end VcfLab

end LocalGpuCluster
