/-
This file models `firstboot.py`: the `%firstboot` section of a kickstart, filled from values that the
renderer has checked. The texts are the templates, line by line.
-/

import LocalGpuCluster.SpecDevices

namespace LocalGpuCluster

namespace VcfSpec

/-- Lines of a template that have no field. -/
def lines (written : List String) : Text := written.flatMap fun line => text line ++ newline

/-- `_PREAMBLE`. -/
def preamble : Text :=
  lines ["%firstboot --interpreter=busybox",
    "# NOTE: %firstboot is silently skipped when UEFI Secure Boot is enabled. None",
    "# of the following runs, kickstart.log records the skip, and the host looks",
    "# installed. Secure Boot must be OFF for the install and turned back on after.",
    "#",
    "# Enough to make the host commissionable by VCF; everything else is the",
    "# Installer's job once it takes over.",
    "#",
    "# Structure ported from William Lam's vcf-91-in-box, config/KS-ESX01.CFG",
    "# (https://github.com/lamw/vcf-91-in-box): wait for hostd, enter maintenance",
    "# mode, do the work, leave maintenance mode, reboot. The earlier version of",
    "# this block started issuing commands immediately, which races hostd -- every",
    "# vim-cmd below fails if it wins that race, and on a host with no BMC a",
    "# half-configured install is invisible until commissioning rejects it.",
    "",
    "# hostd is not up when %firstboot starts. runtimeinfo is the cheapest call",
    "# that keeps failing until it is, so this loop is the gate for everything",
    "# after it. There is deliberately no attempt limit: a host that never brings",
    "# hostd up is broken in a way a timeout cannot improve, and looping leaves the",
    "# evidence in kickstart.log instead of continuing into a pile of failures.",
    "while ! vim-cmd hostsvc/runtimeinfo > /dev/null 2>&1; do",
    "  sleep 10",
    "done",
    "",
    "# Maintenance mode. Not merely tidy: ESX 9.1 stopped requiring a reboot to",
    "# apply NVMe memory tiering and requires maintenance mode instead, so the",
    "# tiering block below will not apply without this. Exited further down,",
    "# before the reboot, because VCF refuses to commission a host that is in it.",
    "esxcli system maintenanceMode set -e true",
    ""]

/-- `_SERVICES.format(…)`. -/
def services (ntpOpts mtu datastoreRename : Text) : Text :=
  lines ["# SSH: the operator's only way in on a host with no BMC.",
    "#",
    "# NOT for VCF's benefit. An earlier version of this comment claimed SSH is",
    "# \"how VCF reaches it during commissioning\"; that is wrong. Observed",
    "# 2026-09-22: a VCF Installer validation run turned SSH off on all three",
    "# hosts without rebooting them -- its Security Configuration check disables",
    "# it. VCF reaches the host over 443/902 and the hostd SDK, which is also why",
    "# a host with SSH shut still passes VCF's host-connect check.",
    "#",
    "# All three commands are needed, and the third is the one that was missing.",
    "# enable_ssh/start_ssh change the RUNNING state; the service's startup POLICY",
    "# is separate and defaults to off. This block is followed by a reboot, so",
    "# without chkconfig the host comes back with SSH shut -- which is exactly what",
    "# happened on all three lab hosts, and it fails VCF's host-connect check",
    "# during commissioning while ICMP and the SDK still answer, so it does not",
    "# look like an SSH problem. Verified on a live 9.1.1 host: the chkconfig line",
    "# below is what makes `chkconfig --list` report the service on after a reboot.",
    "vim-cmd hostsvc/enable_ssh",
    "vim-cmd hostsvc/start_ssh",
    "chkconfig SSH on",
    "# Enabling SSH raises a permanent host warning. On one host that is cosmetic;",
    "# on three it is three standing yellow alarms in vCenter that hide real ones.",
    "# NOT enabling the ESXi Shell, which Lam's script does alongside this: with no",
    "# BMC there is no remote console to use a local shell from, so it would be",
    "# attack surface with no operator benefit here.",
    "esxcli system settings advanced set -o /UserVars/SuppressShellWarning -i 1"] ++
  text "esxcli system ntp set --enabled=yes " ++ ntpOpts ++ newline ++
  lines ["# The line above configures the server and starts the daemon; it does NOT set",
    "# the service's startup POLICY, and VCF validates the policy. Without this a",
    "# bring-up validation reports, on every host:",
    "#   service ntpd policy is not configured to \"Start and stop with host\"",
    "# Note this is a DIFFERENT property from the one `chkconfig ntpd on` writes:",
    "# after chkconfig alone the vSphere API still reports policy \"off\", which is",
    "# what VCF reads -- measured on all three hosts 2026-09-26, where chkconfig",
    "# said \"on\" and the warning persisted until setpolicy was used.",
    "vim-cmd hostsvc/service/setpolicy ntpd on",
    ""] ++
  datastoreRename ++
  text "# A coredump target. Without one a PSOD leaves nothing to read afterwards, and" ++
  newline ++
  lines ["# with no BMC the screen it painted is the only other copy -- which means a",
    "# photograph, if anyone happened to be in the room. -s picks the best existing",
    "# dump file rather than assuming a path the installer may not have used.",
    "esxcli system coredump file set -s -e true",
    ""] ++
  text "# vSwitch0 and vmk0 MTU, from networks.management.mtu (" ++ mtu ++
  text ") and deliberately" ++ newline ++
  lines ["# NOT from nsx.fabricMtu. vmk0 is the management vmkernel and must match the",
    "# MTU the management VLAN actually carries; pinning it to the 9000 fabric MTU",
    "# (as Lam's script hardcodes) would black-hole exactly the commissioning",
    "# traffic this host exists to receive. nsx.fabricMtu describes the NSX",
    "# transport fabric on the VDS that VCF builds during commissioning -- vSwitch0",
    "# is replaced at that point and never carries a fabric frame."] ++
  text "esxcli network vswitch standard set -m " ++ mtu ++ text " -v vSwitch0" ++ newline ++
  text "esxcli network ip interface set -i vmk0 -m " ++ mtu ++ newline ++
  lines ["",
    "# No \"VM Network\" portgroup VLAN line here, deliberately. Lam's script sets",
    "# one because his install line asks the installer to create that portgroup;",
    "# ours does not, so no such portgroup exists and the command would fail on",
    "# every host. vmk0's own portgroup takes its VLAN from the `network`",
    "# directive in the kickstart above, which is the only VLAN tag this host needs",
    "# before VCF replaces vSwitch0 with a VDS. (The tag itself is deliberately not",
    "# repeated in this comment: a generated file that merely mentions a VLAN",
    "# option is indistinguishable, to a grep, from one that sets it.)",
    ""]

/-- `_SSH_KEY.format(…)`. -/
def sshKey (sshPublicKey : Text) : Text :=
  lines ["# Operator SSH public key (provisioning.sshPublicKey). A public key is not a",
    "# credential: it authenticates its holder to this host and discloses nothing",
    "# to anyone who reads it off the boot server. Without it the only way in is",
    "# the root password, which is the thing this file works hardest not to carry.",
    "mkdir -p /etc/ssh/keys-root"] ++
  text "echo '" ++ sshPublicKey ++ text "' > /etc/ssh/keys-root/authorized_keys" ++ newline ++
  lines ["chmod 600 /etc/ssh/keys-root/authorized_keys",
    ""]

/-- `_MEMORY_TIERING.format(…)`. -/
def memoryTiering (tieringDevice ratio tierGb ramGb : Text) : Text :=
  lines ["# NVMe memory tiering (hardware.memoryTieringDevice, hardware.memoryTieringGb).",
    "# ESX 9.1 form: one command, applied in maintenance mode, no reboot. The",
    "# three-command 9.0 sequence it replaced -- a kernel memory-tiering flag, a",
    "# /Mem percentage, and a separate tier-device creation -- is NOT emitted, and",
    "# neither is the `vmware` version probe that would have to choose between",
    "# them. See the block comment above this template in firstboot.py.",
    "#",
    "# (None of the 9.0 command names appear above on purpose: a generated file",
    "# that merely mentions a command is indistinguishable, to a grep, from one",
    "# that runs it.)",
    "#",
    "# -r is the tier size as a percentage of DRAM, derived from the inventory"] ++
  text "# rather than pinned at Lam's flat 100: " ++ tierGb ++ text " GB tier against " ++
  ramGb ++ text " GB" ++ newline ++
  text "# DRAM = " ++ ratio ++
  text "%. The device is normally larger than the tier that ratio asks" ++ newline ++
  lines ["# for, and the ratio is what decides how much of it gets used -- which is what",
    "# makes hardware.memoryTieringGb load-bearing here rather than a number only",
    "# the capacity rules ever read.",
    "#",
    "# This host's capacity plan depends on this line: without it the host boots",
    "# with DRAM only, every capacity figure that counted tiered memory is wrong,",
    "# and nothing says so until a VM fails to power on."] ++
  text "esxcli memtier enable -d " ++ tieringDevice ++ text " -r " ++ ratio ++ newline ++
  lines [""]

/-- `_CONSUMER_AMD_WORKAROUNDS.format(…)`. -/
def consumerAmdWorkarounds (brand : Text) : Text :=
  lines ["# Consumer-AMD host workarounds (provisioning.hostWorkarounds: consumer-amd).",
    "# William Lam, VCF 9.1 comprehensive ESX configuration workarounds for lab",
    "# deployments:"] ++
  text "# " ++
  text "https://williamlam.com/2026/05/vcf-9-1-comprehensive-esx-configuration-worka" ++
  text "rounds-for-lab-deployments.html" ++ newline ++
  lines ["#",
    "# NSX Edge/VNA deployment fails on consumer AMD: a DPDK vendor check rejects",
    "# the real Ryzen brand string. The value below exists to satisfy that check,",
    "# not to describe this host honestly -- it is not this host's real CPU. No",
    "# reboot needed."] ++
  text "echo 'cpuid.brandstring = \"" ++ brand ++ text "\"' >> /etc/vmware/config" ++ newline ++
  lines ["# NVMe memory tiering cannot power on VMs on AMD Ryzen without this. Needs a",
    "# reboot, served by the one below.",
    "echo 'monitor_control.disable_apichv =\"TRUE\"' >> /etc/vmware/config",
    "# Zen 4/5 entropy. entropySources is a BITMASK, not a count, and 2 NARROWS",
    "# the VMkernel to RDRAND only -- it does not widen anything. The host's own",
    "# help states it: \"0=defaults, otherwise bitmask values: 1=interrupts,",
    "# 2=RDRAND, 4=RDSEED, 8=entropyd\". 2 is the right value for a PHYSICAL host;",
    "# 1 (interrupt jitter) is the value for a NESTED one, and several third-party",
    "# summaries quote 1 indiscriminately. Zen4/5 executes RDSEED ~50x slower than",
    "# Zen3 with a high failure rate, so the default path -- which prefers RDSEED",
    "# -- burns CPU. Needs a reboot, served by the one below.",
    "#",
    "# This deliberately REDUCES entropy quality and will fail the DISA STIG",
    "# entropy check (ESXI-80-000245). Acceptable in a lab; do not copy into",
    "# anything audited.",
    "esxcli system settings kernel set -s entropySources -v 2",
    "# The host-side setting above does nothing for GUESTS: it only changes what",
    "# the VMkernel itself consumes. Guest userspace (OpenSSL 3.x, JVMs, anything",
    "# in FIPS mode) spins on RDSEED directly, which is where the NSX and VCFA",
    "# high-CPU reports come from. Masking CPUID leaf 7, EBX bit 18 hides RDSEED",
    "# from guests so they fall back to something that is not pathologically slow.",
    "# The 32 characters are bits 31..0 left to right; the 0 sits at index 13, so",
    "# 31-13 = bit 18 = RDSEED. Reboot required, served by the one below."] ++
  text "# " ++
  text "https://williamlam.com/2026/09/vcf-9-1-1-reducing-cpu-utilization-on-amd-ryz" ++
  text "en-zen4-zen5-by-masking-the-rdseed-instruction.html" ++ newline ++
  lines ["echo 'cpuid.7.ebx = \"-------------0------------------\"' >> /etc/vmware/config",
    "# vSAN's default compression (Zstd) costs more CPU on this hardware than",
    "# LZ4. No reboot needed.",
    "esxcli system settings advanced set -o /VSAN/Vsan2ZdomCompZstd -i 0",
    ""]

/-- `_TAIL.format(…)`. -/
def tail (fqdn : Text) : Text :=
  lines ["# ESX generates its certificates before the hostname is configured, so a",
    "# freshly installed host presents CN=localhost.localdomain. VCF Installer",
    "# compares the certificate common name against the FQDN it is commissioning",
    "# and rejects the host. Set the FQDN, regenerate, then reboot so hostd",
    "# actually serves the new certificate."] ++
  text "esxcli system hostname set --fqdn=" ++ fqdn ++ newline ++
  lines ["/sbin/generate-certificates",
    "",
    "# Out of maintenance mode before the reboot, not after: VCF will not",
    "# commission a host that is in it, nothing below needs it, and a host that",
    "# reboots while still in maintenance mode comes back still in it.",
    "esxcli system maintenanceMode set -e false",
    "",
    "# `reboot`, NOT `esxcli system shutdown reboot`. Its own help says \"The host",
    "# must be in maintenance mode\", and the line above has just left maintenance",
    "# mode -- so the esxcli form fails silently and the host never restarts. Both",
    "# decisions above are individually right and together they cancelled out.",
    "#",
    "# The consequence is not a missing reboot, it is a WRONG CERTIFICATE. ESX",
    "# generates a cert at boot, generate-certificates above makes a second one",
    "# seconds later, and hostd keeps serving the first through its API while",
    "# rhttpproxy presents the second on the wire. The vCSA CLI installer asks the",
    "# API, pins that thumbprint, connects, and gets the other one:",
    "#   Failed to obtain vc thumbprint ... Fingerprints did not match.",
    "#   Expected \"5e9d5b51...\", got \"ff1e247e...\"",
    "# That killed a 9.1.1 bring-up at Datacenter Creation twice on 2026-09-26,",
    "# with two certs 18 seconds apart and a host whose uptime proved it had never",
    "# rebooted. Verified against esxcli's own help text on a live 9.1.1 host.",
    "reboot"]

/-- `_DATASTORE_RENAME.format(…)`. -/
def datastoreRename (localDatastore : Text) : Text :=
  lines ["# Rename the local VMFS datastore. Every ESX install names it \"datastore1\", so",
    "# three hosts arrive at vCenter with three datastores of the same name and",
    "# vCenter disambiguates them by appending (1)/(2) in registration order --",
    "# which is not stable, so the suffix a host gets is not either. Named from the",
    "# host, not from storage.datastoreName: that field names the vSAN datastore",
    "# this cluster is about to build, and reusing it here would collide with it."] ++
  text "vim-cmd hostsvc/datastore/rename datastore1 " ++ localDatastore ++ newline ++
  lines [""]

/-- `_DATASTORE_PRESERVED`. -/
def datastorePreserved : Text :=
  lines ["# The local VMFS datastore was preserved by the install (--preservevmfs) and",
    "# keeps its existing label, so it is not renamed.",
    ""]

/-- `_GENERIC_EPYC_BRAND`. -/
def genericEpycBrand : Text := text "AMD EPYC Ryzen 9"

/-! ### The blocks -/

/-- `workarounds_block`. -/
def workaroundsBlock (runtime : Runtime) (hostWorkarounds : List Text) (cpuModel : Value) :
    Run Text :=
  if !hostWorkarounds.contains (text "consumer-amd") then pure []
  else if !cpuModel.truthy then pure (consumerAmdWorkarounds genericEpycBrand)
  else do
    let model ← runtime.str cpuModel
    pure (consumerAmdWorkarounds (text "AMD EPYC Ryzen 9 " ++ model))

/-- `memory_tiering_block`. -/
def memoryTieringBlock (runtime : Runtime) (device : Text) (ratio : ℤ) (tierGb ramGb : Double) : Text :=
  memoryTiering device (decimal ratio) (plain runtime tierGb) (plain runtime ramGb)

/-- `datastore_rename_block`. -/
def datastoreRenameBlock (localDatastore : Text) (preserved : Bool) : Text :=
  if preserved then datastorePreserved else datastoreRename localDatastore

/-- `ssh_key_block`. -/
def sshKeyBlock (publicKey : Text) : Text := if publicKey = [] then [] else sshKey publicKey

/-- What `render_firstboot` is given. -/
structure Firstboot where
  fqdn : Text
  ntpOpts : Text
  mtu : Text
  localDatastore : Text
  sshPublicKey : Text
  tiering : Text
  workarounds : Text
  preserveLocalVmfs : Bool

/-- `render_firstboot`. -/
def renderFirstboot (firstboot : Firstboot) : Text :=
  preamble ++
    services firstboot.ntpOpts firstboot.mtu
      (datastoreRenameBlock firstboot.localDatastore firstboot.preserveLocalVmfs) ++
    sshKeyBlock firstboot.sshPublicKey ++ firstboot.tiering ++ firstboot.workarounds ++
    tail firstboot.fqdn

end VcfSpec

end LocalGpuCluster
