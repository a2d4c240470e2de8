/-
This file holds the texts of `provision.py`: the patterns that what is published must match, the
findings, and the artifacts. A boot configuration is the one of the ISO with two lines replaced and
two made relative.
-/

import LocalGpuCluster.FirstBoot
import LocalGpuCluster.SpecCredentials

namespace LocalGpuCluster

namespace VcfSpec

/-! ### The patterns -/

/-- A pattern repeated a number of times. -/
def timesRe (count : ℕ) (regex : Regex CodePoint) : Regex CodePoint :=
  .all (List.replicate count regex)

def isLetterOrDigit (point : CodePoint) : Bool := isNamePart point && point.val ≠ 0x5F

/-- `_SHA512_CRYPT_RE` without its anchors. -/
def sha512CryptRe : Regex CodePoint :=
  .all [.literal (text "$6$"),
    .plus (.one fun point => point.val ≠ 0x24 && point.val ≠ 0x3A && !point.isSpace),
    .literal (text "$"),
    timesRe 86 (.one fun point => isLetterOrDigit point || point.val = 0x2E || point.val = 0x2F)]

/-- `_SSH_PUBLIC_KEY_RE` without its anchors. -/
def sshPublicKeyRe : Regex CodePoint :=
  .all [.oneOf (["ssh-ed25519", "ssh-rsa", "ssh-dss", "ecdsa-sha2-nistp256", "ecdsa-sha2-nistp384",
      "ecdsa-sha2-nistp521", "sk-ssh-ed25519@openssh.com",
      "sk-ecdsa-sha2-nistp256@openssh.com"].map fun word => .literal (text word)),
    .plus (.one CodePoint.isSpace),
    .plus (.one fun point => isLetterOrDigit point || point.val = 0x2B || point.val = 0x2F),
    timesRe 3 (.optional (.one fun point => point.val = 0x3D)),
    .optional (.seq (.plus (.one CodePoint.isSpace))
      (.plus (.one fun point => !point.isSpace && point.val ≠ 0x27 && point.val ≠ 0x5C)))]

/-- `_PRIVATE_KEY_RE`. -/
def privateKeyRe : Regex CodePoint :=
  .all [.literal (text "-----BEGIN "),
    .star true (.one fun point =>
      0x41 ≤ point.val && point.val ≤ 0x5A || 0x30 ≤ point.val && point.val ≤ 0x39 ||
        point.val = 0x20),
    .literal (text "PRIVATE KEY-----")]

/-- `_PRIVATE_KEY_RE.search(content)`. -/
def holdsPrivateKey (content : Text) : Bool :=
  content.tails.any fun rest => (privateKeyRe.firstRest rest).isSome

/-! ### The findings -/

def noBootServer : Finding :=
  docsError "VCF-PROV-NO-BOOT-SERVER" (text "/provisioning")
    (text "No provisioning.bootServerUrl, so a booting host has nowhere to fetch its kickstart.")
    "Add provisioning.bootServerUrl pointing at the HTTP server that serves the boot artifacts."
    setupUrl

def noMgmtNetwork : Finding :=
  docsError "VCF-PROV-NO-MGMT-NETWORK" (text "/networks/management")
    (text "networks.management needs a usable subnet and gateway before a kickstart can set static addressing.")
    "Give networks.management a CIDR subnet and a gateway."
    setupUrl

def noRootHash : Finding :=
  docsError "VCF-PROV-NO-ROOT-HASH" (text "/credentials/esxRootHash")
    (text "No credentials.esxRootHash, so the kickstart has no root password to set.")
    "Add credentials.esxRootHash as a $\x7breference\x7d (e.g. $\x7besx_root_hash\x7d) resolving to a SHA-512 crypt hash. Generate one with: openssl passwd -6. The kickstart is published over unauthenticated HTTP, so it must carry a hash and never a password."
    setupUrl

def sshKeyNotPublic : Finding :=
  docsError "VCF-PROV-SSH-KEY-NOT-PUBLIC" (text "/provisioning/sshPublicKey")
    (text "provisioning.sshPublicKey is not a recognised OpenSSH public key.")
    "Give the one-line contents of a .pub file (ssh-ed25519/ssh-rsa/ecdsa-sha2-nistp* followed by the base64 blob). Not a private key, not a path, and not a $\x7breference\x7d: this value is written verbatim into a kickstart published over unauthenticated HTTP, so it is refused unless it is visibly a public key."
    setupUrl

def noEsxBootCfg : Finding :=
  docsError "VCF-PROV-NO-ESX-BOOT-CFG" (text "/provisioning")
    (text "No ESX boot.cfg was supplied, so no UEFI boot configs were generated.")
    "Copy the ESX ISO contents to the boot server, then pass that directory's own boot.cfg content as esx_boot_cfg. It carries the modules=, build= and updated= lines that only the ISO knows; a synthesised boot.cfg cannot boot."
    setupUrl

def noMac (path host : Text) : Finding :=
  docsError "VCF-PROV-NO-MAC" path
    (text "Host " ++ host ++
      text " has no provisioningMac, so it cannot be given a per-MAC boot config.")
    "Record the MAC of the NIC that UEFI HTTP boots. It is how a booting host finds its own kickstart."
    setupUrl

def bootVmfsMode (path host value : Text) : Finding :=
  docsError "VCF-PROV-BOOT-VMFS-MODE" path
    (text "Host " ++ host ++ text " has hardware.bootDiskVmfs '" ++ value ++
      text "', which is not usable here, so no artifacts were generated for this host.")
    "Use 'overwrite' (default: the install wipes the local VMFS datastore on the boot disk) or 'preserve' (--preservevmfs plus paranoid: the install keeps it, or aborts). 'preserve' cannot be combined with hardware.bootDiskClaimedByVsan: true -- a vSAN-claimed boot disk has no VMFS to keep."
    setupUrl

/-! ### The texts -/

/-- The network line of `_KICKSTART_HEAD.format(…)`. -/
def kickstartNetwork (fqdn mac ip netmask gateway nameservers vlanOpt : Text) : Text :=
  text "network --bootproto=static --device=" ++ mac ++ text " --ip=" ++ ip ++
  text " --netmask=" ++ netmask ++ text " --gateway=" ++ gateway ++ text " --nameserver=" ++
  nameservers ++ text " --hostname=" ++ fqdn ++ text " --addvmportgroup=0" ++ vlanOpt ++
  newline

/-- `_KICKSTART_HEAD.format(…)`. -/
def kickstartHead (fqdn rootHash paranoidLine bootDisk vmfsOpt overwritevsanOpt mac ip netmask gateway
    nameservers vlanOpt : Text) : Text :=
  text "# ESX kickstart for " ++ fqdn ++ newline ++
  lines ["# Generated by vcfspec from the lab inventory. Do not hand-edit: regenerate.",
    "#",
    "# The root credential below is a $\x7breference\x7d to a SHA-512 crypt hash, not a",
    "# password. Substitute it when you publish this file. The file sits on an",
    "# unauthenticated HTTP server that every host on the provisioning VLAN can",
    "# read, so a hash is the only acceptable thing to put here.",
    "vmaccepteula"] ++
  text "rootpw --iscrypted " ++ rootHash ++ newline ++
  paranoidLine ++ text "install --disk=" ++ bootDisk ++ text " " ++ vmfsOpt ++
  overwritevsanOpt ++ newline ++
  kickstartNetwork fqdn mac ip netmask gateway nameservers vlanOpt ++
  lines ["reboot",
    ""]

/-- The lines of `_manifest` before the names of the files. -/
def manifestHead (esxVersion bootUrl payloadUrl : Text) : Text :=
  text "# ESX provisioning artifacts -- ESX " ++ esxVersion ++ newline ++
  text "# Publish all of these under " ++ bootUrl ++ text "/" ++ newline ++
  lines ["#",
    "# BEFORE PUBLISHING: substitute the $\x7breference\x7d in each kickstart's",
    "# rootpw line with a SHA-512 crypt hash (openssl passwd -6). These",
    "# files are served over unauthenticated HTTP and the ESX installer",
    "# does not validate TLS, so anything on the provisioning VLAN can",
    "# read whatever you put here. A hash, never a password.",
    "#",
    "# esxRoot and esxRootHash MUST be the same password. Nothing here can",
    "# check that: the tool holds neither value, only the references. If",
    "# they diverge the host installs with one password and VCF commissions",
    "# with another -- a clean install followed by a credential failure,",
    "# which is the expensive shape of this mistake. Verify before you",
    "# publish, using the salt from your own hash:",
    "#   openssl passwd -6 -salt \"$(printf %s \"$HASH\" | cut -d$ -f3)\" \"$PLAINTEXT\"",
    "# and confirm it reproduces $HASH exactly.",
    "#"] ++
  text "# Unpack the ESX " ++ esxVersion ++ text " ISO to " ++ payloadUrl ++
  text "/ and place" ++ newline ++
  text "# the UEFI loader at " ++ bootUrl ++ text "/. Each 01-<mac>/boot.cfg below is a" ++
  newline ++
  lines ["# sibling of that loader, not of the kickstarts.",
    "#",
    "# The loader ships as EFI/BOOT/BOOTX64.EFI -- there is no file named",
    "# mboot.efi on the ISO, though the docs call it that. BOOTX64.EFI is",
    "# the multiboot loader they mean. MBOOT.C32 is the BIOS/syslinux",
    "# variant and is NOT it."] ++
  text "# Publish it as " ++ bootUrl ++ text "/bootx64.efi -- the HTTP script's `chain`" ++
  newline ++
  lines ["# line below must name that same path.",
    "#",
    "# THE BOOT CHAIN IS PXE -> iPXE -> HTTP. Not UEFI HTTP Boot: this",
    "# firmware class does not have it. On the Minisforum BD795i SE the",
    "# HTTP Boot setup items are compiled into the image but their IFR is",
    "# `suppressif <uint64 constant 1>`, so they are unconditionally hidden",
    "# and only IPv4/IPv6 PXE remain. Look at Advanced > Network Stack",
    "# Configuration before assuming your board differs.",
    "#",
    "# TFTP then creates a second problem, because mboot resolves prefix=",
    "# using the transport IT was loaded over -- an http:// prefix is only",
    "# legal if the loader itself arrived over HTTP. Chainloading iPXE is",
    "# what reconciles the two: a small file over TFTP, everything else",
    "# over HTTP.",
    "#",
    "#   DHCP:  next-server    = a TFTP server on the client's OWN subnet",
    "#          boot-file-name = snponly.efi",
    "#   TFTP:  serve iPXE's snponly.efi. Debian's `ipxe` package ships it",
    "#          prebuilt at ~278 KiB (boot.ipxe.org no longer serves",
    "#          binaries). snponly binds the firmware's own SNP rather",
    "#          than needing a native iPXE driver for your NIC.",
    "#   iPXE:  build with EMBED= a script that only chains to a script on",
    "#          THIS server, so changing boot logic never means rebuilding",
    "#          and reflashing the binary.",
    "#",
    "# That HTTP script must PROBE for the per-MAC boot.cfg before chaining:",
    "#     imgfetch --name probe <cfg> || goto nopending",
    "#     imgfree probe",
    "#     chain <loader> -c <cfg> || goto nopending",
    "# `chain` reports success the moment the binary loads, so a missing -c",
    "# config is NOT caught by `||`. mboot takes control, iPXE is already",
    "# gone, and the host dies with 'Fatal error: 15 (Not found)' with",
    "# nothing left able to hand back to the firmware. The probe is the",
    "# only reason the fall-through below works.",
    "#",
    "# VLANs: PXE firmware sends UNTAGGED frames. If management is a tagged",
    "# VLAN -- it usually is -- the firmware's DHCP lands in whatever the",
    "# switch port's PVID is and never reaches your server, while the",
    "# installed ESX works fine on the same cable because ESX tags. Give the",
    "# host ports a dedicated untagged PROVISIONING VLAN as their PVID and",
    "# leave management tagged on those same ports. boot.cfg's kernelopt",
    "# vlanid=/ip= then moves the INSTALLER onto the tagged management VLAN",
    "# in time to fetch the kickstart, so management never goes native.",
    "#",
    "# BIOS pass, once per chassis, before the install:",
    "#   - UEFI mode (not legacy/CSM)",
    "#   - Network stack + IPv4 PXE enabled (HTTP Boot will not be there)",
    "#   - Secure Boot OFF  <-- load-bearing: %firstboot is silently",
    "#     skipped when Secure Boot is on. SSH, NTP and the certificate",
    "#     regeneration below simply do not run, kickstart.log records the",
    "#     skip, and the host looks installed but fails commissioning.",
    "#   - NIC ahead of disk in boot order -- and LEAVE it there, see below",
    "#   - AC recovery = always on",
    "#",
    "# AFTER each host installs, while the installer is still running:"] ++
  text "#   - Remove " ++ bootUrl ++ text "/01-<mac>/ for that host. That directory IS the" ++
  newline ++
  lines ["#     install switch: present means install, absent means the HTTP",
    "#     stage exits and the firmware falls through to the local disk.",
    "#     The kickstart ends in `reboot` and the NIC is still first, so",
    "#     leaving it in place reinstalls the host forever and %firstboot",
    "#     never gets to run. Remove it once the kickstart has been fetched",
    "#     -- the running install does not need it any more.",
    "#   - Do NOT reorder the boot devices instead. Leaving the NIC first is",
    "#     what keeps a later rebuild a mkdir on this server rather than a",
    "#     trip to a chassis that has no BMC.",
    "#   - Secure Boot stays OFF unless your platform's TPM is FIFO/TIS.",
    "#     The Minisforum fTPM is CRB-only, which ESX does not support, so",
    "#     turning it back on buys no attestation and re-arms the",
    "#     %firstboot skip for the next rebuild.",
    ""]

/-- `_manifest`. -/
def manifest (bootUrl payloadUrl esxVersion : Text) (kickstarts bootConfigs : List (Text × Text)) :
    Text :=
  let names := fun files : List (Text × Text) =>
    (files.map Prod.fst).insertionSort fun first second => first ≤ second
  manifestHead esxVersion bootUrl payloadUrl ++
    (names bootConfigs ++ names kickstarts).flatMap fun name => name ++ newline

/-! ### The boot configuration -/

/-- `content.split()`. -/
def words (content : Text) : List Text :=
  (content.splitOnP fun point => point.isSpace).filter (· ≠ [])

/-- `_relativise`. -/
def relativise (value : Text) : Text :=
  Text.join (text " ") ((words value).map fun token =>
    if Text.startsWith token (text "/") then token.drop 1 else token)

/-- The key of a line, empty where it has no equals sign. -/
def bootCfgKey (runtime : Runtime) (line : Text) : Text :=
  if line.contains 0x3D then
    runtime.lower (Text.strip CodePoint.isSpace (line.takeWhile fun point => point ≠ 0x3D))
  else []

/-- What becomes of a line. -/
def rewriteLine (runtime : Runtime) (payloadUrl kernelopt line : Text) : Text :=
  let key := bootCfgKey runtime line
  if key = text "prefix" then text "prefix=" ++ payloadUrl
  else if key = text "kernelopt" then text "kernelopt=" ++ kernelopt
  else if key = text "kernel" || key = text "modules" then
    key ++ text "=" ++ relativise ((line.dropWhile fun point => point ≠ 0x3D).drop 1)
  else line

/-- `_rewrite_boot_cfg`. -/
def rewriteBootCfg (runtime : Runtime) (isoBootCfg payloadUrl kernelopt : Text) : Text :=
  let isoLines := Text.splitLines isoBootCfg
  let keys := isoLines.map (bootCfgKey runtime)
  let out := isoLines.map (rewriteLine runtime payloadUrl kernelopt) ++
    (if keys.contains (text "prefix") then [] else [text "prefix=" ++ payloadUrl]) ++
    (if keys.contains (text "kernelopt") then [] else [text "kernelopt=" ++ kernelopt])
  Text.stripRight (fun point => point = 0xA) (Text.join newline out) ++ newline

end VcfSpec

end LocalGpuCluster
