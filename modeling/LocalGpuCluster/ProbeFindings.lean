/-
This file holds the findings of the probes of `vcfspec`, as `finding_for` builds them from the rule
catalogue. Their arguments are texts that were written before.
-/

import LocalGpuCluster.SpecDevices

namespace LocalGpuCluster

namespace VcfSpec

/-- Where the documentation asks for both directions of the DNS. -/
def environmentUrl : Text :=
  text "https://techdocs.broadcom.com/us/en/vmware-cis/vcf/vcf-9-0-and-later/9-1/deployment/deploying-a-new-vmware-cloud-foundation-or-vmware-vsphere-foundation-private-cloud-/preparing-your-environment.html"

/-- A finding of the catalogue without a link. -/
def docsFinding (severity : Severity) (code : String) (path message : Text) (fix : String) : Finding :=
  { docsError code path message fix [] with severity }

def noReverseDns (path ip fqdn : Text) : Finding :=
  docsError "VCF-PROBE-NO-REVERSE-DNS" path
    (text "No reverse DNS record for " ++ ip ++ text " (" ++ fqdn ++ text ").")
    "Add a PTR record; VCF validates forward and reverse for every host."
    environmentUrl

def reverseMismatch (path ip resolved fqdn : Text) : Finding :=
  docsError "VCF-PROBE-REVERSE-MISMATCH" path
    (text "Reverse DNS for " ++ ip ++ text " says " ++ resolved ++
      text ", but the inventory calls it " ++ fqdn ++ text ".")
    "Correct the PTR record so it matches the host's FQDN. A PTR that resolves to a different name is worse than a missing one: VCF validates both directions and fails obscurely on the mismatch."
    environmentUrl

def forwardMismatch (path fqdn resolved expected : Text) : Finding :=
  docsError "VCF-PROBE-FORWARD-MISMATCH" path
    (fqdn ++ text " resolves to " ++ resolved ++ text ", but the inventory says " ++ expected ++
      text ".")
    "Correct the A record or the inventory so they agree."
    environmentUrl

def targetBlocked (path target : Text) : Finding :=
  docsFinding .warning "VCF-PROBE-TARGET-BLOCKED" path
    (text "Refused to probe " ++ target ++ text ": outside the configured allowlist.")
    "Add the range to the probe allowlist if it really is yours."

def nameBlocked (path name : Text) : Finding :=
  docsFinding .warning "VCF-PROBE-NAME-BLOCKED" path
    (text "Refused to resolve " ++ name ++ text ": outside the configured DNS name allowlist.")
    "Pass --allowlist-domain with the DNS suffix your lab really uses; every host and appliance name under it is then resolved. With none configured no forward lookup is issued at all, so expect one of these per name in the document: an IP allowlist cannot gate a name, because the query that would reveal the IP is itself the exfiltration channel. The appliance names (vCenter, SDDC Manager, the NSX managers and VIP, the VSP names) have no declared address for an IP allowlist to gate them by at all, so this suffix is the only containment they have."

def nothingPermitted (count : ℕ) : Finding :=
  docsFinding .error "VCF-PROBE-NOTHING-PERMITTED" (text "/hosts")
    (text "Probes were requested, but the allowlist permitted none of the " ++ decimal count ++
      text " host(s) in this document, so no host was checked.")
    "Correct --allowlist so it covers the management network these hosts are on, or drop --probe. A non-empty allowlist that matches no host checks exactly as much as no allowlist at all."

def seamUnusable (seam reason : Text) : Finding :=
  docsFinding .error "VCF-PROBE-SEAM-UNUSABLE" (text "/")
    (text "Probes were requested, but the injected " ++ seam ++ text " is unusable (" ++ reason ++
      text "), so nothing was probed.")
    "Pass a callable that accepts the call the seam receives: resolve(name, want_reverse, want_canonical), connect(host, port, timeout), or a zero-argument resolver configuration reader. The resolver's third argument asks for a combined forward answer -- (canonical name, primary address) from a single lookup -- which the appliance round-trip check requires. This is reported rather than tolerated because the alternative is silent: an unusable resolver's TypeError is caught alongside every other resolver failure, so every name would be reported as unresolvable while the run still passed. Only a caller of run_probes() injecting its own seam can see this; validate_document(), the CLI and the MCP server never do."

def probeUnknown (path target reason : Text) : Finding :=
  docsFinding .info "VCF-PROBE-UNKNOWN" path
    (text "Could not probe " ++ target ++ text ": " ++ reason ++ text ".")
    "Re-run from a host on the management network to confirm."

def resolverMismatch (runner declared : Text) : Finding :=
  docsFinding .info "VCF-PROBE-RESOLVER-MISMATCH" (text "/dns/nameservers")
    (text "Probe answers came from " ++ runner ++
      text ", which is none of the declared nameservers (" ++ declared ++ text ").")
    "This is not necessarily wrong -- a forwarder can resolve the lab zone correctly, systemd-resolved reports only 127.0.0.53, and Windows has no resolv.conf at all. It tells you the answers above were not obtained from the DNS the deployment will use. Re-run from the management network to be certain."

end VcfSpec

end LocalGpuCluster
