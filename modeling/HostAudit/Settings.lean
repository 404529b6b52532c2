import HostAudit.Catalog.Placeholder

/-
This file holds the settings of the program.
-/

namespace HostAudit

/-- How to ask for outputs: the shell that runs commands, and the process whose environment is asked
for where a catalog does not tell. -/
structure ProbeSettings where
  shell : String
  process : Option String
deriving DecidableEq, Repr

/-- What to run when the command line does not tell: ids to be skipped, the target that catalogs
must have, and the catalogs. -/
structure RunSettings where
  skipped : List String
  target : Option String
  catalogs : List String
deriving DecidableEq, Repr

structure Settings where
  probe : ProbeSettings
  substitutions : Substitutions
  run : RunSettings
deriving DecidableEq, Repr

/-- The shell that is used unless the settings name another. -/
def defaultShell : String := "/bin/sh"

def ProbeSettings.standard : ProbeSettings := ⟨defaultShell, none⟩

def RunSettings.standard : RunSettings := ⟨[], none, []⟩

namespace Settings

def standard : Settings := ⟨.standard, [], .standard⟩

/-- Settings to begin with: programs and files of a usual host. -/
def starter : Settings := { standard with substitutions := [
  ("apiserverbin", "kube-apiserver"),
  ("apiserverconf", "/etc/kubernetes/manifests/kube-apiserver.yaml"),
  ("etcdbin", "etcd"),
  ("etcdconf", "/etc/kubernetes/manifests/etcd.yaml"),
  ("kubeletbin", "kubelet"),
  ("kubeletcafile", "/etc/kubernetes/pki/ca.crt"),
  ("kubeletconf", "/var/lib/kubelet/config.yaml"),
  ("kubeletkubeconfig", "/etc/kubernetes/kubelet.conf")] }

end Settings

end HostAudit
