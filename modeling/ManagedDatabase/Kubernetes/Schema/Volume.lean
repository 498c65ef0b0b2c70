/-
The shape of a volume of a pod: a name and one of many places where its files come from.
-/
import ManagedDatabase.Kubernetes.Schema.Container

namespace ManagedDatabase.Kubernetes.Shape

/-- A key of an object and the file it becomes. -/
def keyFile : Shape := fields (each text ["key", "path"] ++ [("mode", whole 32)])

/-- A field of the pod and the file it becomes. -/
def fieldFile : Shape :=
  fields [("fieldRef", fieldSelector), ("mode", whole 32), ("path", text),
    ("resourceFieldRef", resourceSelector)]

/-- Files for the keys of an object that may be absent. -/
def keyFiles : Shape := fields [("items", list keyFile), ("name", text), ("optional", flag)]

def tokenFile : Shape :=
  fields (each text ["audience", "path"] ++ [("expirationSeconds", whole 64)])

/-- One of the sources that a projected volume puts together. -/
def projection : Shape :=
  fields (each keyFiles ["configMap", "secret"]
    ++ [("downwardAPI", fields [("items", list fieldFile)]), ("serviceAccountToken", tokenFile)])

def claimSpec : Shape :=
  fields (each text ["storageClassName", "volumeMode", "volumeName"]
    ++ [("accessModes", texts), ("dataSource", textFields ["apiGroup", "kind", "name"]),
      ("dataSourceRef", textFields ["apiGroup", "kind", "name", "namespace"]),
      ("resources", resources), ("selector", labelSelector)])

def claimTemplate : Shape := fields [("metadata", metadata), ("spec", claimSpec)]

/-- Volumes made from objects of the cluster. -/
def clusterVolumes : List (String × Shape) := [
  ("configMap", fields [("defaultMode", whole 32), ("items", list keyFile), ("name", text),
    ("optional", flag)]),
  ("downwardAPI", fields [("defaultMode", whole 32), ("items", list fieldFile)]),
  ("emptyDir", textFields ["medium", "sizeLimit"]),
  ("ephemeral", fields [("volumeClaimTemplate", claimTemplate)]),
  ("hostPath", textFields ["path", "type"]),
  ("persistentVolumeClaim", fields [("claimName", text), ("readOnly", flag)]),
  ("projected", fields [("defaultMode", whole 32), ("sources", list projection)]),
  ("secret", fields [("defaultMode", whole 32), ("items", list keyFile), ("optional", flag),
    ("secretName", text)])]

/-- A volume of some storage system: texts, whether it is read only, and what else it needs. -/
def storage (keys : List String) (more : List (String × Shape)) : Shape :=
  fields (each text keys ++ ("readOnly", flag) :: more)

/-- Volumes on disks and in clouds. -/
def diskVolumes : List (String × Shape) := [
  ("awsElasticBlockStore", storage ["fsType", "volumeID"] [("partition", whole 32)]),
  ("azureDisk", storage ["cachingMode", "diskName", "diskURI", "fsType", "kind"] []),
  ("azureFile", storage ["secretName", "shareName"] []),
  ("cinder", storage ["fsType", "volumeID"] [("secretRef", localReference)]),
  ("csi", storage ["driver", "fsType"]
    [("nodePublishSecretRef", localReference), ("volumeAttributes", textTable)]),
  ("fc", storage ["fsType"] [("lun", whole 32), ("targetWWNs", texts), ("wwids", texts)]),
  ("flexVolume", storage ["driver", "fsType"]
    [("options", textTable), ("secretRef", localReference)]),
  ("gcePersistentDisk", storage ["fsType", "pdName"] [("partition", whole 32)]),
  ("photonPersistentDisk", textFields ["fsType", "pdID"]),
  ("portworxVolume", storage ["fsType", "volumeID"] []),
  ("scaleIO", storage ["fsType", "gateway", "protectionDomain", "storageMode", "storagePool",
    "system", "volumeName"] [("secretRef", localReference), ("sslEnabled", flag)]),
  ("storageos", storage ["fsType", "volumeName", "volumeNamespace"]
    [("secretRef", localReference)]),
  ("vsphereVolume", textFields ["fsType", "storagePolicyID", "storagePolicyName", "volumePath"])]

/-- Volumes on other machines. -/
def networkVolumes : List (String × Shape) := [
  ("cephfs", storage ["path", "secretFile", "user"]
    [("monitors", texts), ("secretRef", localReference)]),
  ("flocker", textFields ["datasetName", "datasetUUID"]),
  ("gitRepo", textFields ["directory", "repository", "revision"]),
  ("glusterfs", storage ["endpoints", "path"] []),
  ("iscsi", storage ["fsType", "initiatorName", "iqn", "iscsiInterface", "targetPortal"]
    (each flag ["chapAuthDiscovery", "chapAuthSession"]
      ++ [("lun", whole 32), ("portals", texts), ("secretRef", localReference)])),
  ("nfs", storage ["path", "server"] []),
  ("quobyte", storage ["group", "registry", "tenant", "user", "volume"] []),
  ("rbd", storage ["fsType", "image", "keyring", "pool", "user"]
    [("monitors", texts), ("secretRef", localReference)])]

def volume : Shape :=
  fields (("name", text) :: clusterVolumes ++ diskVolumes ++ networkVolumes)

end ManagedDatabase.Kubernetes.Shape
