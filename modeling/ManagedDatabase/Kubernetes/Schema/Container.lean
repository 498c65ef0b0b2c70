/-
The shape of a container as a pod declares it: its image and command, environment, ports, probes,
resources, mounts and privileges; and of what a node reports of it.
-/
import ManagedDatabase.Kubernetes.Schema.Basic

namespace ManagedDatabase.Kubernetes.Shape

def containerPort : Shape :=
  fields (each text ["hostIP", "name", "protocol"]
    ++ each (whole 32) ["containerPort", "hostPort"])

/-- A key in an object that may be absent. -/
def keySelector : Shape := fields (each text ["key", "name"] ++ [("optional", flag)])

/-- A field of the pod itself. -/
def fieldSelector : Shape := textFields ["apiVersion", "fieldPath"]

/-- A limit or request of a container. -/
def resourceSelector : Shape := textFields ["containerName", "divisor", "resource"]

def environmentSource : Shape :=
  fields [("configMapKeyRef", keySelector), ("fieldRef", fieldSelector),
    ("resourceFieldRef", resourceSelector), ("secretKeyRef", keySelector)]

def environmentVariable : Shape :=
  fields (each text ["name", "value"] ++ [("valueFrom", environmentSource)])

/-- Variables for all keys of an object. -/
def environmentImport : Shape :=
  fields (each (fields [("name", text), ("optional", flag)]) ["configMapRef", "secretRef"]
    ++ [("prefix", text)])

def command : Shape := fields [("command", texts)]

def webRequest : Shape :=
  fields (each text ["host", "path", "scheme"]
    ++ [("httpHeaders", list (textFields ["name", "value"])), ("port", wholeOrText)])

def socketCheck : Shape := fields [("host", text), ("port", wholeOrText)]

/-- What is done when a container has started or is going to stop. -/
def lifecycleHandler : Shape :=
  fields [("exec", command), ("httpGet", webRequest), ("tcpSocket", socketCheck)]

def lifecycle : Shape := fields (each lifecycleHandler ["postStart", "preStop"])

def probe : Shape :=
  fields (each (whole 32) ["failureThreshold", "initialDelaySeconds", "periodSeconds",
      "successThreshold", "timeoutSeconds"]
    ++ [("exec", command), ("grpc", fields [("port", whole 32), ("service", text)]),
      ("httpGet", webRequest), ("tcpSocket", socketCheck),
      ("terminationGracePeriodSeconds", whole 64)])

/-- Resources that are guaranteed and allowed; quantities are texts. -/
def resources : Shape :=
  fields (each textTable ["limits", "requests"] ++ [("claims", list localReference)])

def linuxLabels : Shape := textFields ["level", "role", "type", "user"]

def callProfile : Shape := textFields ["localhostProfile", "type"]

def windowsOptions : Shape :=
  fields (each text ["gmsaCredentialSpec", "gmsaCredentialSpecName", "runAsUserName"]
    ++ [("hostProcess", flag)])

/-- As whom a container runs, and what it may do. -/
def containerSecurity : Shape :=
  fields (each flag ["allowPrivilegeEscalation", "privileged", "readOnlyRootFilesystem",
      "runAsNonRoot"]
    ++ each (whole 64) ["runAsGroup", "runAsUser"]
    ++ [("capabilities", fields (each texts ["add", "drop"])), ("procMount", text),
      ("seLinuxOptions", linuxLabels), ("seccompProfile", callProfile),
      ("windowsOptions", windowsOptions)])

def volumeMount : Shape :=
  fields (each text ["mountPath", "mountPropagation", "name", "subPath", "subPathExpr"]
    ++ [("readOnly", flag)])

def containerFields : List (String × Shape) :=
  each text ["image", "imagePullPolicy", "name", "terminationMessagePath",
      "terminationMessagePolicy", "workingDir"]
    ++ each texts ["args", "command"]
    ++ each flag ["stdin", "stdinOnce", "tty"]
    ++ each probe ["livenessProbe", "readinessProbe", "startupProbe"]
    ++ [("env", list environmentVariable), ("envFrom", list environmentImport),
      ("lifecycle", lifecycle), ("ports", list containerPort),
      ("resizePolicy", list (textFields ["resourceName", "restartPolicy"])),
      ("resources", resources), ("securityContext", containerSecurity),
      ("volumeDevices", list (textFields ["devicePath", "name"])),
      ("volumeMounts", list volumeMount)]

def container : Shape := fields containerFields

/-- A container that was put into a pod later, and the container it looks at. -/
def ephemeralContainer : Shape := fields (("targetContainerName", text) :: containerFields)

/-- Whether a container runs, waits or has ended. -/
def containerState : Shape :=
  fields [("running", fields [("startedAt", time)]),
    ("terminated", fields (each text ["containerID", "message", "reason"]
      ++ each (whole 32) ["exitCode", "signal"] ++ each time ["finishedAt", "startedAt"])),
    ("waiting", textFields ["message", "reason"])]

def containerStatus : Shape :=
  fields (each text ["containerID", "image", "imageID", "name"] ++ each flag ["ready", "started"]
    ++ each containerState ["lastState", "state"]
    ++ [("allocatedResources", textTable), ("resources", resources), ("restartCount", whole 32)])

end ManagedDatabase.Kubernetes.Shape
